/-
Text of numbers: `%d`, `_ttoi` and the functions by which a string is cut.

A number that is written and stands between blanks is read back, wherever the reader
stops behind it.
-/
import Mathlib.Data.List.Basic
import Mathlib.Data.Int.Basic

namespace CString

def formatInt (value : Int) : List Char :=
  if value < 0 then '-' :: Nat.toDigits 10 value.natAbs else Nat.toDigits 10 value.natAbs

def isSpace (char : Char) : Bool := char == ' ' || (9 ≤ char.toNat && char.toNat ≤ 13)

def readDigits (text : List Char) : Nat := Nat.ofDigitChars 10 (text.takeWhile Char.isDigit) 0

/-- `_ttoi`: blanks, a sign, digits; a value out of the range of `int` is cut to it. -/
def ttoi (text : List Char) : Int :=
  let value : Int :=
    match text.dropWhile isSpace with
    | '-' :: rest => -(readDigits rest : Int)
    | '+' :: rest => readDigits rest
    | rest => readDigits rest
  max (-2147483648) (min 2147483647 value)

/-- The first position of a character, or `-1`. -/
def find (text : List Char) (char : Char) : Int :=
  match text.findIdx? (· == char) with
  | some position => position
  | none => -1

/-- `Left`: a negative count counts as zero. -/
def left (text : List Char) (count : Int) : List Char := text.take count.toNat

def mid (text : List Char) (first : Int) : List Char := text.drop first.toNat

section Find

variable {front back : List Char} {char : Char}

theorem find_append (absent : char ∉ front) :
    find (front ++ char :: back) char = front.length := by
  have position : (front ++ char :: back).findIdx? (· == char) = some front.length := by
    rw [List.findIdx?_eq_some_iff_getElem]
    refine ⟨by simp, by simp, ?_⟩
    intro index before
    rw [List.getElem_append_left before]
    have differs : front[index] ≠ char := fun same => absent (same ▸ List.getElem_mem before)
    simpa using differs
  rw [find, position]

theorem left_find (absent : char ∉ front) :
    left (front ++ char :: back) (find (front ++ char :: back) char) = front := by
  rw [find_append absent, left, Int.toNat_natCast, List.take_left]

theorem mid_find (absent : char ∉ front) :
    mid (front ++ char :: back) (find (front ++ char :: back) char + 1) = back := by
  have nextEq : ((front.length : Int) + 1).toNat = front.length + 1 := by omega
  rw [find_append absent, mid, nextEq, List.drop_append, List.drop_of_length_le (by omega)]
  simp

end Find

theorem isDigit_of_mem_digits {value : Nat} {char : Char} (member : char ∈ Nat.toDigits 10 value) :
    char.isDigit = true :=
  Nat.isDigit_of_mem_toDigits (by decide) (by decide) member

theorem readDigits_toDigits (value : Nat) {rest : List Char}
    (stops : rest.takeWhile Char.isDigit = []) :
    readDigits (Nat.toDigits 10 value ++ rest) = value := by
  have taken : (Nat.toDigits 10 value ++ rest).takeWhile Char.isDigit = Nat.toDigits 10 value := by
    rw [List.takeWhile_append_of_pos fun char member => isDigit_of_mem_digits member, stops,
      List.append_nil]
  rw [readDigits, taken, Nat.ofDigitChars_toDigits (by decide) (by decide)]

/-- Only digits and the sign occur in the text of a number. -/
theorem mem_formatInt {value : Int} {char : Char} (member : char ∈ formatInt value) :
    char = '-' ∨ char.isDigit = true := by
  rw [formatInt] at member
  split at member
  · rcases List.mem_cons.mp member with sign | digit
    · exact Or.inl sign
    · exact Or.inr (isDigit_of_mem_digits digit)
  · exact Or.inr (isDigit_of_mem_digits member)

theorem notMem_formatInt {value : Int} {char : Char} (notSign : char ≠ '-')
    (notDigit : char.isDigit = false) : char ∉ formatInt value := by
  intro member
  rcases mem_formatInt member with sign | digit
  · exact notSign sign
  · rw [notDigit] at digit
    cases digit

private theorem digit_bounds {char : Char} (digit : char.isDigit = true) :
    48 ≤ char.toNat ∧ char.toNat ≤ 57 := by
  simp only [Char.isDigit, Bool.and_eq_true, decide_eq_true_eq] at digit
  exact digit

private theorem dropWhile_isSpace {blanks text : List Char} {first : Char}
    (areBlanks : ∀ char, char ∈ blanks → isSpace char = true) (notSpace : isSpace first = false) :
    (blanks ++ first :: text).dropWhile isSpace = first :: text := by
  rw [List.dropWhile_append_of_pos areBlanks, List.dropWhile_cons, notSpace]
  rfl

private theorem isSpace_eq_false {char : Char} (digit : char.isDigit = true) :
    isSpace char = false := by
  have bounds := digit_bounds digit
  have notBlank : char ≠ ' ' := by
    rintro rfl
    cases digit
  simp only [isSpace, Bool.or_eq_false_iff, beq_eq_false_iff_ne, Bool.and_eq_false_iff,
    decide_eq_false_iff_not]
  exact ⟨notBlank, Or.inr (by omega)⟩

/-- A number is read back from between blanks and anything that does not begin with a digit. -/
theorem ttoi_formatInt {value : Int} (lower : -2147483648 ≤ value) (upper : value < 2147483648)
    {blanks rest : List Char} (areBlanks : ∀ char, char ∈ blanks → isSpace char = true)
    (stops : rest.takeWhile Char.isDigit = []) :
    ttoi (blanks ++ (formatInt value ++ rest)) = value := by
  have digits := readDigits_toDigits value.natAbs stops
  rw [formatInt]
  by_cases negative : value < 0
  · rw [if_pos negative, List.cons_append]
    simp only [ttoi, dropWhile_isSpace areBlanks (by decide : isSpace '-' = false), digits]
    omega
  · rw [if_neg negative]
    cases shape : Nat.toDigits 10 value.natAbs with
    | nil => exact absurd shape Nat.toDigits_ne_nil
    | cons first others =>
        have member : first ∈ Nat.toDigits 10 value.natAbs := by
          rw [shape]
          exact List.mem_cons_self
        have digit := isDigit_of_mem_digits member
        rw [shape, List.cons_append] at digits
        simp only [ttoi, List.cons_append, dropWhile_isSpace areBlanks (isSpace_eq_false digit)]
        split
        · rename_i isMinus
          rw [(List.cons.inj isMinus).1] at digit
          cases digit
        · rename_i isPlus
          rw [(List.cons.inj isPlus).1] at digit
          cases digit
        · rw [digits]
          omega

example : ttoi (" -480 , YUY2".toList) = -480 := by decide

end CString
