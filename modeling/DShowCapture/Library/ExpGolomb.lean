/-
Exp-Golomb codes.

A code number is written as a run of zero bits and the binary form of its successor,
which has one bit more than the run.
-/
import DShowCapture.Library.BitString

namespace ExpGolomb

open BitString

def code (number : Nat) : List Bool :=
  List.replicate (Nat.log2 (number + 1)) false ++ fixed (Nat.log2 (number + 1) + 1) (number + 1)

def leadingZeros : List Bool → Option (Nat × List Bool)
  | [] => none
  | true :: rest => some (0, rest)
  | false :: rest => (leadingZeros rest).map fun (zeros, behind) => (zeros + 1, behind)

def split (bits : List Bool) : Option (List Bool × List Bool) :=
  match leadingZeros bits with
  | none => none
  | some (zeros, behind) =>
      if zeros ≤ behind.length then some (behind.take zeros, behind.drop zeros) else none

def number (suffix : List Bool) : Nat := 2 ^ suffix.length - 1 + value suffix

theorem leadingZeros_append (zeros : Nat) (rest : List Bool) :
    leadingZeros (List.replicate zeros false ++ true :: rest) = some (zeros, rest) := by
  induction zeros with
  | zero => rfl
  | succ zeros ih =>
      rw [List.replicate_succ, List.cons_append, leadingZeros, ih]
      rfl

theorem eq_of_leadingZeros {bits behind : List Bool} {zeros : Nat}
    (found : leadingZeros bits = some (zeros, behind)) :
    bits = List.replicate zeros false ++ true :: behind := by
  induction bits generalizing zeros with
  | nil => cases found
  | cons bit rest ih =>
      cases bit with
      | true =>
          cases found
          rfl
      | false =>
          obtain ⟨⟨fewer, behind'⟩, foundLater, same⟩ := Option.map_eq_some_iff.mp found
          cases same
          rw [List.replicate_succ, List.cons_append, ih foundLater]

theorem length_of_split {bits suffix rest : List Bool} (found : split bits = some (suffix, rest)) :
    rest.length < bits.length := by
  rw [split] at found
  cases leading : leadingZeros bits with
  | none =>
      rw [leading] at found
      cases found
  | some pair =>
      rcases pair with ⟨zeros, behind⟩
      rw [leading] at found
      dsimp only at found
      split at found
      · cases found
        rw [eq_of_leadingZeros leading, List.length_append, List.length_cons, List.length_drop]
        omega
      · cases found

/-- The marker and the suffix are the binary form of the successor. -/
theorem code_eq (number : Nat) :
    code number = List.replicate (Nat.log2 (number + 1)) false ++
      true :: fixed (Nat.log2 (number + 1)) (number + 1) := by
  rw [code, fixed, Nat.testBit_log2 (Nat.succ_ne_zero number)]

theorem split_code (number : Nat) (rest : List Bool) :
    split (code number ++ rest) =
      some (fixed (Nat.log2 (number + 1)) (number + 1), rest) := by
  rw [code_eq, List.append_assoc, List.cons_append, split, leadingZeros_append]
  have whole : Nat.log2 (number + 1) ≤
      (fixed (Nat.log2 (number + 1)) (number + 1) ++ rest).length := by
    rw [List.length_append, length_fixed]
    omega
  have widthEq : Nat.log2 (number + 1) =
      (fixed (Nat.log2 (number + 1)) (number + 1)).length := (length_fixed _ _).symm
  dsimp only
  rw [if_pos whole]
  conv_lhs => rw [widthEq]
  rw [length_fixed, List.take_left' (length_fixed _ _), List.drop_left' (length_fixed _ _)]

theorem number_fixed (codeNum : Nat) :
    number (fixed (Nat.log2 (codeNum + 1)) (codeNum + 1)) = codeNum := by
  have low : 2 ^ Nat.log2 (codeNum + 1) ≤ codeNum + 1 :=
    Nat.log2_self_le (Nat.succ_ne_zero codeNum)
  have high : codeNum + 1 < 2 ^ (Nat.log2 (codeNum + 1) + 1) := Nat.lt_log2_self
  rw [number, length_fixed, value_fixed]
  rw [Nat.pow_succ] at high
  rw [Nat.mod_eq_sub_mod low, Nat.mod_eq_of_lt (by omega)]
  omega

def signedNumber (signed : Int) : Nat :=
  if 0 < signed then (2 * signed - 1).toNat else (-(2 * signed)).toNat

/-- `se(v)` -/
def signedCode (signed : Int) : List Bool := code (signedNumber signed)

end ExpGolomb
