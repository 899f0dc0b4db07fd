/-
Byte-addressed memory as a total function from addresses to bytes, with the
block operations of the C library.

Reading an address never fails: a cell that no program owns holds some byte, and
whether an access was allowed is a question about an access log, not about the
value read.  Blocks are read as lists, so that a result about a buffer is an
equation between byte lists.
-/
import Mathlib.Data.List.GetD

namespace ByteMemory

abbrev Memory := Nat → UInt8

def read (memory : Memory) : Nat → Nat → List UInt8
  | _, 0 => []
  | start, count + 1 => memory start :: read memory (start + 1) count

/-- `memcpy`: the `count` cells of `target` from `targetStart` on receive the cells
of `source` from `sourceStart` on. -/
def copy (target : Memory) (targetStart : Nat) (source : Memory)
    (sourceStart count : Nat) : Memory :=
  fun address =>
    if targetStart ≤ address ∧ address < targetStart + count then
      source (sourceStart + (address - targetStart))
    else target address

def ofBytes (bytes : List UInt8) : Memory :=
  fun address => bytes.getD address 0

def store (target : Memory) (start : Nat) (bytes : List UInt8) : Memory :=
  copy target start (ofBytes bytes) 0 bytes.length

@[simp] theorem read_zero (memory : Memory) (start : Nat) : read memory start 0 = [] :=
  rfl

theorem read_succ (memory : Memory) (start count : Nat) :
    read memory start (count + 1) = memory start :: read memory (start + 1) count :=
  rfl

@[simp] theorem length_read (memory : Memory) (start count : Nat) :
    (read memory start count).length = count := by
  induction count generalizing start with
  | zero => rfl
  | succ count ih => simp only [read_succ, List.length_cons, ih]

theorem read_append (memory : Memory) (start first second : Nat) :
    read memory start (first + second) =
      read memory start first ++ read memory (start + first) second := by
  induction first generalizing start with
  | zero => simp only [Nat.zero_add, read_zero, List.nil_append, Nat.add_zero]
  | succ first ih =>
      have countEq : first + 1 + second = first + second + 1 := by omega
      have startEq : start + 1 + first = start + (first + 1) := by omega
      rw [countEq, read_succ, read_succ, ih, startEq, List.cons_append]

theorem getElem?_read (memory : Memory) (start count index : Nat)
    (inRange : index < count) :
    (read memory start count)[index]? = some (memory (start + index)) := by
  induction count generalizing start index with
  | zero => omega
  | succ count ih =>
      cases index with
      | zero => simp [read_succ]
      | succ index =>
          have startEq : start + (index + 1) = start + 1 + index := by omega
          simp only [read_succ, List.getElem?_cons_succ]
          rw [ih (start + 1) index (by omega), startEq]

theorem drop_read (memory : Memory) (start count skipped : Nat) (inRange : skipped ≤ count) :
    (read memory start count).drop skipped =
      read memory (start + skipped) (count - skipped) := by
  have parts : count = skipped + (count - skipped) := by omega
  rw [parts, read_append, List.drop_left' (length_read memory start skipped)]
  congr 1
  omega

theorem take_read (memory : Memory) (start count kept : Nat) (inRange : kept ≤ count) :
    (read memory start count).take kept = read memory start kept := by
  have parts : count = kept + (count - kept) := by omega
  rw [parts, read_append, List.take_left' (length_read memory start kept)]

theorem prefix_drop_read_iff {memory : Memory} {start count position : Nat} {bytes : List UInt8}
    (nonempty : bytes ≠ []) :
    bytes <+: (read memory start count).drop position ↔
      position + bytes.length ≤ count ∧
        read memory (start + position) bytes.length = bytes := by
  have positive := List.length_pos_iff.mpr nonempty
  constructor
  · intro isPrefix
    have long := isPrefix.length_le
    rw [List.length_drop, length_read] at long
    rw [drop_read memory start count position (by omega), List.prefix_iff_eq_take,
      take_read _ _ _ _ long] at isPrefix
    exact ⟨by omega, isPrefix.symm⟩
  · rintro ⟨inside, held⟩
    rw [drop_read memory start count position (by omega), List.prefix_iff_eq_take,
      take_read _ _ _ _ (by omega), held]

theorem read_congr (left right : Memory) (leftStart rightStart count : Nat)
    (same : ∀ index, index < count →
      left (leftStart + index) = right (rightStart + index)) :
    read left leftStart count = read right rightStart count := by
  induction count generalizing leftStart rightStart with
  | zero => rfl
  | succ count ih =>
      have headEq := same 0 (Nat.succ_pos count)
      simp only [Nat.add_zero] at headEq
      rw [read_succ, read_succ, headEq]
      congr 1
      apply ih
      intro index inRange
      have shifted := same (index + 1) (by omega)
      rw [show leftStart + 1 + index = leftStart + (index + 1) by omega,
        show rightStart + 1 + index = rightStart + (index + 1) by omega]
      exact shifted

theorem getElem_of_read_eq {memory : Memory} {start : Nat} {bytes : List UInt8}
    (held : read memory start bytes.length = bytes) (index : Nat)
    (inRange : index < bytes.length) :
    memory (start + index) = bytes[index] := by
  have atIndex := getElem?_read memory start bytes.length index inRange
  rw [held, List.getElem?_eq_getElem inRange] at atIndex
  exact (Option.some.inj atIndex).symm

theorem head_of_read_eq {memory : Memory} {start : Nat} {first : UInt8}
    {rest : List UInt8}
    (held : read memory start (rest.length + 1) = first :: rest) :
    memory start = first ∧ read memory (start + 1) rest.length = rest := by
  rw [read_succ] at held
  exact List.cons.inj held

theorem split_of_read_eq {memory : Memory} {start : Nat} {first second : List UInt8}
    (held : read memory start (first ++ second).length = first ++ second) :
    read memory start first.length = first ∧
      read memory (start + first.length) second.length = second := by
  rw [List.length_append, read_append] at held
  exact List.append_inj held (by simp)

theorem copy_add (target : Memory) (targetStart : Nat) (source : Memory)
    (sourceStart : Nat) {count index : Nat} (inRange : index < count) :
    copy target targetStart source sourceStart count (targetStart + index) =
      source (sourceStart + index) := by
  have inside : targetStart ≤ targetStart + index ∧
      targetStart + index < targetStart + count := by omega
  simp only [copy, if_pos inside, Nat.add_sub_cancel_left]

@[simp] theorem read_copy_self (target : Memory) (targetStart : Nat) (source : Memory)
    (sourceStart count : Nat) :
    read (copy target targetStart source sourceStart count) targetStart count =
      read source sourceStart count := by
  apply read_congr
  intro index inRange
  exact copy_add target targetStart source sourceStart inRange

theorem copy_of_lt (target : Memory) (targetStart : Nat) (source : Memory)
    (sourceStart count address : Nat) (before : address < targetStart) :
    copy target targetStart source sourceStart count address = target address := by
  have outside : ¬ (targetStart ≤ address ∧ address < targetStart + count) := by omega
  simp only [copy, if_neg outside]

theorem copy_of_ge (target : Memory) (targetStart : Nat) (source : Memory)
    (sourceStart count address : Nat) (behind : targetStart + count ≤ address) :
    copy target targetStart source sourceStart count address = target address := by
  have outside : ¬ (targetStart ≤ address ∧ address < targetStart + count) := by omega
  simp only [copy, if_neg outside]

theorem read_copy_before (target : Memory) (targetStart : Nat) (source : Memory)
    (sourceStart count start length : Nat) (before : start + length ≤ targetStart) :
    read (copy target targetStart source sourceStart count) start length =
      read target start length := by
  apply read_congr
  intro index inRange
  exact copy_of_lt target targetStart source sourceStart count (start + index) (by omega)

@[simp] theorem read_ofBytes (bytes : List UInt8) :
    read (ofBytes bytes) 0 bytes.length = bytes := by
  apply List.ext_getElem?
  intro index
  by_cases inRange : index < bytes.length
  · rw [getElem?_read _ _ _ _ inRange, Nat.zero_add, ofBytes,
      List.getD_eq_getElem _ _ inRange, List.getElem?_eq_getElem inRange]
  · rw [List.getElem?_eq_none (by simpa using inRange),
      List.getElem?_eq_none (by simpa using inRange)]

@[simp] theorem read_store_self (target : Memory) (start : Nat) (bytes : List UInt8) :
    read (store target start bytes) start bytes.length = bytes := by
  rw [store, read_copy_self, read_ofBytes]

theorem copy_eq_store (target : Memory) (start : Nat) (source : Memory)
    (sourceStart count : Nat) :
    copy target start source sourceStart count =
      store target start (read source sourceStart count) := by
  funext address
  simp only [copy, store, length_read]
  by_cases inside : start ≤ address ∧ address < start + count
  · rw [if_pos inside, if_pos inside, Nat.zero_add, ofBytes,
      List.getD_eq_getElem?_getD, getElem?_read _ _ _ _ (by omega)]
    rfl
  · rw [if_neg inside, if_neg inside]

theorem read_store_before (target : Memory) (storeStart : Nat) (bytes : List UInt8)
    (start length : Nat) (before : start + length ≤ storeStart) :
    read (store target storeStart bytes) start length = read target start length :=
  read_copy_before target storeStart (ofBytes bytes) 0 bytes.length start length before

@[simp] theorem store_nil (target : Memory) (start : Nat) : store target start [] = target := by
  funext address
  exact if_neg (by rw [List.length_nil]; omega)

theorem store_append (target : Memory) (start : Nat) (first second : List UInt8) :
    store (store target start first) (start + first.length) second =
      store target start (first ++ second) := by
  funext address
  simp only [store, copy, List.length_append, ofBytes, Nat.zero_add]
  by_cases inSecond :
      start + first.length ≤ address ∧ address < start + first.length + second.length
  · rw [if_pos inSecond, if_pos (by omega), List.getD_append_right _ _ _ _ (by omega)]
    congr 1
    omega
  · rw [if_neg inSecond]
    by_cases inFirst : start ≤ address ∧ address < start + first.length
    · rw [if_pos inFirst, if_pos (by omega), List.getD_append _ _ _ _ (by omega)]
    · rw [if_neg inFirst, if_neg (by omega)]

def AgreeBelow (bound : Nat) (left right : Memory) : Prop :=
  ∀ address, address < bound → left address = right address

section AgreeBelow

variable {bound : Nat} {left right : Memory}

theorem AgreeBelow.copy (agree : AgreeBelow bound left right) {start : Nat}
    (reaches : start ≤ bound) (source : Memory) (sourceStart count : Nat) :
    AgreeBelow (start + count) (copy left start source sourceStart count)
      (copy right start source sourceStart count) := by
  intro address below
  unfold ByteMemory.copy
  split
  · rfl
  · exact agree address (by omega)

theorem AgreeBelow.copy_eq {count : Nat} (agree : AgreeBelow count left right)
    (target : Memory) (start : Nat) :
    ByteMemory.copy target start left 0 count = ByteMemory.copy target start right 0 count := by
  funext address
  unfold ByteMemory.copy
  split
  · exact agree _ (by omega)
  · rfl

end AgreeBelow

end ByteMemory
