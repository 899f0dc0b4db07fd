/-
Bit strings: the bits of bytes and of numbers, the most significant one first.

A bit string whose length is a multiple of eight can be packed into bytes and read back.
-/
import Mathlib.Data.List.Basic
import DShowCapture.Library.FixedWidth

namespace BitString

open FixedWidth

def value : List Bool → Nat
  | [] => 0
  | bit :: rest => bit.toNat * 2 ^ rest.length + value rest

def fixed : Nat → Nat → List Bool
  | 0, _ => []
  | width + 1, number => number.testBit width :: fixed width number

@[simp] theorem length_fixed (width number : Nat) : (fixed width number).length = width := by
  induction width with
  | zero => rfl
  | succ width ih => rw [fixed, List.length_cons, ih]

theorem value_fixed (width number : Nat) : value (fixed width number) = number % 2 ^ width := by
  induction width with
  | zero => rw [fixed, value, Nat.pow_zero, Nat.mod_one]
  | succ width ih =>
      rw [fixed, value, length_fixed, ih, Nat.toNat_testBit, Nat.mod_pow_succ, Nat.mul_comm,
        Nat.add_comm]

theorem value_lt (bits : List Bool) : value bits < 2 ^ bits.length := by
  induction bits with
  | nil => exact Nat.one_pos
  | cons bit rest ih =>
      rw [value, List.length_cons, Nat.pow_succ]
      cases bit
      · simp only [Bool.toNat_false]
        omega
      · simp only [Bool.toNat_true]
        omega

/-! ### Bytes -/

def ofByte (byte : UInt8) : List Bool := fixed 8 byte.toNat

def ofBytes (bytes : List UInt8) : List Bool := bytes.flatMap ofByte

@[simp] theorem length_ofByte (byte : UInt8) : (ofByte byte).length = 8 := length_fixed 8 _

@[simp] theorem ofBytes_nil : ofBytes [] = [] := rfl

theorem ofBytes_cons (byte : UInt8) (rest : List UInt8) :
    ofBytes (byte :: rest) = ofByte byte ++ ofBytes rest := List.flatMap_cons

theorem ofBytes_append (first second : List UInt8) :
    ofBytes (first ++ second) = ofBytes first ++ ofBytes second := List.flatMap_append

theorem length_ofBytes (bytes : List UInt8) : (ofBytes bytes).length = 8 * bytes.length := by
  induction bytes with
  | nil => rfl
  | cons byte rest ih =>
      rw [ofBytes_cons, List.length_append, ih, length_ofByte, List.length_cons]
      omega

/-- The bits of a byte from an offset on begin with the bit at this offset. -/
theorem drop_ofByte (byte : UInt8) {offset : Nat} (inByte : offset < 8) :
    (ofByte byte).drop offset =
      byte.toNat.testBit (7 - offset) :: (ofByte byte).drop (offset + 1) := by
  have cases : offset = 0 ∨ offset = 1 ∨ offset = 2 ∨ offset = 3 ∨ offset = 4 ∨ offset = 5 ∨
      offset = 6 ∨ offset = 7 := by omega
  rcases cases with rfl | rfl | rfl | rfl | rfl | rfl | rfl | rfl <;> rfl

theorem drop_ofBytes (bytes : List UInt8) (count : Nat) :
    (ofBytes bytes).drop (8 * count) = ofBytes (bytes.drop count) := by
  induction count generalizing bytes with
  | zero => rfl
  | succ count ih =>
      cases bytes with
      | nil => rw [ofBytes_nil, List.drop_nil, List.drop_nil, ofBytes_nil]
      | cons byte rest =>
          rw [ofBytes_cons, Nat.mul_succ, Nat.add_comm, ← List.drop_drop,
            List.drop_left' (length_ofByte byte), ih, List.drop_succ_cons]

theorem eq_zero_of_ofByte {byte : UInt8} (zeros : ofByte byte = List.replicate 8 false) :
    byte = 0 := by
  have valueEq := value_fixed 8 byte.toNat
  rw [← ofByte, zeros] at valueEq
  have small := byte.toNat_lt
  have isZero : byte.toNat = 0 := by
    change 0 = byte.toNat % 256 at valueEq
    omega
  exact UInt8.toNat_inj.mp isZero

theorem replicate_prefix_of_ofBytes {count : Nat} {bytes : List UInt8}
    (zeros : List.replicate (8 * count) false <+: ofBytes bytes) :
    List.replicate count 0 <+: bytes := by
  induction count generalizing bytes with
  | zero => exact List.nil_prefix
  | succ count ih =>
      cases bytes with
      | nil =>
          have long := zeros.length_le
          rw [List.length_replicate, ofBytes_nil, List.length_nil] at long
          omega
      | cons byte rest =>
          rcases zeros with ⟨behind, bitsEq⟩
          rw [Nat.mul_succ, Nat.add_comm, ← List.replicate_append_replicate, List.append_assoc,
            ofBytes_cons] at bitsEq
          obtain ⟨here, later⟩ := List.append_inj bitsEq
            ((List.length_replicate).trans (length_ofByte byte).symm)
          rw [List.replicate_succ, eq_zero_of_ofByte here.symm, List.cons_prefix_cons]
          exact ⟨rfl, ih ⟨behind, later⟩⟩

/-- Bytes with the given bits; an incomplete byte at the end is left out. -/
def pack : List Bool → List UInt8
  | first :: second :: third :: fourth :: fifth :: sixth :: seventh :: eighth :: rest =>
      UInt8.ofNat (value [first, second, third, fourth, fifth, sixth, seventh, eighth]) ::
        pack rest
  | _ => []

private theorem ofByte_value :
    ∀ first second third fourth fifth sixth seventh eighth : Bool,
      ofByte (UInt8.ofNat (value [first, second, third, fourth, fifth, sixth, seventh, eighth])) =
        [first, second, third, fourth, fifth, sixth, seventh, eighth] := by
  decide +kernel

theorem ofBytes_pack (bits : List Bool) (whole : 8 ∣ bits.length) :
    ofBytes (pack bits) = bits := by
  fun_induction pack bits with
  | case1 first second third fourth fifth sixth seventh eighth rest ih =>
      simp only [List.length_cons] at whole
      rw [ofBytes_cons, ofByte_value, ih (by omega)]
      rfl
  | case2 bits notLong =>
      have short : bits.length < 8 := by
        match bits, notLong with
        | [], _ | [_], _ | [_, _], _ | [_, _, _], _ | [_, _, _, _], _ | [_, _, _, _, _], _
        | [_, _, _, _, _, _], _ | [_, _, _, _, _, _, _], _ =>
            simp only [List.length_cons, List.length_nil]
            omega
        | _ :: _ :: _ :: _ :: _ :: _ :: _ :: _ :: _, notLong =>
            exact (notLong _ _ _ _ _ _ _ _ _ rfl).elim
      rcases whole with ⟨count, lengthEq⟩
      have empty : bits = [] := List.eq_nil_of_length_eq_zero (by omega)
      rw [empty]
      rfl

def trailing (length : Nat) : List Bool := true :: List.replicate ((15 - length % 8) % 8) false

theorem dvd_length_trailing (bits : List Bool) :
    8 ∣ (bits ++ trailing bits.length).length := by
  rw [List.length_append, trailing, List.length_cons, List.length_replicate]
  omega

/-- Bytes that end with the stop bit and its zero bits end in a byte that is not zero. -/
theorem getLast_ne_zero_of_trailing {bytes : List UInt8} {bits : List Bool} {length : Nat}
    (bitsEq : ofBytes bytes = bits ++ trailing length) : bytes.getLast? ≠ some 0 := by
  intro last
  obtain ⟨front, rfl⟩ := List.getLast?_eq_some_iff.mp last
  obtain ⟨left, leftEq⟩ := Nat.exists_eq_add_of_le (by omega : (15 - length % 8) % 8 ≤ 7)
  have zeros : ofBytes [0] = List.replicate left false ++
      false :: List.replicate ((15 - length % 8) % 8) false := by
    rw [← List.replicate_succ, List.replicate_append_replicate,
      show left + ((15 - length % 8) % 8 + 1) = 8 by omega]
    decide
  rw [ofBytes_append, zeros, trailing, ← List.append_assoc] at bitsEq
  have stopBit := (List.append_inj' bitsEq rfl).2
  cases stopBit

end BitString
