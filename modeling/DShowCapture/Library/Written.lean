/-
A block of memory that is written front to back, and what stands in it.

A writer that stores each piece behind the last one leaves the pieces one after the other;
a reader that knows what is in front of a number finds the number there.
-/
import DShowCapture.Library.ByteMemory
import DShowCapture.Library.RFC3550

namespace ByteMemory

open FixedWidth

def Written (memory : Memory) (bytes : List UInt8) : Prop :=
  read memory 0 bytes.length = bytes

section Written

variable {memory : Memory} {bytes front rest : List UInt8}

theorem written_nil (memory : Memory) : Written memory [] := rfl

theorem written_ofBytes (bytes : List UInt8) : Written (ofBytes bytes) bytes :=
  read_ofBytes bytes

theorem Written.store (written : Written memory bytes) (more : List UInt8) :
    Written (store memory bytes.length more) (bytes ++ more) := by
  unfold Written at written ⊢
  rw [List.length_append, read_append, read_store_before _ _ _ _ _ (Nat.le_of_eq (Nat.zero_add _)),
    written, Nat.zero_add, read_store_self]

theorem Written.copy (written : Written memory bytes) (source : Memory)
    (sourceStart count : Nat) :
    Written (copy memory bytes.length source sourceStart count)
      (bytes ++ read source sourceStart count) := by
  rw [copy_eq_store]
  exact written.store _

theorem Written.read_part (front middle : List UInt8)
    (written : Written memory (front ++ (middle ++ rest))) :
    read memory front.length middle.length = middle := by
  have behind := (split_of_read_eq written).2
  rw [Nat.zero_add] at behind
  exact (split_of_read_eq behind).1

theorem Written.byte (front : List UInt8) {value : UInt8}
    (written : Written memory (front ++ value :: rest)) : memory front.length = value := by
  have part : read memory front.length 1 = [value] := Written.read_part front [value] written
  exact (List.cons.inj part).1

/-! ### Numbers in network byte order -/

theorem bigEndian16_bytes {high low : UInt8} {value : Nat}
    (held : [high, low] = RFC3550.bytes16 value) : bigEndian16 high low = value % 65536 := by
  obtain ⟨highEq, lowEq⟩ := List.cons.inj held
  rw [bigEndian16_eq, highEq, (List.cons.inj lowEq).1, UInt8.toNat_ofNat', UInt8.toNat_ofNat']
  omega

theorem Written.bytes16 (front : List UInt8) {value : Nat}
    (written : Written memory (front ++ (RFC3550.bytes16 value ++ rest))) :
    bigEndian16 (memory front.length) (memory (front.length + 1)) = value % 65536 :=
  bigEndian16_bytes (Written.read_part front (RFC3550.bytes16 value) written)

theorem bytes16_mod (value : Nat) : RFC3550.bytes16 (value % 65536) = RFC3550.bytes16 value := by
  have high : UInt8.ofNat (value % 65536 / 256) = UInt8.ofNat (value / 256) := by
    apply UInt8.toNat_inj.mp
    rw [UInt8.toNat_ofNat', UInt8.toNat_ofNat']
    omega
  have low : UInt8.ofNat (value % 65536) = UInt8.ofNat value := by
    apply UInt8.toNat_inj.mp
    rw [UInt8.toNat_ofNat', UInt8.toNat_ofNat']
    omega
  rw [RFC3550.bytes16, RFC3550.bytes16, high, low]

theorem bytes16_bigEndian16 (high low : UInt8) :
    RFC3550.bytes16 (bigEndian16 high low) = [high, low] := by
  have lowRange := low.toNat_lt
  have highEq : (bigEndian16 high low) / 256 = high.toNat := by
    rw [bigEndian16_eq]
    omega
  have lowEq : UInt8.ofNat (bigEndian16 high low) = low := by
    apply UInt8.toNat_inj.mp
    rw [UInt8.toNat_ofNat', bigEndian16_eq]
    omega
  rw [RFC3550.bytes16, highEq, lowEq, UInt8.ofNat_toNat]

end Written

end ByteMemory
