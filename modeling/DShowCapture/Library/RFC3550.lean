/-
The fixed part of the RTP data header.

Only headers without padding and without an extension are described; the number of
contributing sources is free.
-/
import DShowCapture.Library.FixedWidth

namespace RFC3550

open FixedWidth

def bytes16 (value : Nat) : List UInt8 := [UInt8.ofNat (value / 256), UInt8.ofNat value]

def bytes32 (value : Nat) : List UInt8 := bytes16 (value / 65536) ++ bytes16 value

structure Header where
  marker : Bool
  payloadType : UInt8
  sequenceNumber : Nat
  timestamp : Nat
  ssrc : Nat
  csrc : List Nat
  csrcCount : csrc.length ≤ 15

namespace Header

def firstByte (self : Header) : UInt8 := 0x80 ||| UInt8.ofNat self.csrc.length

def secondByte (self : Header) : UInt8 :=
  (if self.marker then 0x80 else 0) ||| (self.payloadType &&& 0x7f)

def bytes (self : Header) : List UInt8 :=
  [self.firstByte, self.secondByte] ++ bytes16 self.sequenceNumber ++
    bytes32 self.timestamp ++ bytes32 self.ssrc ++ self.csrc.flatMap bytes32

def plain (marker : Bool) : Header :=
  { marker := marker, payloadType := 96, sequenceNumber := 0, timestamp := 0, ssrc := 0
    csrc := [], csrcCount := Nat.zero_le 15 }

theorem length_bytes (self : Header) : self.bytes.length = 12 + self.csrc.length * 4 := by
  have sources : ∀ csrc : List Nat, (csrc.flatMap bytes32).length = csrc.length * 4 := by
    intro csrc
    induction csrc with
    | nil => rfl
    | cons source rest ih =>
        rw [List.flatMap_cons, List.length_append, ih, List.length_cons]
        simp only [bytes32, bytes16, List.length_append, List.length_cons, List.length_nil]
        omega
  simp only [bytes, bytes32, bytes16, List.length_append, List.length_cons, List.length_nil,
    sources]

private theorem firstByte_bits :
    ∀ count, count < 16 →
      ((0x80 ||| UInt8.ofNat count) &&& 0x0f).toNat = count ∧
        (0x80 ||| UInt8.ofNat count) &&& 0x10 = 0 := by
  decide +kernel

theorem firstByte_count (self : Header) :
    (self.firstByte &&& 0x0f).toNat = self.csrc.length :=
  (firstByte_bits _ (Nat.lt_succ_of_le self.csrcCount)).1

theorem firstByte_extension (self : Header) : self.firstByte &&& 0x10 = 0 :=
  (firstByte_bits _ (Nat.lt_succ_of_le self.csrcCount)).2

private theorem secondByte_bits (marker : Bool) :
    ∀ byte : UInt8,
      (((if marker then 0x80 else 0) ||| (byte &&& 0x7f)) &&& 0x80 != 0) = marker := by
  cases marker <;> exact forall_byte (by decide +kernel)

theorem secondByte_marker (self : Header) :
    (self.secondByte &&& 0x80 != 0) = self.marker :=
  secondByte_bits self.marker self.payloadType

end Header

end RFC3550
