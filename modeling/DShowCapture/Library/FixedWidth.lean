/-
Fixed-width machine integers as explicit reductions of unbounded ones.

Values are kept as `Nat` or `Int`; a reduction stands exactly where the machine
would wrap, so a theorem that never wraps can drop it by a bound.
-/
import Mathlib.Data.Nat.Bitwise

namespace FixedWidth

def u32 (value : Int) : Nat := (value % 4294967296).toNat

def u16 (value : Int) : Nat := (value % 65536).toNat

def i32 (value : Int) : Int := (value + 2147483648) % 4294967296 - 2147483648

def bigEndian16 (high low : UInt8) : Nat := high.toNat <<< 8 ||| low.toNat

theorem u32_natCast (value : Nat) (inRange : value < 4294967296) : u32 value = value := by
  unfold u32
  omega

theorem u32_lt (value : Int) : u32 value < 4294967296 := by
  unfold u32
  omega

theorem natCast_u32 (value : Int) : (u32 value : Int) = value % 4294967296 :=
  Int.toNat_of_nonneg (Int.emod_nonneg value (by decide))

theorem u16_natCast (value : Nat) (inRange : value < 65536) : u16 value = value := by
  unfold u16
  omega

theorem i32_natCast (value : Nat) (inRange : value < 2147483648) :
    i32 value = value := by
  unfold i32
  omega

theorem bigEndian16_eq (high low : UInt8) :
    bigEndian16 high low = high.toNat * 256 + low.toNat := by
  have lowRange : low.toNat < 2 ^ 8 := low.toNat_lt
  rw [bigEndian16, ← Nat.shiftLeft_add_eq_or_of_lt lowRange, Nat.shiftLeft_eq]

theorem bigEndian16_lt (high low : UInt8) : bigEndian16 high low < 65536 := by
  have highRange := high.toNat_lt
  have lowRange := low.toNat_lt
  rw [bigEndian16_eq]
  omega

/-- A property of a byte may be checked on the 256 byte values. -/
theorem forall_byte {property : UInt8 → Prop}
    (checked : ∀ value, value < 256 → property (UInt8.ofNat value)) (byte : UInt8) :
    property byte := by
  have atByte := checked byte.toNat byte.toNat_lt
  rwa [UInt8.ofNat_toNat] at atByte

end FixedWidth
