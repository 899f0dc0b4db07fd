/-
Sequence parameter sets in the syntax of H.264, 7.3.2.1.1.

A parameter set is three bytes, a string of single bits and Exp-Golomb codes, a stop bit and
zero bits up to the next whole byte.  The NAL unit that carries these bytes may have emulation
prevention bytes among them.
-/
import DShowCapture.Library.ExpGolomb

namespace H264Syntax

open BitString ExpGolomb

inductive PicOrderCnt
  | lsb (log2MaxPicOrderCntLsbMinus4 : Nat)
  | cycle (deltaPicOrderAlwaysZero : Bool) (offsetForNonRefPic offsetForTopToBottomField : Int)
      (offsetForRefFrame : List Int)
  | display
  deriving DecidableEq

/-- What only the high profiles carry.  A scaling list is the list of its deltas. -/
structure HighFields where
  chromaFormatIdc : Nat
  separateColourPlane : Bool
  bitDepthLumaMinus8 : Nat
  bitDepthChromaMinus8 : Nat
  qpprimeYZeroTransformBypass : Bool
  scalingMatrix : Option (List (Option (List Int)))

structure Cropping where
  left : Nat
  right : Nat
  top : Nat
  bottom : Nat

structure SeqParameterSet where
  profileIdc : UInt8
  constraintFlags : UInt8
  levelIdc : UInt8
  seqParameterSetId : Nat
  highFields : HighFields
  log2MaxFrameNumMinus4 : Nat
  picOrderCnt : PicOrderCnt
  maxNumRefFrames : Nat
  gapsInFrameNumValueAllowed : Bool
  picWidthInMbsMinus1 : Nat
  picHeightInMapUnitsMinus1 : Nat
  frameMbsOnly : Bool
  mbAdaptiveFrameField : Bool
  direct8x8Inference : Bool
  cropping : Option Cropping
  vui : Option (List Bool)

def highProfiles : List UInt8 := [100, 110, 122, 244, 44, 83, 86, 118, 128, 138, 139, 134, 135]

/-! ### Bits -/

def HighFields.matrixBits : Option (List (Option (List Int))) → List Bool
  | none => [false]
  | some lists =>
      true :: lists.flatMap fun list =>
        match list with
        | none => [false]
        | some deltas => true :: deltas.flatMap signedCode

def HighFields.bits (self : HighFields) : List Bool :=
  code self.chromaFormatIdc ++
    (if self.chromaFormatIdc = 3 then [self.separateColourPlane] else []) ++
    code self.bitDepthLumaMinus8 ++ code self.bitDepthChromaMinus8 ++
    [self.qpprimeYZeroTransformBypass] ++ matrixBits self.scalingMatrix

def PicOrderCnt.bits : PicOrderCnt → List Bool
  | .lsb log2MaxPicOrderCntLsbMinus4 => code 0 ++ code log2MaxPicOrderCntLsbMinus4
  | .cycle alwaysZero nonRef topToBottom refFrames =>
      code 1 ++ [alwaysZero] ++ signedCode nonRef ++ signedCode topToBottom ++
        code refFrames.length ++ refFrames.flatMap signedCode
  | .display => code 2

def Cropping.bits (self : Cropping) : List Bool :=
  code self.left ++ code self.right ++ code self.top ++ code self.bottom

namespace SeqParameterSet

def sizeBits (self : SeqParameterSet) : List Bool :=
  code self.seqParameterSetId ++
    (if self.profileIdc ∈ highProfiles then self.highFields.bits else []) ++
    code self.log2MaxFrameNumMinus4 ++ self.picOrderCnt.bits ++ code self.maxNumRefFrames ++
    [self.gapsInFrameNumValueAllowed] ++ code self.picWidthInMbsMinus1 ++
    code self.picHeightInMapUnitsMinus1

def bitsBehindSize (self : SeqParameterSet) : List Bool :=
  (if self.frameMbsOnly then [true] else [false, self.mbAdaptiveFrameField]) ++
    [self.direct8x8Inference] ++
    (match self.cropping with
    | none => [false]
    | some cropping => true :: cropping.bits) ++
    (match self.vui with
    | none => [false]
    | some vui => true :: vui)

def bits (self : SeqParameterSet) : List Bool := self.sizeBits ++ self.bitsBehindSize

def rbspBits (self : SeqParameterSet) : List Bool := self.bits ++ trailing self.bits.length

def rbsp (self : SeqParameterSet) : List UInt8 :=
  self.profileIdc :: self.constraintFlags :: self.levelIdc :: pack self.rbspBits

theorem rbsp_eq_append (self : SeqParameterSet) :
    self.rbsp = [self.profileIdc, self.constraintFlags, self.levelIdc] ++ pack self.rbspBits := by
  simp only [rbsp, List.cons_append, List.nil_append]

theorem drop_rbsp (self : SeqParameterSet) : self.rbsp.drop 3 = pack self.rbspBits := by
  simp only [rbsp, List.drop_succ_cons, List.drop_zero]

theorem ofBytes_drop_rbsp (self : SeqParameterSet) :
    ofBytes (self.rbsp.drop 3) = self.sizeBits ++
      (self.bitsBehindSize ++ trailing self.bits.length) := by
  have whole : 8 ∣ self.rbspBits.length := dvd_length_trailing self.bits
  rw [drop_rbsp, ofBytes_pack _ whole]
  exact List.append_assoc self.sizeBits self.bitsBehindSize _

/-- The stop bit is in the last byte. -/
theorem getLast_rbsp_ne_zero (self : SeqParameterSet) : self.rbsp.getLast? ≠ some 0 := by
  have whole : 8 ∣ self.rbspBits.length := dvd_length_trailing self.bits
  have last := getLast_ne_zero_of_trailing (ofBytes_pack _ whole)
  have nonempty : pack self.rbspBits ≠ [] := by
    intro empty
    have bitsEq := ofBytes_pack _ whole
    rw [empty] at bitsEq
    exact List.append_ne_nil_of_right_ne_nil _ (List.cons_ne_nil _ _) bitsEq.symm
  rw [rbsp_eq_append, List.getLast?_append_of_ne_nil _ nonempty]
  exact last

/-! ### The size of the picture -/

def chromaArrayType (self : SeqParameterSet) : Nat :=
  if self.profileIdc ∈ highProfiles then
    if self.highFields.chromaFormatIdc = 3 ∧ self.highFields.separateColourPlane then 0
    else self.highFields.chromaFormatIdc
  else 1

def cropUnitX (self : SeqParameterSet) : Nat :=
  if self.chromaArrayType = 1 ∨ self.chromaArrayType = 2 then 2 else 1

def fieldFactor (self : SeqParameterSet) : Nat := if self.frameMbsOnly then 1 else 2

def cropUnitY (self : SeqParameterSet) : Nat :=
  (if self.chromaArrayType = 1 then 2 else 1) * self.fieldFactor

def croppedWidth (self : SeqParameterSet) : Nat :=
  match self.cropping with
  | none => 0
  | some cropping => self.cropUnitX * (cropping.left + cropping.right)

def croppedHeight (self : SeqParameterSet) : Nat :=
  match self.cropping with
  | none => 0
  | some cropping => self.cropUnitY * (cropping.top + cropping.bottom)

def width (self : SeqParameterSet) : Nat :=
  16 * (self.picWidthInMbsMinus1 + 1) - self.croppedWidth

def height (self : SeqParameterSet) : Nat :=
  16 * self.fieldFactor * (self.picHeightInMapUnitsMinus1 + 1) - self.croppedHeight

/-- The ranges of 7.4.2.1.1 on which the length of the syntax depends. -/
structure Legal (sps : SeqParameterSet) : Prop where
  chroma : sps.highFields.chromaFormatIdc ≤ 3
  lists : ∀ lists, sps.highFields.scalingMatrix = some lists →
    lists.length = if sps.highFields.chromaFormatIdc = 3 then 12 else 8
  cycle : ∀ alwaysZero nonRef topToBottom refFrames,
    sps.picOrderCnt = .cycle alwaysZero nonRef topToBottom refFrames → refFrames.length ≤ 255

end SeqParameterSet

/-! ### Emulation prevention -/

/-- The bytes of a NAL unit without its emulation prevention bytes. -/
def removeEmulation : List UInt8 → List UInt8
  | 0 :: 0 :: 3 :: rest => 0 :: 0 :: removeEmulation rest
  | byte :: rest => byte :: removeEmulation rest
  | [] => []

theorem length_removeEmulation_le (bytes : List UInt8) :
    (removeEmulation bytes).length ≤ bytes.length := by
  fun_induction removeEmulation bytes with
  | case1 rest ih =>
      simp only [List.length_cons]
      omega
  | case2 byte rest notEmulation ih =>
      simp only [List.length_cons]
      omega
  | case3 => exact Nat.le_refl 0

theorem head_removeEmulation (bytes : List UInt8) :
    (removeEmulation bytes).head? = bytes.head? := by
  fun_cases removeEmulation bytes <;> rfl

/-- Up to the first emulation prevention byte nothing changes. -/
theorem take_removeEmulation (bytes : List UInt8) (count : Nat)
    (free : ¬ [0, 0, 3] <:+: bytes.take count) :
    (removeEmulation bytes).take count = bytes.take count := by
  fun_induction removeEmulation bytes generalizing count with
  | case1 rest ih =>
      match count with
      | 0 | 1 | 2 => rfl
      | count + 3 => exact absurd (List.prefix_append [0, 0, 3] (rest.take count)).isInfix free
  | case2 byte rest notEmulation ih =>
      cases count with
      | zero => rfl
      | succ count =>
          rw [List.take_succ_cons, List.take_succ_cons, ih]
          intro inRest
          exact free (inRest.trans (List.suffix_cons byte _).isInfix)
  | case3 => rfl

end H264Syntax
