/-
Sequence parameter sets and key-frame detection, after `jrtp/Is_H264KeyFrame.cpp`.

`H264_Decode_SPS` reads the fields of a sequence parameter set up to the picture size
and a little beyond; scaling lists and usability information are not read.
`Is_H264KeyFrame` looks at the first 1024 bytes of a frame for a NAL unit of type 7
behind a four-byte start code.
-/
import DShowCapture.KeyFrame.BitReader

namespace DShowCapture

open ByteMemory FixedWidth Logged

/-- The number of entries of `offset_for_ref_frame`. -/
def offsetEntries : Nat := 256

structure SPS where
  profileIdc : Int
  constraintSetFlags : Int
  levelIdc : Int
  reservedZero4bits : Int
  seqParameterSetId : Int
  chromaFormatIdc : Int
  residualColourTransformFlag : Int
  bitDepthLumaMinus8 : Int
  bitDepthChromaMinus8 : Int
  qpprimeYZeroTransformBypassFlag : Int
  seqScalingMatrixPresentFlag : Int
  seqScalingListPresentFlag : Int
  log2MaxFrameNumMinus4 : Int
  picOrderCntType : Int
  log2MaxPicOrderCntLsbMinus4 : Int
  deltaPicOrderAlwaysZeroFlag : Int
  offsetForNonRefPic : Int
  offsetForTopToBottomField : Int
  numRefFramesInPicOrderCntCycle : Int
  offsetForRefFrame : Fin offsetEntries → Int
  numRefFrames : Int
  gapsInFrameNumValueAllowedFlag : Int
  picWidthInMbsMinus1 : Int
  picHeightInMapUnitsMinus1 : Int
  frameMbsOnlyFlag : Int
  mbAdaptiveFrameFieldFlag : Int
  direct8x8InferenceFlag : Int
  frameCroppingFlag : Int
  frameCropLeftOffset : Int
  frameCropRightOffset : Int
  frameCropTopOffset : Int
  frameCropBottomOffset : Int
  vuiParametersPresentFlag : Int
  deriving Inhabited

/-- The assignment to an entry of `offset_for_ref_frame`.  What one behind the array overwrites
is not known here: the log shows it, and a parse with such a write has no result. -/
def SPS.writeOffset (self : SPS) (i : Nat) (offset : Int) : SPS :=
  if inArray : i < offsetEntries then
    { self with
      offsetForRefFrame := Function.update self.offsetForRefFrame ⟨i, inArray⟩ offset }
  else self

def signedByte (byte : UInt8) : Int :=
  if byte.toNat < 128 then byte.toNat else byte.toNat - 256

def decodeScalingFlags (memory : Memory) :
    Nat → SPS → BitCursor → Logged ScanAccess (SPS × BitCursor)
  | 0, sps, cursor => pure (sps, cursor)
  | remaining + 1, sps, cursor => do
      let (bits, cursor) ← getBits1 memory cursor
      let flags := i32 (sps.seqScalingListPresentFlag * 2 + bits)
      decodeScalingFlags memory remaining
        { sps with seqScalingListPresentFlag := flags } cursor

/-- The loop over the reference frames of the picture order count cycle, from frame `i`
on.  An entry has 16 bits. -/
def decodeRefFrameOffsets (memory : Memory) :
    Nat → Nat → SPS → BitCursor → Logged ScanAccess (SPS × BitCursor)
  | 0, _, sps, cursor => pure (sps, cursor)
  | remaining + 1, i, sps, cursor => do
      emit (.refFrameRound cursor.size)
      let (offset, cursor) ← getSeGolomb memory cursor
      emit (.offsetForRefFrame i)
      let stored := (offset + 32768) % 65536 - 32768
      decodeRefFrameOffsets memory remaining (i + 1) (sps.writeOffset i stored) cursor

def decodeHighProfile (memory : Memory) (sps : SPS) (cursor : BitCursor) :
    Logged ScanAccess (SPS × BitCursor) := do
  let (chromaFormatIdc, cursor) ← getUeGolomb memory cursor
  let sps : SPS := { sps with chromaFormatIdc := chromaFormatIdc }
  let (sps, cursor) ←
    if sps.chromaFormatIdc = 3 then do
      let (flag, cursor) ← getBits1 memory cursor
      pure ({ sps with residualColourTransformFlag := flag }, cursor)
    else pure (sps, cursor)
  let (luma, cursor) ← getUeGolomb memory cursor
  let (chroma, cursor) ← getUeGolomb memory cursor
  let (bypass, cursor) ← getBits1 memory cursor
  let (scaling, cursor) ← getBits1 memory cursor
  let sps : SPS :=
    { sps with
      bitDepthLumaMinus8 := i32 (luma + 8)
      bitDepthChromaMinus8 := i32 (chroma + 8)
      qpprimeYZeroTransformBypassFlag := bypass
      seqScalingMatrixPresentFlag := scaling }
  if sps.seqScalingMatrixPresentFlag ≠ 0 then decodeScalingFlags memory 8 sps cursor
  else pure (sps, cursor)

/-- The fields of the picture order count. -/
def decodePicOrderCnt (memory : Memory) (sps : SPS) (cursor : BitCursor) :
    Logged ScanAccess (SPS × BitCursor) := do
  let (picOrderCntType, cursor) ← getUeGolomb memory cursor
  let sps : SPS := { sps with picOrderCntType := picOrderCntType }
  if sps.picOrderCntType = 0 then
    let (log2MaxLsb, cursor) ← getUeGolomb memory cursor
    pure ({ sps with log2MaxPicOrderCntLsbMinus4 := log2MaxLsb }, cursor)
  else if sps.picOrderCntType = 1 then
    let (alwaysZero, cursor) ← getUeGolomb memory cursor
    let (nonRef, cursor) ← getSeGolomb memory cursor
    let (topToBottom, cursor) ← getSeGolomb memory cursor
    let (cycle, cursor) ← getUeGolomb memory cursor
    let sps : SPS :=
      { sps with
        deltaPicOrderAlwaysZeroFlag := alwaysZero
        offsetForNonRefPic := nonRef
        offsetForTopToBottomField := topToBottom
        numRefFramesInPicOrderCntCycle := cycle }
    decodeRefFrameOffsets memory cycle.toNat 0 sps cursor
  else pure (sps, cursor)

def decodeCropping (memory : Memory) (sps : SPS) (cursor : BitCursor) :
    Logged ScanAccess (SPS × BitCursor) := do
  let (left, cursor) ← getUeGolomb memory cursor
  let (right, cursor) ← getUeGolomb memory cursor
  let (top, cursor) ← getUeGolomb memory cursor
  let (bottom, cursor) ← getUeGolomb memory cursor
  pure
    ({ sps with
        frameCropLeftOffset := left
        frameCropRightOffset := right
        frameCropTopOffset := top
        frameCropBottomOffset := bottom },
      cursor)

/-- `H264_Decode_SPS`.  `frameData` is the address behind the NAL header byte; the returned
cursor holds the final `*pSize`. -/
def h264DecodeSPS (memory : Memory) (frameData : Nat) (size : Int) (sps : SPS) :
    Logged ScanAccess (SPS × BitCursor) := do
  emit (.read frameData 3)
  let sps : SPS :=
    { sps with
      profileIdc := signedByte (memory frameData)
      constraintSetFlags := ((0xf0 &&& memory (frameData + 1)).toNat >>> 4 : Nat)
      reservedZero4bits := (0x0f &&& memory (frameData + 1)).toNat
      levelIdc := signedByte (memory (frameData + 2)) }
  let cursor : BitCursor := { frameData := frameData + 3, size := size - 3, fromByteBits := 0 }
  let (seqParameterSetId, cursor) ← getUeGolomb memory cursor
  let sps : SPS := { sps with seqParameterSetId := seqParameterSetId }
  let (sps, cursor) ←
    if sps.profileIdc ≥ 100 ∨ sps.profileIdc = 83 then decodeHighProfile memory sps cursor
    else pure (sps, cursor)
  let (log2MaxFrameNum, cursor) ← getUeGolomb memory cursor
  let (sps, cursor) ←
    decodePicOrderCnt memory { sps with log2MaxFrameNumMinus4 := log2MaxFrameNum } cursor
  let (numRefFrames, cursor) ← getUeGolomb memory cursor
  let (gaps, cursor) ← getBits1 memory cursor
  let (width, cursor) ← getUeGolomb memory cursor
  let (height, cursor) ← getUeGolomb memory cursor
  let (frameMbsOnly, cursor) ← getBits1 memory cursor
  let sps : SPS :=
    { sps with
      numRefFrames := numRefFrames
      gapsInFrameNumValueAllowedFlag := gaps
      picWidthInMbsMinus1 := width
      picHeightInMapUnitsMinus1 := height
      frameMbsOnlyFlag := frameMbsOnly }
  let (sps, cursor) ←
    if sps.frameMbsOnlyFlag = 0 then do
      let (adaptive, cursor) ← getBits1 memory cursor
      pure ({ sps with mbAdaptiveFrameFieldFlag := adaptive }, cursor)
    else pure (sps, cursor)
  let (direct8x8, cursor) ← getBits1 memory cursor
  let (cropping, cursor) ← getBits1 memory cursor
  let sps : SPS :=
    { sps with direct8x8InferenceFlag := direct8x8, frameCroppingFlag := cropping }
  let (sps, cursor) ←
    if sps.frameCroppingFlag ≠ 0 then decodeCropping memory sps cursor
    else pure (sps, cursor)
  let (vui, cursor) ← getBits1 memory cursor
  pure ({ sps with vuiParametersPresentFlag := vui }, cursor)

/-- What `Is_H264KeyFrame` reports: its return value, `*pWidth` and `*pHight`. -/
structure KeyFrameReport where
  returned : Bool
  width : Int
  height : Int
  deriving DecidableEq, Repr

def KeyFrameReport.notKey : KeyFrameReport := { returned := false, width := 0, height := 0 }

/-- The inner loop of `Is_H264KeyFrame`: the word at the address is read before the count
is compared. -/
def skipToStartCode (memory : Memory) (nSize frameData nNaluSize : Nat) :
    Logged ScanAccess (Nat × Nat) := do
  emit (.read frameData 4)
  let startCode : Bool :=
    memory frameData == 0 && memory (frameData + 1) == 0 &&
      memory (frameData + 2) == 0 && memory (frameData + 3) == 1
  if !startCode ∧ nNaluSize < nSize - 3 then
    skipToStartCode memory nSize (frameData + 1) (nNaluSize + 1)
  else pure (frameData, nNaluSize)
termination_by nSize - nNaluSize

theorem skipToStartCode_ge (memory : Memory) (nSize frameData nNaluSize : Nat) :
    nNaluSize ≤ (skipToStartCode memory nSize frameData nNaluSize).value.2 := by
  induction gap : nSize - nNaluSize generalizing frameData nNaluSize with
  | zero =>
      have stops : ¬ nNaluSize < nSize - 3 := by omega
      rw [skipToStartCode]
      simp [stops]
  | succ gap ih =>
      have later := ih (frameData + 1) (nNaluSize + 1) (by omega)
      rw [skipToStartCode]
      simp only [value_bind, value_ite, value_pure]
      split
      · omega
      · exact Nat.le_refl nNaluSize

/-- The SPS branch of `Is_H264KeyFrame` for the start code at `frameData`.  The uninitialized
local `sps` has default fields; the reported size does not depend on them. -/
def reportSize (memory : Memory) (nSize frameData nNaluSize : Nat) :
    Logged ScanAccess KeyFrameReport := do
  let (_, size) ← getNALSize memory frameData (nSize - nNaluSize)
  let (sps, _) ← h264DecodeSPS memory (frameData + 5) ((size : Int) - 1) default
  emit (.arithmetic ((sps.picWidthInMbsMinus1 + 1) * 16))
  emit (.arithmetic ((sps.picHeightInMapUnitsMinus1 + 1) * 16))
  pure
    { returned := true
      width := i32 ((sps.picWidthInMbsMinus1 + 1) * 16)
      height := i32 ((sps.picHeightInMapUnitsMinus1 + 1) * 16) }

/-- The outer loop of `Is_H264KeyFrame`. -/
def keyFrameLoop (memory : Memory) (nSize frameData nNaluSize : Nat) :
    Logged ScanAccess KeyFrameReport :=
  if nNaluSize < nSize then do
    let search := skipToStartCode memory nSize frameData nNaluSize
    let _ ← search
    let found := search.value
    if found.2 < nSize - 3 then do
      emit (.read (found.1 + 4) 1)
      if memory (found.1 + 4) &&& 0x1f = 7 then
        reportSize memory nSize found.1 found.2
      else keyFrameLoop memory nSize (found.1 + 4) (found.2 + 4)
    else pure .notKey
  else pure .notKey
termination_by nSize - nNaluSize
decreasing_by
  have forward := skipToStartCode_ge memory nSize frameData nNaluSize
  omega

def isH264KeyFrame (memory : Memory) (frameData nSize : Nat) :
    Logged ScanAccess KeyFrameReport :=
  if nSize ≤ 4 then pure .notKey
  else keyFrameLoop memory (min nSize 1024) frameData 0

end DShowCapture
