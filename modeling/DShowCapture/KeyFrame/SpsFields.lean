/-
The fields of a sequence parameter set, as `H264_Decode_SPS` reads them.

The parser works on the bits behind the three bytes of the profile.  It fails where the data
runs out, and it knows nothing of what is written over a field when this happens.
-/
import DShowCapture.KeyFrame.BitStream

namespace DShowCapture

open ByteMemory FixedWidth Logged BitCursor

namespace Field

def repeated {α : Type} : Nat → Field α → Field Unit
  | 0, _ => pure ()
  | count + 1, field => do
      let _ ← field
      repeated count field

def highProfile : Field Unit := do
  let chromaFormatIdc ← unsigned
  let _ ←
    if chromaFormatIdc = 3 then do
      let _ ← flag
      pure ()
    else pure ()
  let _ ← unsigned
  let _ ← unsigned
  let _ ← flag
  let scaling ← flag
  if scaling = true then repeated 8 flag
  else pure ()

def cycleThen {α : Type} (next : Int → Field α) : Field α := do
  let _ ← unsigned
  let _ ← signed
  let _ ← signed
  let cycle ← unsigned
  next cycle

def picOrderCnt : Field Unit := do
  let picOrderCntType ← unsigned
  if picOrderCntType = 0 then do
    let _ ← unsigned
    pure ()
  else if picOrderCntType = 1 then cycleThen fun cycle => repeated cycle.toNat signed
  else pure ()

/-- Everything up to the height, and what comes behind it. -/
def sizeThen {α : Type} (high : Bool) (next : Int → Int → Field α) : Field α := do
  let _ ← unsigned
  let _ ← if high = true then highProfile else pure ()
  let _ ← unsigned
  let _ ← picOrderCnt
  let _ ← unsigned
  let _ ← flag
  let width ← unsigned
  let height ← unsigned
  next width height

def size (high : Bool) : Field (Int × Int) := sizeThen high fun width height => pure (width, height)

def cropping : Field Unit := do
  let _ ← unsigned
  let _ ← unsigned
  let _ ← unsigned
  let _ ← unsigned
  pure ()

def behindSize : Field Unit := do
  let frameMbsOnly ← flag
  let _ ←
    if frameMbsOnly = false then do
      let _ ← flag
      pure ()
    else pure ()
  let _ ← flag
  let isCropped ← flag
  if isCropped = true then do
    let _ ← cropping
    pure ()
  else pure ()

def all (high : Bool) : Field Unit := sizeThen high fun _ _ => behindSize

end Field

/-- The parser takes this byte for the number of a high profile. -/
def readsHighProfile (profileIdc : UInt8) : Bool :=
  decide (signedByte profileIdc ≥ 100 ∨ signedByte profileIdc = 83)

section Walk

variable {memory : Memory} {finish : Nat}

theorem reads_decodeScalingFlags (remaining : Nat) (sps : SPS) :
    Reads memory finish (fun _ => ()) (decodeScalingFlags memory remaining sps)
      (Field.repeated remaining Field.flag) := by
  induction remaining generalizing sps with
  | zero => exact reads_pure (fun _ => ()) sps
  | succ remaining ih =>
      apply Reads.congr (fun _ => decodeScalingFlags.eq_2 _ _ _ _)
      exact reads_getBits1.bind fun bits => ih _

theorem reads_decodeRefFrameOffsets (remaining i : Nat) (sps : SPS) :
    Reads memory finish (fun _ => ()) (decodeRefFrameOffsets memory remaining i sps)
      (Field.repeated remaining Field.signed) := by
  induction remaining generalizing i sps with
  | zero => exact reads_pure (fun _ => ()) sps
  | succ remaining ih =>
      apply Reads.congr (fun _ => decodeRefFrameOffsets.eq_2 _ _ _ _ _)
      refine Reads.afterEmit (reads_getSeGolomb.bind fun offset => ?_)
        (fun cursor _ => (trivial : (ScanAccess.refFrameRound cursor.size).Below _))
      exact (ih _ _).afterEmit
        fun _ _ => (trivial : (ScanAccess.offsetForRefFrame i).Below _)

theorem reads_decodeHighProfile (sps : SPS) :
    Reads memory finish (fun _ => ()) (decodeHighProfile memory sps) Field.highProfile := by
  unfold decodeHighProfile Field.highProfile
  refine reads_getUeGolomb.bind fun chroma => ?_
  refine Reads.ite Iff.rfl
    (reads_getBits1.bind fun flag => Reads.afterPure ?_) (Reads.afterPure ?_)
  all_goals
    refine reads_getUeGolomb.bind fun luma => ?_
    refine reads_getUeGolomb.bind fun chromaDepth => ?_
    refine reads_getBits1.bind fun bypass => ?_
    refine reads_getBits1.bind fun scaling => ?_
    exact Reads.ite decide_eq_true_iff.symm (reads_decodeScalingFlags 8 _)
      (reads_pure (fun _ => ()) _)

theorem reads_decodePicOrderCnt (sps : SPS) :
    Reads memory finish (fun _ => ()) (decodePicOrderCnt memory sps) Field.picOrderCnt := by
  unfold decodePicOrderCnt Field.picOrderCnt
  refine reads_getUeGolomb.bind fun picOrderCntType => ?_
  refine Reads.ite Iff.rfl ?_ (Reads.ite Iff.rfl ?_ (reads_pure (fun _ => ()) _))
  · exact reads_getUeGolomb.bind fun log2MaxLsb => reads_pure (fun _ => ()) _
  · refine reads_getUeGolomb.bind fun alwaysZero => ?_
    refine reads_getSeGolomb.bind fun nonRef => ?_
    refine reads_getSeGolomb.bind fun topToBottom => ?_
    exact reads_getUeGolomb.bind fun cycle => reads_decodeRefFrameOffsets cycle.toNat 0 _

theorem reads_decodeCropping (sps : SPS) :
    Reads memory finish (fun _ => ()) (decodeCropping memory sps) Field.cropping := by
  unfold decodeCropping Field.cropping
  refine reads_getUeGolomb.bind fun left => ?_
  refine reads_getUeGolomb.bind fun right => ?_
  refine reads_getUeGolomb.bind fun top => ?_
  exact reads_getUeGolomb.bind fun bottom => reads_pure (fun _ => ()) _

end Walk

/-! ### The picture size -/

def FindsSize (memory : Memory) (finish : Nat) (cursor : BitCursor)
    (computation : Logged ScanAccess (SPS × BitCursor)) (field : Field (Int × Int)) : Prop :=
  ∀ {size rest}, cursor.Ready finish → field (cursor.bitsLeft memory) = some (size, rest) →
    computation.value.1.picSize = size

section FindsSize

variable {α β : Type} {memory : Memory} {finish : Nat}

theorem Reads.thenFindsSize {project : α → β}
    {reader : BitCursor → Logged ScanAccess (α × BitCursor)} {field : Field β}
    {nextReader : α × BitCursor → Logged ScanAccess (SPS × BitCursor)}
    {nextField : β → Field (Int × Int)} (first : Reads memory finish project reader field)
    (next : ∀ value cursor,
      FindsSize memory finish cursor (nextReader (value, cursor)) (nextField (project value)))
    (cursor : BitCursor) :
    FindsSize memory finish cursor (reader cursor >>= nextReader) (field >>= nextField) := by
  intro size rest ready found
  obtain ⟨between, gives, foundNext⟩ := first.present_bind ready found
  rw [value_bind]
  exact next _ _ gives.ready foundNext

theorem FindsSize.afterPure {value : α} {cursor : BitCursor}
    {nextReader : α × BitCursor → Logged ScanAccess (SPS × BitCursor)}
    {field : Field (Int × Int)}
    (finds : FindsSize memory finish cursor (nextReader (value, cursor)) field) :
    FindsSize memory finish cursor (pure (value, cursor) >>= nextReader) field := finds

theorem findsSize_const {cursor : BitCursor}
    {computation : Logged ScanAccess (SPS × BitCursor)} {size : Int × Int}
    (sizeEq : computation.value.1.picSize = size) :
    FindsSize memory finish cursor computation (pure size) := by
  intro size' rest ready found
  cases found
  exact sizeEq

theorem FindsSize.ite {condition condition' : Prop} [Decidable condition] [Decidable condition']
    (same : condition ↔ condition') {cursor : BitCursor}
    {yes no : Logged ScanAccess (SPS × BitCursor)} {yesField noField : Field (Int × Int)}
    (yesFinds : FindsSize memory finish cursor yes yesField)
    (noFinds : FindsSize memory finish cursor no noField) :
    FindsSize memory finish cursor (if condition then yes else no)
      (if condition' then yesField else noField) :=
  @ite_related _ _ (FindsSize memory finish cursor) _ _ _ _ same _ _ _ _ yesFinds noFinds

/-- The size that the parser finds is the one that its fields say. -/
theorem picSize_h264DecodeSPS {frameData : Nat} {size : Int} (sps : SPS)
    {found : Int × Int} {rest : List Bool} (positive : 3 < size)
    (fields : Field.size (readsHighProfile (memory frameData))
      (BitString.ofBytes (read memory (frameData + 3) (size - 3).toNat)) = some (found, rest)) :
    (h264DecodeSPS memory frameData size sps).value.1.picSize = found := by
  obtain ⟨finish, finishEq⟩ := Int.eq_ofNat_of_zero_le (by omega : 0 ≤ (frameData : Int) + size)
  have ready : Ready finish
      { frameData := frameData + 3, size := size - 3, fromByteBits := 0 } := by
    refine { positive := ?_, finish := ?_, inByte := Nat.zero_lt_succ 7 }
    · dsimp only
      omega
    · dsimp only
      omega
  rw [h264DecodeSPS, value_bind]
  refine Reads.thenFindsSize reads_getUeGolomb (fun seqParameterSetId cursor => ?_) _ ready fields
  refine FindsSize.ite decide_eq_true_iff.symm
    (Reads.thenFindsSize (reads_decodeHighProfile _) (fun spsThere cursor => ?_) _)
    (FindsSize.afterPure ?_)
  all_goals
    refine Reads.thenFindsSize reads_getUeGolomb (fun log2MaxFrameNum cursor => ?_) _
    refine Reads.thenFindsSize (reads_decodePicOrderCnt _) (fun spsBehind cursor => ?_) _
    refine Reads.thenFindsSize reads_getUeGolomb (fun numRefFrames cursor => ?_) _
    refine Reads.thenFindsSize reads_getBits1 (fun gaps cursor => ?_) _
    refine Reads.thenFindsSize reads_getUeGolomb (fun width cursor => ?_) _
    refine Reads.thenFindsSize reads_getUeGolomb (fun height cursor => ?_) _
    apply findsSize_const
    simp only [value_bind, value_ite, value_pure]
    split <;> split <;> simp only [SPS.picSize, picSize_decodeCropping, id]

end FindsSize

end DShowCapture
