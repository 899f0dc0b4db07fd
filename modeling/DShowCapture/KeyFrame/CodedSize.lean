/-
The picture size that the search for a key frame reports, for any bytes.

The parser takes the two numbers of the size as they are coded, and zero where the data has run
out.  Nothing limits them: the products that make a size in pixels of them may leave the range
of `int`, and a size that is reported may be negative.
-/
import DShowCapture.KeyFrame.IntRange
import DShowCapture.KeyFrame.RefFrameLoop

namespace DShowCapture

open ByteMemory hiding ofBytes
open BitString hiding value
open FixedWidth Logged AnnexB BitCursor

/-! ### The size that is found -/

namespace Field

def width (high : Bool) : Field Int := do
  let _ ← unsigned
  let _ ← if high = true then highProfile else pure ()
  let _ ← unsigned
  let _ ← picOrderCnt
  let _ ← unsigned
  let _ ← flag
  unsigned

def withHeight : Option (Int × List Bool) → Int × Int
  | none => (0, 0)
  | some (width, rest) =>
      match unsigned rest with
      | none => (width, 0)
      | some (height, _) => (width, height)

def codedSize (high : Bool) (bits : List Bool) : Int × Int := withHeight (width high bits)

end Field

structure FindsCoded (memory : Memory) (finish : Nat) (cursor : BitCursor)
    (computation : Logged ScanAccess (SPS × BitCursor)) (field : Field Int) : Prop where
  ready : cursor.Ready finish →
    computation.value.1.picSize = Field.withHeight (field (cursor.bitsLeft memory))
  ended : cursor.Ended finish → computation.value.1.picSize = (0, 0)

section FindsCoded

variable {α β : Type} {memory : Memory} {finish : Nat}

theorem Reads.thenFindsCoded {project : α → β}
    {reader : BitCursor → Logged ScanAccess (α × BitCursor)} {field : Field β}
    {nextReader : α × BitCursor → Logged ScanAccess (SPS × BitCursor)}
    {nextField : β → Field Int} (first : Reads memory finish project reader field)
    (next : ∀ value cursor,
      FindsCoded memory finish cursor (nextReader (value, cursor)) (nextField (project value)))
    (cursor : BitCursor) :
    FindsCoded memory finish cursor (reader cursor >>= nextReader) (field >>= nextField) := by
  constructor
  · intro ready
    rw [value_bind]
    cases found : (field >>= nextField) (cursor.bitsLeft memory) with
    | some pair =>
        obtain ⟨between, gives, foundNext⟩ := first.present_bind ready found
        rw [← foundNext]
        exact (next _ _).ready gives.ready
    | none =>
        rcases first.missing_bind ready found with runsOut | ⟨between, gives, absentNext⟩
        · exact (next _ _).ended runsOut.ended
        · rw [← absentNext]
          exact (next _ _).ready gives.ready
  · intro ended
    rw [value_bind]
    exact (next _ _).ended (first.ended ended).ended

theorem FindsCoded.afterPure {value : α} {cursor : BitCursor}
    {nextReader : α × BitCursor → Logged ScanAccess (SPS × BitCursor)} {field : Field Int}
    (finds : FindsCoded memory finish cursor (nextReader (value, cursor)) field) :
    FindsCoded memory finish cursor (pure (value, cursor) >>= nextReader) field := finds

theorem FindsCoded.ite {condition condition' : Prop} [Decidable condition] [Decidable condition']
    (same : condition ↔ condition') {cursor : BitCursor}
    {yes no : Logged ScanAccess (SPS × BitCursor)} {yesField noField : Field Int}
    (yesFinds : FindsCoded memory finish cursor yes yesField)
    (noFinds : FindsCoded memory finish cursor no noField) :
    FindsCoded memory finish cursor (if condition then yes else no)
      (if condition' then yesField else noField) := ite_related same yesFinds noFinds

theorem findsCoded_size {next : Int × BitCursor → Logged ScanAccess (SPS × BitCursor)}
    (keepsSize : ∀ width there, (next (width, there)).value.1.picSize =
      (width, (getUeGolomb memory there).value.1)) (cursor : BitCursor) :
    FindsCoded memory finish cursor (getUeGolomb memory cursor >>= next) Field.unsigned := by
  have sizeEq : (getUeGolomb memory cursor >>= next).value.1.picSize =
      ((getUeGolomb memory cursor).value.1,
        (getUeGolomb memory (getUeGolomb memory cursor).value.2).value.1) := by
    rw [value_bind]
    exact keepsSize _ _
  have heightOfEnded : ∀ {there : BitCursor}, there.Ended finish →
      (getUeGolomb memory there).value.1 = 0 := by
    intro there ended
    rw [getUeGolomb_of_ended ended, value_pure]
  constructor
  · intro ready
    rw [sizeEq]
    cases found : Field.unsigned (cursor.bitsLeft memory) with
    | none =>
        have ended := (reads_getUeGolomb.missing ready found).ended
        rw [getUeGolomb_of_missing ready found, heightOfEnded ended]
        rfl
    | some pair =>
        obtain ⟨widthEq, gives⟩ := reads_getUeGolomb.present ready found
        rw [Field.withHeight, ← gives.left]
        cases foundNext : Field.unsigned ((getUeGolomb memory cursor).value.2.bitsLeft memory) with
        | none =>
            rw [getUeGolomb_of_missing gives.ready foundNext]
            exact congrArg (fun width => (width, (0 : Int))) widthEq
        | some pairNext =>
            have heightEq := (reads_getUeGolomb.present gives.ready foundNext).1
            exact Prod.ext widthEq heightEq
  · intro ended
    rw [sizeEq, getUeGolomb_of_ended ended, value_pure, heightOfEnded ended]

/-- The size that the parser finds is that of the fields, and zero where they are missing. -/
theorem picSize_eq_codedSize {frameData : Nat} {size : Int} (sps : SPS)
    (inside : 0 ≤ (frameData : Int) + size) :
    (h264DecodeSPS memory frameData size sps).value.1.picSize =
      Field.codedSize (readsHighProfile (memory frameData))
        (ofBytes (read memory (frameData + 3) (size - 3).toNat)) := by
  obtain ⟨finish, finishEq⟩ := Int.eq_ofNat_of_zero_le inside
  have cursorFinish : ((frameData + 3 : Nat) : Int) + (size - 3) = finish := by omega
  have finds : ∃ behindProfile : Logged ScanAccess (SPS × BitCursor),
      (h264DecodeSPS memory frameData size sps).value = behindProfile.value ∧
        FindsCoded memory finish
          { frameData := frameData + 3, size := size - 3, fromByteBits := 0 } behindProfile
          (Field.width (readsHighProfile (memory frameData))) := by
    rw [h264DecodeSPS, value_bind]
    refine ⟨_, rfl, ?_⟩
    refine Reads.thenFindsCoded reads_getUeGolomb (fun seqParameterSetId cursor => ?_) _
    refine FindsCoded.ite decide_eq_true_iff.symm
      (Reads.thenFindsCoded (reads_decodeHighProfile _) (fun spsThere cursor => ?_) _)
      (FindsCoded.afterPure ?_)
    all_goals
      refine Reads.thenFindsCoded reads_getUeGolomb (fun log2MaxFrameNum cursor => ?_) _
      refine Reads.thenFindsCoded (reads_decodePicOrderCnt _) (fun spsBehind cursor => ?_) _
      refine Reads.thenFindsCoded reads_getUeGolomb (fun numRefFrames cursor => ?_) _
      refine Reads.thenFindsCoded reads_getBits1 (fun gaps cursor => ?_) _
      apply findsCoded_size
      intro width there
      simp only [value_bind, value_ite, value_pure]
      split <;> split <;> simp only [SPS.picSize, picSize_decodeCropping]
  obtain ⟨behindProfile, valueEq, finds⟩ := finds
  rw [valueEq]
  by_cases positive : 0 < size - 3
  · exact finds.ready
      { positive := positive, finish := cursorFinish, inByte := Nat.zero_lt_succ 7 }
  · have noBytes : (size - 3).toNat = 0 := by omega
    rw [noBytes, read_zero, ofBytes_nil]
    exact finds.ended
      { runOut := Int.not_lt.mp positive, finish := cursorFinish, inByte := Nat.zero_lt_succ 7 }

end FindsCoded

/-! ### A size in range -/

/-- Every value of type `int` is one, and a size that is reported is positive. -/
structure SizesSafely (computation : Logged ScanAccess KeyFrameReport) : Prop where
  inRange : Safe ScanAccess.InRange computation
  positive : computation.value.returned = true →
    0 < computation.value.width ∧ 0 < computation.value.height

/-- The products of the two numbers that a parameter set holds are of type `int`. -/
def SizeFits : List UInt8 → Prop
  | _ :: profile :: _ :: _ :: behindProfile =>
      (Field.codedSize (readsHighProfile profile) (ofBytes behindProfile)).1 ≤ 134217726 ∧
        (Field.codedSize (readsHighProfile profile) (ofBytes behindProfile)).2 ≤ 134217726
  | _ => True

instance : DecidablePred SizeFits
  | _ :: _ :: _ :: _ :: _ => inferInstanceAs (Decidable (_ ∧ _))
  | [] => inferInstanceAs (Decidable True)
  | [_] => inferInstanceAs (Decidable True)
  | [_, _] => inferInstanceAs (Decidable True)
  | [_, _, _] => inferInstanceAs (Decidable True)

theorem ReadsThen.sizesSafely_congr {computation rest : Logged ScanAccess KeyFrameReport}
    (readsThen : ReadsThen computation rest) : SizesSafely computation ↔ SizesSafely rest := by
  obtain ⟨reads, areReads, logEq⟩ := readsThen.log
  have inRangeIff : Safe ScanAccess.InRange computation ↔ Safe ScanAccess.InRange rest := by
    rw [Safe, logEq, List.forall_mem_append]
    exact and_iff_right fun event member => (areReads event member).inRange
  constructor
  · intro safely
    constructor
    · exact inRangeIff.mp safely.inRange
    · rw [← readsThen.value]
      exact safely.positive
  · intro safely
    constructor
    · exact inRangeIff.mpr safely.inRange
    · rw [readsThen.value]
      exact safely.positive

theorem sizesSafely_notKey : SizesSafely (pure .notKey) :=
  { inRange := safe_pure _ _, positive := fun isKey => nomatch isKey }

theorem product_inRange_iff {number : Int} (nonneg : 0 ≤ number) :
    (ScanAccess.arithmetic ((number + 1) * 16)).InRange ↔ number ≤ 134217726 := by
  change -2147483648 ≤ (number + 1) * 16 ∧ (number + 1) * 16 < 2147483648 ↔ number ≤ 134217726
  omega

theorem product_positive {number : Int} (nonneg : 0 ≤ number) (fits : number ≤ 134217726) :
    0 < i32 ((number + 1) * 16) := by
  unfold i32
  omega

section Report

variable {memory : Memory} {nSize position : Nat}

theorem sizeFits_read_iff {size : Nat} (sps : SPS) :
    SizeFits (read memory (position + 4) size) ↔
      (h264DecodeSPS memory (position + 5) ((size : Int) - 1) sps).value.1.picSize.1 ≤
          134217726 ∧
        (h264DecodeSPS memory (position + 5) ((size : Int) - 1) sps).value.1.picSize.2 ≤
          134217726 := by
  have countEq : ((size : Int) - 1 - 3).toNat = size - 4 := by omega
  rw [picSize_eq_codedSize sps (by omega), countEq]
  by_cases short : size < 4
  · have noBytes : size - 4 = 0 := by omega
    have noSize : ∀ high, Field.codedSize high [] = (0, 0) := fun high => rfl
    rw [noBytes, read_zero, ofBytes_nil, noSize]
    refine iff_of_true ?_ ⟨by decide, by decide⟩
    rcases (by omega : size = 0 ∨ size = 1 ∨ size = 2 ∨ size = 3) with rfl | rfl | rfl | rfl <;>
      exact trivial
  · obtain ⟨rest, rfl⟩ := Nat.exists_eq_add_of_le' (Nat.not_lt.mp short)
    rw [Nat.add_sub_cancel]
    exact Iff.rfl

/-- Nothing but the two products may overflow. -/
theorem sizesSafely_reportSize_iff (long : position + 4 ≤ nSize)
    (startCode : StartCodeAt memory position) :
    SizesSafely (reportSize memory nSize position position) ↔
      SizeFits (read memory (position + 4)
        (getNALSize memory position (nSize - position)).value.2) := by
  have headEq := isNalHead_of_startCodeAt (by omega : 4 ≤ nSize - position) startCode
  have spec := getNALSize_spec memory position (nSize - position) (by omega)
  dsimp only at spec
  rw [headEq] at spec
  have spaced := spaced_of_unitPrefix spec.2.2.1
  have measured := @isRead_getNALSize memory position (nSize - position)
  rw [reportSize, (readsThen_bind measured _).sizesSafely_congr, sizeFits_read_iff default]
  dsimp only
  generalize (getNALSize memory position (nSize - position)).value.2 = size at spaced ⊢
  have alive : Alive (position + 4) (position + 4 + size)
      { frameData := position + 5 + 3, size := (size : Int) - 1 - 3, fromByteBits := 0 } := by
    have finishEq : ((position + 5 + 3 : Nat) : Int) + ((size : Int) - 1 - 3) =
        (position + 4 + size : Nat) := by omega
    refine { behind := Nat.le_add_right (position + 4) 4, state := ?_ }
    by_cases positive : 0 < (size : Int) - 1 - 3
    · left
      exact { positive := positive, finish := finishEq, inByte := Nat.zero_lt_succ 7 }
    · right
      exact
        { runOut := Int.not_lt.mp positive, finish := finishEq, inByte := Nat.zero_lt_succ 7 }
  obtain ⟨inRange, nonneg⟩ := inRange_h264DecodeSPS spaced default alive
  generalize h264DecodeSPS memory (position + 5) ((size : Int) - 1) default = decoded
    at inRange nonneg ⊢
  constructor
  · intro safely
    have all := safely.inRange
    simp only [safe_bind, safe_emit] at all
    exact ⟨(product_inRange_iff nonneg.1).mp all.2.1, (product_inRange_iff nonneg.2).mp all.2.2.1⟩
  · rintro ⟨widthFits, heightFits⟩
    constructor
    · simp only [safe_bind, safe_emit]
      exact ⟨inRange, (product_inRange_iff nonneg.1).mpr widthFits,
        (product_inRange_iff nonneg.2).mpr heightFits, safe_pure _ _⟩
    · intro _
      exact ⟨product_positive nonneg.1 widthFits, product_positive nonneg.2 heightFits⟩

end Report

/-! ### The search -/

/-- The first parameter set holds a size whose products are of type `int`. -/
def FirstSizeFits (bytes : List UInt8) : Prop :=
  ∀ position, SpsIn bytes position → (∀ earlier, earlier < position → ¬ SpsIn bytes earlier) →
    SizeFits (scannedUnit bytes position)

/-- Exactly then nothing overflows in the search, and a size that is reported is positive. -/
theorem sizesSafely_iff {memory : Memory} {bytes : List UInt8}
    (held : read memory 0 bytes.length = bytes) :
    SizesSafely (isH264KeyFrame memory 0 bytes.length) ↔ FirstSizeFits bytes :=
  isH264KeyFrame_iff_first held (fun _ _ readsThen => readsThen.sizesSafely_congr)
    sizesSafely_notKey trivial fun _ _ long startCode =>
      sizesSafely_reportSize_iff long startCode

/-- A parameter set for 352 by 288 pixels. -/
theorem sizesSafely_cif :
    let bytes : List UInt8 := [0, 0, 0, 1, 0x67, 100, 0, 13, 172, 180, 11, 4, 182, 128]
    SizesSafely (isH264KeyFrame (ByteMemory.ofBytes bytes) 0 bytes.length) := by
  intro bytes
  have isSps : SpsIn bytes 0 := ⟨by decide, 0x67, by decide, by decide⟩
  apply (sizesSafely_iff (read_ofBytes bytes)).mpr
  intro position _ first
  cases position with
  | zero => decide +kernel
  | succ position => exact absurd isSps (first 0 (Nat.zero_lt_succ position))

/-- In this one the number of the width is 268435454, and the width is reported as -16. -/
theorem not_sizesSafely_wide :
    let bytes : List UInt8 :=
      [0, 0, 0, 1, 0x67, 0x42, 0, 0x1e, 0xda, 0x80, 0, 0, 0x0f, 0xff, 0xff, 0xff, 0xf0]
    (isH264KeyFrame (ByteMemory.ofBytes bytes) 0 bytes.length).value =
        { returned := true, width := -16, height := 16 } ∧
      ¬ SizesSafely (isH264KeyFrame (ByteMemory.ofBytes bytes) 0 bytes.length) := by
  intro bytes
  let memory := ByteMemory.ofBytes bytes
  have isSps : SpsAt memory 0 := by decide
  have sizeEq : (getNALSize memory 0 17).value.2 = 13 := by
    have headEq := isNalHead_of_startCodeAt (by decide : 4 ≤ 17) isSps.1
    have spec := getNALSize_spec memory 0 17 (by omega)
    dsimp only at spec
    rw [headEq] at spec
    have whole : (unitPrefix (read memory (0 + 4) (17 - 4))).length = 13 := by decide +kernel
    rw [spec.2.2.1, length_read] at whole
    exact whole
  have codedEq : Field.codedSize (readsHighProfile (memory 5)) (ofBytes (read memory 8 9)) =
      (268435454, 0) := by decide +kernel
  have picSizeEq := @picSize_eq_codedSize memory 5 12 default (by decide)
  rw [show (12 - 3 : Int).toNat = 9 from rfl, codedEq, SPS.picSize, Prod.mk.injEq] at picSizeEq
  have reported : (isH264KeyFrame memory 0 bytes.length).value =
      { returned := true, width := -16, height := 16 } := by
    rw [isH264KeyFrame, if_neg (by decide), keyFrameLoop_of_sps (Nat.le_refl 0) (by decide) isSps
      fun data _ before => absurd before (Nat.not_lt_zero data)]
    simp only [reportSize, value_bind, value_pure]
    rw [show min bytes.length 1024 - 0 = 17 from rfl, sizeEq,
      show ((13 : Nat) : Int) - 1 = 12 from rfl, picSizeEq.1, picSizeEq.2]
    rfl
  refine ⟨reported, fun safely => ?_⟩
  have positive := safely.positive
  rw [reported] at positive
  exact absurd (positive rfl).1 (by decide)

end DShowCapture
