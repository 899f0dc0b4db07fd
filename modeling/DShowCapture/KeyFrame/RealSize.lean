/-
The picture size that is reported, against the real one.

A unit that holds a parameter set is reported with the two numbers that the parser takes from
its bits.  They are the real size only of parameter sets that crop nothing, except for the half
of the height that comes from field coding, or by chance, where the parser reads other bits.
-/
import DShowCapture.KeyFrame.CodedSize
import DShowCapture.KeyFrame.CycleBounds
import DShowCapture.KeyFrame.PictureSize

namespace DShowCapture

open ByteMemory hiding ofBytes
open BitString hiding value
open ExpGolomb FixedWidth Logged AnnexB H264Syntax

/-! ### What is reported for a unit -/

def unitSize : List UInt8 → Int × Int
  | _ :: profile :: _ :: _ :: behindProfile =>
      Field.codedSize (readsHighProfile profile) (ofBytes behindProfile)
  | _ => (0, 0)

def unitReport (unit : List UInt8) : KeyFrameReport :=
  { returned := true
    width := i32 (((unitSize unit).1 + 1) * 16)
    height := i32 (((unitSize unit).2 + 1) * 16) }

section Report

variable {memory : Memory}

theorem picSize_eq_unitSize (position size : Nat) (sps : SPS) :
    (h264DecodeSPS memory (position + 5) ((size : Int) - 1) sps).value.1.picSize =
      unitSize (read memory (position + 4) size) := by
  have countEq : ((size : Int) - 1 - 3).toNat = size - 4 := by omega
  rw [picSize_eq_codedSize sps (by omega), countEq]
  by_cases short : size < 4
  · have noSize : ∀ high, Field.codedSize high [] = (0, 0) := fun high => rfl
    rw [show size - 4 = 0 by omega, read_zero, ofBytes_nil, noSize]
    rcases (by omega : size = 0 ∨ size = 1 ∨ size = 2 ∨ size = 3) with rfl | rfl | rfl | rfl <;>
      rfl
  · obtain ⟨rest, rfl⟩ := Nat.exists_eq_add_of_le' (Nat.not_lt.mp short)
    rw [Nat.add_sub_cancel]
    rfl

theorem value_reportSize (nSize position : Nat) :
    (reportSize memory nSize position position).value =
      unitReport (read memory (position + 4)
        (getNALSize memory position (nSize - position)).value.2) := by
  have found := @picSize_eq_unitSize memory position
    (getNALSize memory position (nSize - position)).value.2 default
  rw [SPS.picSize] at found
  simp only [reportSize, value_bind, value_pure, unitReport, ← found]

/-- The first parameter set decides about the report. -/
theorem value_isH264KeyFrame_of_first {bytes : List UInt8}
    (held : read memory 0 bytes.length = bytes) {position : Nat} (isSps : SpsIn bytes position)
    (first : ∀ earlier, earlier < position → ¬ SpsIn bytes earlier) :
    (isH264KeyFrame memory 0 bytes.length).value = unitReport (scannedUnit bytes position) := by
  have spsIn : ∀ {data}, SpsIn bytes data ↔
      data + 4 ≤ 1024 ∧ data + 5 ≤ bytes.length ∧ SpsAt memory data := by
    intro data
    have iffRead := @spsIn_read_iff memory bytes.length data
    rw [held] at iffRead
    exact iffRead
  obtain ⟨early, inside, here⟩ := spsIn.mp isSps
  have unitEq := @scannedUnit_read memory bytes.length position (by omega) here.1
  rw [held] at unitEq
  rw [unitEq, ← value_reportSize, isH264KeyFrame, if_neg (by omega),
    keyFrameLoop_of_sps (Nat.zero_le _) (by omega) here ?_]
  intro data _ before isEarlier
  exact first data before (spsIn.mpr ⟨by omega, by omega, isEarlier⟩)

end Report

/-! ### A parameter set at the beginning of the frame -/

section First

variable {header : UInt8} {payload : List UInt8} {after : List (Nat × List UInt8)}

theorem spsIn_write (isSps : header &&& 0x1f = 7) :
    SpsIn (write ((1, header :: payload) :: after)) 0 :=
  ⟨by decide, header, isSps, payload ++ write after, rfl⟩

theorem unitPrefix_take_write {count : Nat} (several : 3 ≤ count) :
    unitPrefix ((write after).take count) = [] := by
  obtain ⟨more, rfl⟩ := Nat.exists_eq_add_of_le' several
  rcases after with _ | ⟨⟨_ | _ | _ | zeros, nal⟩, after⟩
  · rw [write_nil, List.take_nil]
    rfl
  · exact if_pos (Or.inr rfl)
  · exact if_pos (Or.inl rfl)
  · exact if_pos (Or.inl rfl)
  · exact if_pos (Or.inl rfl)

theorem scannedUnit_write (writable : Writable (header :: payload))
    (short : (header :: payload).length < 1000) :
    scannedUnit (write ((1, header :: payload) :: after)) 0 = header :: payload := by
  have window : ((write ((1, header :: payload) :: after)).take 1024).drop (0 + 4) =
      header :: payload ++ (write after).take (1020 - (header :: payload).length) := by
    have behindCode : (write ((1, header :: payload) :: after)).drop 4 =
        header :: payload ++ write after := rfl
    rw [List.drop_take, behindCode, List.take_append, List.take_of_length_le (by omega)]
  rw [scannedUnit, window, unitPrefix_append writable, unitPrefix_take_write (by omega),
    List.append_nil]

end First

/-! ### Parameter sets that are read right -/

/-- The parser reads the fields of the size right: it knows the profile, there are no scaling
lists, no cleared flag in a picture order count of type one and no emulation prevention byte
that changes the bits of these fields, and both sizes are in the range of an `int`. -/
structure ReadRight (sps : SeqParameterSet) (payload : List UInt8) : Prop where
  profile : readsHighProfile sps.profileIdc = decide (sps.profileIdc ∈ highProfiles)
  noLists : sps.profileIdc ∈ highProfiles → ∀ lists, sps.highFields.scalingMatrix = some lists →
    sps.highFields.chromaFormatIdc ≠ 3 ∧ ∀ list, list ∈ lists → list = none
  alwaysZero : ∀ alwaysZero nonRef topToBottom refFrames,
    sps.picOrderCnt = .cycle alwaysZero nonRef topToBottom refFrames → alwaysZero = true
  bits : sps.sizeBits <+: ofBytes (payload.drop 3)
  width : 16 * (sps.picWidthInMbsMinus1 + 1) < 2147483648
  height : 16 * (sps.picHeightInMapUnitsMinus1 + 1) < 2147483648

/-- Nothing is cropped from the width, and from the height just what the field factor adds. -/
def Uncropped (sps : SeqParameterSet) : Prop :=
  sps.croppedWidth = 0 ∧
    sps.croppedHeight =
      if sps.frameMbsOnly then 0 else 16 * (sps.picHeightInMapUnitsMinus1 + 1)

section RealSize

variable {sps : SeqParameterSet} {payload : List UInt8}

theorem ReadRight.asWritten (legal : sps.Legal) (right : ReadRight sps payload) :
    ReadAsWritten sps := by
  have chroma := legal.chroma
  refine { profile := right.profile, chroma := by omega, noLists := ?_, cycle := ?_ }
  · intro high lists matrix
    obtain ⟨notThree, allAbsent⟩ := right.noLists high lists matrix
    have count := legal.lists lists matrix
    rw [if_neg notThree] at count
    exact ⟨count, allAbsent⟩
  · intro alwaysZero nonRef topToBottom refFrames isCycle
    have few := legal.cycle _ _ _ _ isCycle
    exact ⟨right.alwaysZero _ _ _ _ isCycle, by omega⟩

theorem length_behindSize_pos (sps : SeqParameterSet) :
    0 < (sps.bitsBehindSize ++ trailing sps.bits.length).length :=
  List.length_pos_iff.mpr (List.append_ne_nil_of_right_ne_nil _ (List.cons_ne_nil _ _))

def sizeBytes (sps : SeqParameterSet) : Nat := 3 + (sps.sizeBits.length + 7) / 8

/-- Without an emulation prevention byte among these bytes, nothing changes the bits. -/
theorem sizeBits_prefix_of_noEmulation (carried : removeEmulation payload = sps.rbsp)
    (noEmulation : ¬ [0, 0, 3] <:+: payload.take (sizeBytes sps)) :
    sps.sizeBits <+: ofBytes (payload.drop 3) := by
  have same := take_removeEmulation payload (sizeBytes sps) noEmulation
  have sameBehind := congrArg (List.drop 3) same
  have whole := sps.ofBytes_drop_rbsp
  have bitCount := congrArg List.length whole
  rw [length_ofBytes, List.length_drop, List.length_append] at bitCount
  rw [carried, List.drop_take, List.drop_take, sizeBytes, Nat.add_sub_cancel_left] at sameBehind
  have covered : sps.sizeBits <+:
      ofBytes ((payload.drop 3).take ((sps.sizeBits.length + 7) / 8)) := by
    rw [← sameBehind]
    apply List.prefix_of_prefix_length_le ⟨_, whole.symm⟩
    · exact ⟨ofBytes ((sps.rbsp.drop 3).drop ((sps.sizeBits.length + 7) / 8)), by
        rw [← ofBytes_append, List.take_append_drop]⟩
    · have some := length_behindSize_pos sps
      rw [length_ofBytes, List.length_take, List.length_drop]
      omega
  refine covered.trans ⟨ofBytes ((payload.drop 3).drop ((sps.sizeBits.length + 7) / 8)), ?_⟩
  rw [← ofBytes_append, List.take_append_drop]

theorem ReadRight.holdsSize (right : ReadRight sps payload)
    (carried : removeEmulation payload = sps.rbsp) : HoldsSize sps payload := by
  rcases right.bits with ⟨rest, bitsEq⟩
  refine { profile := ?_, bits := ⟨rest, ?_, bitsEq.symm⟩ }
  · rw [← head_removeEmulation, carried]
    rfl
  · intro none
    have longer := length_removeEmulation_le payload
    have bitCount := congrArg List.length sps.ofBytes_drop_rbsp
    have payloadCount := congrArg List.length bitsEq
    have some := length_behindSize_pos sps
    rw [none, List.append_nil, length_ofBytes, List.length_drop] at payloadCount
    rw [length_ofBytes, List.length_drop, List.length_append] at bitCount
    rw [carried] at longer
    omega

theorem reportFor_iff (width : 16 * (sps.picWidthInMbsMinus1 + 1) < 2147483648)
    (height : 16 * (sps.picHeightInMapUnitsMinus1 + 1) < 2147483648) :
    reportFor sps = { returned := true, width := sps.width, height := sps.height } ↔
      Uncropped sps := by
  rw [reportFor_eq width height, KeyFrameReport.mk.injEq, Uncropped,
    SeqParameterSet.width, SeqParameterSet.height, SeqParameterSet.fieldFactor]
  cases sps.frameMbsOnly
  · simp only [Bool.false_eq_true, if_false, true_and]
    omega
  · simp only [if_true, true_and]
    omega

theorem reportFor_of_readRight {memory : Memory} {header : UInt8}
    {after : List (Nat × List UInt8)} (legal : sps.Legal) (isSps : header &&& 0x1f = 7)
    (writable : Writable (header :: payload)) (carried : removeEmulation payload = sps.rbsp)
    (short : (header :: payload).length < 1000)
    (held : read memory 0 (write ((1, header :: payload) :: after)).length =
      write ((1, header :: payload) :: after))
    (right : ReadRight sps payload) :
    (isH264KeyFrame memory 0 (write ((1, header :: payload) :: after)).length).value =
      reportFor sps := by
  have noneBefore : ∀ data, data < (write []).length + 0 → ¬ SpsAt memory data :=
    fun data before => absurd before (Nat.not_lt_zero data)
  have early : (write []).length + 0 + 4 + (header :: payload).length ≤ 1024 := by
    rw [write_nil, List.length_nil]
    omega
  exact isH264KeyFrame_of_write noneBefore held isSps early writable (right.holdsSize carried)
    (right.asWritten legal)

theorem Field.Parses.bind_eq {α β : Type} {field : Field α} {bits : List Bool} {value : α}
    (parses : Parses field bits value) (next : α → Field β) {rest : List Bool}
    (more : rest ≠ []) : (field >>= next) (bits ++ rest) = next value rest := by
  rw [Field.bind_apply, parses rest more, Option.bind_some]

theorem cycle_le_of_picOrderCnt {picOrderCnt : PicOrderCnt}
    (few : ∀ alwaysZero nonRef topToBottom refFrames,
      picOrderCnt = .cycle alwaysZero nonRef topToBottom refFrames →
        alwaysZero = true ∧ refFrames.length ≤ 255)
    {rest : List Bool} (more : rest ≠ []) {cycle : Int} {left : List Bool}
    (found : (Field.unsigned >>= fun picOrderCntType =>
      if picOrderCntType = 1 then Field.cycleThen pure else fun _ => none)
        (picOrderCnt.bits ++ rest) = some (cycle, left)) : cycle.toNat ≤ 255 := by
  have typeEq : ∀ {number : Nat}, number < 3 → Field.readNumber number = number :=
    fun small => Field.readNumber_of_lt (by omega)
  cases picOrderCnt with
  | lsb log2MaxLsb =>
      have moreBehind := List.append_ne_nil_of_right_ne_nil (code log2MaxLsb) more
      rw [PicOrderCnt.bits, List.append_assoc,
        (Field.parses_unsigned 0).bind_eq _ moreBehind, typeEq (by decide),
        if_neg (by decide)] at found
      cases found
  | display =>
      rw [PicOrderCnt.bits, (Field.parses_unsigned 2).bind_eq _ more, typeEq (by decide),
        if_neg (by decide)] at found
      cases found
  | cycle alwaysZero nonRef topToBottom refFrames =>
      obtain ⟨isZero, count⟩ := few _ _ _ _ rfl
      obtain ⟨nonRefValue, nonRefParses⟩ := Field.parses_signed nonRef
      obtain ⟨topValue, topParses⟩ := Field.parses_signed topToBottom
      have flagParses : Field.Parses Field.unsigned [alwaysZero] (Field.readNumber 0) := by
        rw [isZero]
        exact Field.parses_unsigned 0
      simp only [PicOrderCnt.bits, List.append_assoc] at found
      rw [(Field.parses_unsigned 1).bind_eq, typeEq (by decide), if_pos (by decide),
        Field.cycleThen, flagParses.bind_eq, nonRefParses.bind_eq, topParses.bind_eq,
        (Field.parses_unsigned refFrames.length).bind_eq,
        Field.readNumber_of_lt (by omega)] at found
      · have same := (Prod.mk.inj (Option.some.inj found)).1
        omega
      all_goals simp only [ne_eq, List.append_eq_nil_iff, more, and_false, not_false_eq_true]

/-- Where the parser reads the fields right, it reads at most 255 offsets. -/
theorem ReadRight.rounds_le (legal : sps.Legal) (right : ReadRight sps payload)
    {rest : List Bool} (more : rest ≠ []) :
    Field.rounds (readsHighProfile sps.profileIdc) (sps.sizeBits ++ rest) ≤ 255 := by
  have asWritten := right.asWritten legal
  have behind : ∀ {cycle left},
      (do
        let _ ← Field.unsigned
        let picOrderCntType ← Field.unsigned
        if picOrderCntType = 1 then Field.cycleThen pure else fun _ => none)
        (code sps.log2MaxFrameNumMinus4 ++ (sps.picOrderCnt.bits ++ (code sps.maxNumRefFrames ++
          ([sps.gapsInFrameNumValueAllowed] ++ (code sps.picWidthInMbsMinus1 ++
            (code sps.picHeightInMapUnitsMinus1 ++ rest)))))) = some (cycle, left) →
        cycle.toNat ≤ 255 := by
    intro cycle left found
    rw [(Field.parses_unsigned _).bind_eq] at found
    · refine cycle_le_of_picOrderCnt ?_ ?_ found
      · intro alwaysZero nonRef topToBottom refFrames isCycle
        exact ⟨right.alwaysZero _ _ _ _ isCycle, legal.cycle _ _ _ _ isCycle⟩
      · simp only [ne_eq, List.append_eq_nil_iff, more, and_false, not_false_eq_true]
    · simp only [ne_eq, List.append_eq_nil_iff, more, and_false, not_false_eq_true]
  rw [Field.rounds]
  split
  · rename_i cycle left found
    simp only [Field.cycle, SeqParameterSet.sizeBits, List.append_assoc] at found
    rw [(Field.parses_unsigned _).bind_eq, asWritten.profile] at found
    · by_cases high : sps.profileIdc ∈ highProfiles
      · rw [if_pos high, if_pos (decide_eq_true high),
          (parses_highProfile asWritten.chroma (asWritten.noLists high)).bind_eq] at found
        · exact behind found
        · simp only [ne_eq, List.append_eq_nil_iff, more, and_false, not_false_eq_true]
      · rw [if_neg high, if_neg (by rw [decide_eq_true_iff]; exact high), List.nil_append] at found
        exact behind found
    · simp only [ne_eq, List.append_eq_nil_iff, more, and_false, not_false_eq_true]
  · exact Nat.zero_le 255

theorem ReadRight.cycleFits (legal : sps.Legal) (right : ReadRight sps payload)
    (carried : removeEmulation payload = sps.rbsp) (header : UInt8) :
    CycleFits (header :: payload) := by
  have holds := right.holdsSize carried
  obtain ⟨rest, more, bitsEq⟩ := holds.bits
  have profileEq := holds.profile
  have few := right.rounds_le legal more
  rw [← bitsEq] at few
  rcases payload with _ | ⟨profile, _ | ⟨flags, _ | ⟨level, behindProfile⟩⟩⟩
  · trivial
  · trivial
  · trivial
  · rw [List.head?_cons, Option.some_inj] at profileEq
    rw [← profileEq] at few
    exact Nat.le_trans few (by decide)

/-! ### The real size -/

structure ReportsSize (computation : Logged ScanAccess KeyFrameReport)
    (sps : SeqParameterSet) : Prop where
  inArray : Safe ScanAccess.InArray computation
  value : computation.value = { returned := true, width := sps.width, height := sps.height }

/-- The numbers that the parser takes from the unit are those of the real size. -/
def SaysSize (sps : SeqParameterSet) (unit : List UInt8) : Prop :=
  i32 (((unitSize unit).1 + 1) * 16) = sps.width ∧ i32 (((unitSize unit).2 + 1) * 16) = sps.height

/-- The size is reported for a parameter set at the beginning of a frame exactly when its bits,
as the parser takes them, ask for no more offsets than there is room for and hold the numbers of
the real size.  Where the parser reads the fields right, this means that nothing is cropped,
except for the half of the height that comes from field coding. -/
theorem reportsSize_iff {memory : Memory} {header : UInt8}
    {after : List (Nat × List UInt8)} (legal : sps.Legal) (isSps : header &&& 0x1f = 7)
    (writable : Writable (header :: payload)) (carried : removeEmulation payload = sps.rbsp)
    (short : (header :: payload).length < 1000)
    (held : read memory 0 (write ((1, header :: payload) :: after)).length =
      write ((1, header :: payload) :: after)) :
    (ReportsSize (isH264KeyFrame memory 0 (write ((1, header :: payload) :: after)).length) sps ↔
        CycleFits (header :: payload) ∧ SaysSize sps (header :: payload)) ∧
      (ReadRight sps payload →
        (ReportsSize (isH264KeyFrame memory 0 (write ((1, header :: payload) :: after)).length)
            sps ↔ Uncropped sps)) := by
  have isFirst : SpsIn (write ((1, header :: payload) :: after)) 0 := spsIn_write isSps
  have unitEq : scannedUnit (write ((1, header :: payload) :: after)) 0 = header :: payload :=
    scannedUnit_write writable short
  have reported := value_isH264KeyFrame_of_first held isFirst
    fun earlier before => absurd before (Nat.not_lt_zero earlier)
  have inArrayIff := safe_inArray_isH264KeyFrame_iff held
  rw [firstCycleFits_iff_of_begins isFirst, unitEq] at inArrayIff
  rw [unitEq] at reported
  constructor
  · constructor
    · intro reports
      have same := reported.symm.trans reports.value
      rw [unitReport, KeyFrameReport.mk.injEq] at same
      exact ⟨inArrayIff.mp reports.inArray, same.2⟩
    · rintro ⟨fits, sized⟩
      refine { inArray := inArrayIff.mpr fits, value := ?_ }
      rw [reported, unitReport, KeyFrameReport.mk.injEq]
      exact ⟨rfl, sized⟩
  · intro right
    have valueEq := reportFor_of_readRight legal isSps writable carried short held right
    have fits := right.cycleFits legal carried header
    constructor
    · intro reports
      exact (reportFor_iff right.width right.height).mp (valueEq.symm.trans reports.value)
    · intro uncropped
      exact
        { inArray := inArrayIff.mpr fits
          value := valueEq.trans ((reportFor_iff right.width right.height).mpr uncropped) }

private theorem carried_cif : removeEmulation cif.rbsp = cif.rbsp := by
  rw [rbsp_cif]
  decide

private theorem readRight_cif : ReadRight cif cif.rbsp := by
  have noEmulation : ¬ [0, 0, 3] <:+: cif.rbsp.take (sizeBytes cif) := by
    rw [rbsp_cif]
    decide
  refine
    { profile := by decide
      noLists := fun _ lists matrix => by cases matrix
      alwaysZero := fun _ _ _ _ isCycle => PicOrderCnt.noConfusion isCycle
      bits := sizeBits_prefix_of_noEmulation carried_cif noEmulation
      width := by decide
      height := by decide }

private theorem legal_cif : cif.Legal := by
  refine { chroma := by decide, lists := ?_, cycle := ?_ }
  · intro lists matrix
    cases matrix
  · intro alwaysZero nonRef topToBottom refFrames isCycle
    cases isCycle

theorem reportsSize_iff_cif :
    let frame := write ((1, 0x67 :: cif.rbsp) :: [(1, [0x65, 0x88])])
    ReportsSize (isH264KeyFrame (ByteMemory.ofBytes frame) 0 frame.length) cif := by
  intro frame
  have writable : Writable (0x67 :: cif.rbsp) := by
    rw [rbsp_cif]
    decide
  have short : (0x67 :: cif.rbsp).length < 1000 := by
    rw [rbsp_cif]
    decide
  have uncropped : Uncropped cif := ⟨rfl, rfl⟩
  exact ((reportsSize_iff legal_cif (by decide) writable carried_cif short (read_ofBytes frame)).2
    readRight_cif).mpr uncropped

/-- Pictures of 1920 by 1080 samples: eight lines of the 68 macroblock rows are cropped. -/
private def fullHD : SeqParameterSet :=
  { cif with
    levelIdc := 40
    picWidthInMbsMinus1 := 119
    picHeightInMapUnitsMinus1 := 67
    cropping := some { left := 0, right := 0, top := 0, bottom := 4 } }

private theorem rbsp_fullHD : fullHD.rbsp = [100, 0, 40, 172, 180, 3, 192, 17, 63, 42] := by
  decide +kernel

/-- The cropped lines are reported. -/
theorem not_reportsSize_fullHD :
    let frame := write ((1, 0x67 :: fullHD.rbsp) :: [])
    fullHD.Legal ∧ Writable (0x67 :: fullHD.rbsp) ∧
      removeEmulation fullHD.rbsp = fullHD.rbsp ∧ (0x67 :: fullHD.rbsp).length < 1000 ∧
      (isH264KeyFrame (ByteMemory.ofBytes frame) 0 frame.length).value =
        { returned := true, width := 1920, height := 1088 } ∧
      fullHD.width = 1920 ∧ fullHD.height = 1080 := by
  intro frame
  have legal : fullHD.Legal :=
    { chroma := legal_cif.chroma, lists := legal_cif.lists, cycle := legal_cif.cycle }
  have writable : Writable (0x67 :: fullHD.rbsp) := by
    rw [rbsp_fullHD]
    decide
  have carried : removeEmulation fullHD.rbsp = fullHD.rbsp := by
    rw [rbsp_fullHD]
    decide
  have short : (0x67 :: fullHD.rbsp).length < 1000 := by
    rw [rbsp_fullHD]
    decide
  have right : ReadRight fullHD fullHD.rbsp :=
    { profile := readRight_cif.profile
      noLists := readRight_cif.noLists
      alwaysZero := readRight_cif.alwaysZero
      bits := ⟨_, fullHD.ofBytes_drop_rbsp.symm⟩
      width := by decide
      height := by decide }
  refine ⟨legal, writable, carried, short, ?_, rfl, rfl⟩
  have reported := reportFor_of_readRight legal (by decide) writable carried short
    (read_ofBytes frame) right
  rw [reportFor_eq right.width right.height] at reported
  exact reported

end RealSize

end DShowCapture
