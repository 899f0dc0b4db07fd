/-
Two ways to recognize a key frame: the scan over the bytes of a frame, and its NAL table.

The NAL units of a well-formed stream hide no start code, so the scan meets exactly the
start codes that the frame object wrote.  It looks at the first 1024 bytes only.
-/
import DShowCapture.H264Frame.Packetizer
import DShowCapture.H264Frame.Tiling
import DShowCapture.KeyFrame.CycleBounds
import DShowCapture.KeyFrame.Locality

namespace DShowCapture

open ByteMemory Logged AnnexB

namespace H264Frame

section Represents

variable {frame : H264Frame} {assembly : Assembly}

/-- In the buffer of a frame object, a parameter set stands where the assembly has one. -/
theorem Represents.spsAt_iff (represents : Represents frame assembly)
    (writable : ∀ nal, nal ∈ assembly.nals → Writable nal) {data : Nat}
    (inside : data + 4 ≤ frame.encodedFrameLen) :
    SpsAt frame.encodedFrame data ↔
      ∃ front nal back, assembly.nals = front ++ nal :: back ∧ data = streamSize front ∧
        nal.headD 0 &&& 0x1f = 7 := by
  constructor
  · rintro ⟨startCode, header⟩
    have held := represents.bytes
    rw [assembled, Assembly.stream] at held
    obtain ⟨left, lengthEq⟩ := Nat.exists_eq_add_of_le inside
    have here : (byteStream assembly.nals).drop (data + 1) =
        [0, 0, 1] ++ read frame.encodedFrame (data + 4) left := by
      rw [← held, drop_read _ _ _ _ (by omega), Nat.zero_add,
        show frame.encodedFrameLen - (data + 1) = left + 1 + 1 + 1 by omega, read_succ, read_succ,
        read_succ, startCode.2.1, startCode.2.2.1, startCode.2.2.2]
      rfl
    obtain ⟨front, nal, back, nalsEq, dataEq, following⟩ :=
      unit_of_fourByteCode (fun nal member => (writable nal member).noStartCode) here
    have member : nal ∈ assembly.nals := by
      rw [nalsEq]
      exact List.mem_append_right front List.mem_cons_self
    refine ⟨front, nal, back, nalsEq, by rw [dataEq, length_byteStream_eq], ?_⟩
    cases nal with
    | nil => exact absurd rfl (writable [] member).nonempty
    | cons first body =>
        have lengths := congrArg List.length following
        rw [length_read, List.cons_append, List.length_cons] at lengths
        rw [lengths, read_succ] at following
        rw [(List.cons.inj following).1] at header
        exact header
  · rintro ⟨front, nal, back, nalsEq, rfl, sps⟩
    obtain ⟨_, startCode, bytes⟩ := represents.entry nalsEq
    have held : read frame.encodedFrame (streamSize front) ([0, 0, 0, 1] : List UInt8).length =
        [0, 0, 0, 1] := startCode
    have codeAt := getElem_of_read_eq held
    refine ⟨⟨codeAt 0 (by decide), codeAt 1 (by decide), codeAt 2 (by decide),
      codeAt 3 (by decide)⟩, ?_⟩
    cases nal with
    | nil => exact absurd sps (by decide)
    | cons first body =>
        rw [(head_of_read_eq bytes).1]
        exact sps

theorem Represents.unitAt_eq (represents : Represents frame assembly)
    {front back : List (List UInt8)} {nal : List UInt8}
    (nalsEq : assembly.nals = front ++ nal :: back) : frame.unitAt front.length = nal := by
  obtain ⟨entryEq, _, bytes⟩ := represents.entry nalsEq
  rw [unitAt, entryEq]
  exact bytes

theorem Represents.unitAt_mem (represents : Represents frame assembly) {index : Nat}
    (inTable : index < frame.numberOfNALsInFrame) : frame.unitAt index ∈ assembly.nals := by
  rw [represents.count] at inTable
  obtain ⟨nalsEq, frontLength⟩ := split_at assembly.nals inTable
  have unitEq := represents.unitAt_eq nalsEq
  rw [frontLength] at unitEq
  rw [unitEq]
  exact List.getElem_mem inTable

theorem Represents.keyFrame_iff (represents : Represents frame assembly)
    (writable : ∀ nal, nal ∈ assembly.nals → Writable nal) :
    (isH264KeyFrame frame.encodedFrame 0 frame.encodedFrameLen).value.returned = true ↔
      ∃ front nal back, assembly.nals = front ++ nal :: back ∧
        nal.headD 0 &&& 0x1f = 7 ∧ streamSize front + 4 ≤ 1024 := by
  have sizeEq : frame.encodedFrameLen = streamSize assembly.nals := by
    rw [represents.length, Assembly.size_eq]
  have inBuffer : ∀ front nal back, assembly.nals = front ++ nal :: back →
      streamSize front + 4 < frame.encodedFrameLen := by
    intro front nal back nalsEq
    have member := nalsEq ▸ List.mem_append_right front List.mem_cons_self
    have nonempty := (writable nal member).nonempty
    have positive := List.length_pos_iff.mpr nonempty
    rw [sizeEq, nalsEq, streamSize_append, streamSize_cons]
    omega
  rw [isH264KeyFrame]
  by_cases short : frame.encodedFrameLen ≤ 4
  · rw [if_pos short]
    apply iff_of_false Bool.false_ne_true
    rintro ⟨front, nal, back, nalsEq, _, _⟩
    have inside := inBuffer front nal back nalsEq
    omega
  · rw [if_neg short, returned_keyFrameLoop_iff]
    constructor
    · rintro ⟨data, inRange, sps⟩
      obtain ⟨front, nal, back, nalsEq, rfl, header⟩ :=
        (represents.spsAt_iff writable (by omega)).mp sps
      exact ⟨front, nal, back, nalsEq, header, by omega⟩
    · rintro ⟨front, nal, back, nalsEq, header, early⟩
      have inside := inBuffer front nal back nalsEq
      refine ⟨streamSize front, by omega, ?_⟩
      exact (represents.spsAt_iff writable (by omega)).mpr
        ⟨front, nal, back, nalsEq, rfl, header⟩

end Represents

/-! ### Single NAL unit packets -/

def singlePacket (nal : List UInt8) : RTPFrame :=
  RTPFrame.view (Datagram.bytes { header := RFC3550.Header.plain false, payload := nal })

section SinglePacket

variable {first : UInt8} {rest : List UInt8}

theorem carries_singlePacket (small : rest.length < 60000) :
    Carries (singlePacket (first :: rest)) (first :: rest) := by
  refine (RTPFrame.holds_view _).carries (Datagram.short_of_payload ?_)
  rw [List.length_cons]
  omega

theorem frameLen_singlePacket :
    (singlePacket (first :: rest)).frameLen = (rest.length : Int) + 13 := by
  rw [singlePacket, (RTPFrame.holds_view _).length, Datagram.length_bytes]
  simp only [RFC3550.Header.plain, List.length_nil, List.length_cons]
  omega

theorem wellFormed_singlePacket (type : Payload.SingleType (first &&& 0x1f))
    (small : rest.length < 60000) : WellFormedPacket (singlePacket (first :: rest)) := by
  have carries : Carries (singlePacket (first :: rest)) (first :: rest) :=
    carries_singlePacket small
  have lengthEq : (singlePacket (first :: rest)).frameLen = (rest.length : Int) + 13 :=
    frameLen_singlePacket
  refine
    { plain := ⟨by omega, ?_⟩
      small := by omega
      payload := ⟨.single first rest, type, ?_⟩ }
  · let datagram : Datagram := { header := RFC3550.Header.plain false, payload := first :: rest }
    have noSources := (RTPFrame.holds_view datagram.bytes).firstBytes.1
    rw [singlePacket, noSources]
    exact (by decide : (0x80 ||| UInt8.ofNat 0) &&& 0x1f = 0)
  · rw [RTPFrame.payload, carries.size]
    exact carries.held

theorem Represents.singlePacket {frame : H264Frame} {assembly : Assembly}
    (represents : Represents frame assembly) (type : Payload.SingleType (first &&& 0x1f))
    (small : rest.length < 60000) (flags : CoderFlags) :
    Represents (frame.setFromRTPFrame (H264Frame.singlePacket (first :: rest)) flags).value.self
      (assembly.addNAL (first :: rest)) := by
  have short : (Payload.single first rest).Short := by
    unfold Payload.Short maxFrameSize
    omega
  have carries : Carries (H264Frame.singlePacket (first :: rest))
      (Payload.single first rest).bytes := carries_singlePacket small
  have isUnit : (Payload.single first rest).WellFormed := type
  exact (setFromRTPFrame_refines represents isUnit short carries flags).2.2

end SinglePacket

/-- For every frame object that was fed well-formed packets, and whose first parameter set asks
for no more offsets than there is room for, the scan comes to an end and agrees with the NAL
table on the parameter sets that begin within the first 1024 bytes. -/
theorem keyFrame_iff_nalTable {frame : H264Frame} (fed : WellFed frame)
    (quiet : ∀ index, index < frame.numberOfNALsInFrame →
      frame.unitAt index = [] ∨ Writable (frame.unitAt index))
    (fits : FirstCycleFits frame.assembled) :
    Safe ScanAccess.InArray (isH264KeyFrame frame.encodedFrame 0 frame.encodedFrameLen) ∧
    ((isH264KeyFrame frame.encodedFrame 0 frame.encodedFrameLen).value.returned = true ↔
      ∃ index, index < frame.numberOfNALsInFrame ∧
        (frame.nals index).type = nalTypeSeqParam ∧ (frame.nals index).offset ≤ 1024) := by
  have lengthEq : frame.assembled.length = frame.encodedFrameLen := length_read _ _ _
  have held : read frame.encodedFrame 0 frame.assembled.length = frame.assembled := by
    rw [lengthEq, assembled]
  have inArray := (safe_inArray_isH264KeyFrame_iff held).mpr fits
  rw [lengthEq] at inArray
  refine ⟨inArray, ?_⟩
  rcases fed.receivable.represents with ⟨assembly, represents⟩
  have countEq := represents.count
  have unitsWritable : ∀ nal, nal ∈ assembly.nals → Writable nal := by
    intro nal member
    obtain ⟨front, back, nalsEq⟩ := List.append_of_mem member
    have inTable : front.length < frame.numberOfNALsInFrame := by
      rw [countEq, nalsEq, List.length_append, List.length_cons]
      omega
    have here := quiet front.length inTable
    rw [represents.unitAt_eq nalsEq] at here
    exact here.resolve_left (represents.valid.nonempty nal member)
  rw [represents.keyFrame_iff unitsWritable]
  constructor
  · rintro ⟨front, nal, back, nalsEq, header, early⟩
    have entryEq := (represents.entry nalsEq).1
    refine ⟨front.length, ?_, ?_, ?_⟩
    · rw [countEq, nalsEq, List.length_append, List.length_cons]
      omega
    · rw [entryEq]
      exact header
    · rw [entryEq]
      exact early
  · rintro ⟨index, inRange, type, early⟩
    rw [countEq] at inRange
    obtain ⟨nalsEq, frontLength⟩ := split_at assembly.nals inRange
    have entryEq := (represents.entry nalsEq).1
    rw [frontLength] at entryEq
    rw [entryEq] at type early
    exact ⟨_, _, _, nalsEq, type, early⟩

private def twoUnits (first second : List UInt8) : H264Frame :=
  let opened :=
    ((new (fun _ => 0) default).setFromRTPFrame (singlePacket first) CoderFlags.none).value.self
  (opened.setFromRTPFrame (singlePacket second) CoderFlags.none).value.self

private theorem twoUnits_spec {first second : UInt8} {firstRest secondRest : List UInt8}
    (firstType : Payload.SingleType (first &&& 0x1f)) (firstSmall : firstRest.length < 60000)
    (secondType : Payload.SingleType (second &&& 0x1f))
    (secondSmall : secondRest.length < 60000) :
    WellFed (twoUnits (first :: firstRest) (second :: secondRest)) ∧
      Represents (twoUnits (first :: firstRest) (second :: secondRest))
        { nals := [first :: firstRest, second :: secondRest], openFragments := 0 } := by
  constructor
  · exact .setFromRTPFrame
      (.setFromRTPFrame (.new _ _) (wellFormed_singlePacket firstType firstSmall) _)
      (wellFormed_singlePacket secondType secondSmall) _
  · have fresh := represents_beginNewFrame (H264Frame.new (fun _ => 0) default) id
    have both := (fresh.singlePacket firstType firstSmall CoderFlags.none).singlePacket
      secondType secondSmall CoderFlags.none
    have firstFits : Assembly.empty.size + (first :: firstRest).length + 4 ≤ maxFrameSize := by
      change 0 + (firstRest.length + 1) + 4 ≤ 786432
      omega
    have firstAdded := Assembly.addNAL_of_room firstFits
    have secondFits : (Assembly.empty.addNAL (first :: firstRest)).size +
        (second :: secondRest).length + 4 ≤ maxFrameSize := by
      rw [firstAdded.2]
      change 0 + (firstRest.length + 1) + 4 + (secondRest.length + 1) + 4 ≤ 786432
      omega
    have addedEq : (Assembly.empty.addNAL (first :: firstRest)).addNAL (second :: secondRest) =
        { nals := [first :: firstRest, second :: secondRest], openFragments := 0 } := by
      rw [Assembly.addNAL, if_pos secondFits, firstAdded.1]
      simp only [Assembly.openFragments_addNAL]
      rfl
    rwa [addedEq] at both

/-- The parameter set of a stream, in front of a slice. -/
theorem keyFrame_iff_nalTable_slice :
    let frame := twoUnits [0x67, 0x42] [0x65, 0x88]
    Safe ScanAccess.InArray (isH264KeyFrame frame.encodedFrame 0 frame.encodedFrameLen) ∧
    ((isH264KeyFrame frame.encodedFrame 0 frame.encodedFrameLen).value.returned = true ↔
      ∃ index, index < frame.numberOfNALsInFrame ∧
        (frame.nals index).type = nalTypeSeqParam ∧ (frame.nals index).offset ≤ 1024) := by
  intro frame
  obtain ⟨fed, represents⟩ :
      WellFed frame ∧
        Represents frame { nals := [[0x67, 0x42], [0x65, 0x88]], openFragments := 0 } :=
    twoUnits_spec (by decide) (by decide) (by decide) (by decide)
  apply keyFrame_iff_nalTable fed
  · intro index inTable
    have allQuiet : ∀ nal, nal ∈ ([[0x67, 0x42], [0x65, 0x88]] : List (List UInt8)) →
        nal = [] ∨ Writable nal := by decide
    exact allQuiet _ (represents.unitAt_mem inTable)
  · have bytes : frame.assembled = byteStream [[0x67, 0x42], [0x65, 0x88]] := represents.bytes
    rw [bytes]
    decide

private theorem misses_farParameterSet {body : List UInt8} (long : 1100 ≤ body.length)
    (small : body.length < 60000) (noZero : 0 ∉ body) :
    let frame := twoUnits (0x65 :: body) [0x67, 0x42]
    WellFed frame ∧
      (∀ index, index < frame.numberOfNALsInFrame → Writable (frame.unitAt index)) ∧
      (∃ index, index < frame.numberOfNALsInFrame ∧
        (frame.nals index).type = nalTypeSeqParam) ∧
      (isH264KeyFrame frame.encodedFrame 0 frame.encodedFrameLen).value.returned = false := by
  intro frame
  obtain ⟨fed, represents⟩ : WellFed frame ∧
      Represents frame { nals := [0x65 :: body, [0x67, 0x42]], openFragments := 0 } :=
    twoUnits_spec (by decide) small (by decide) (by decide)
  clear_value frame
  have writable : ∀ nal, nal ∈ [0x65 :: body, [0x67, 0x42]] → Writable nal := by
    intro nal member
    rcases List.mem_cons.mp member with rfl | isLast
    · apply writable_of_noZero (List.cons_ne_nil _ _)
      rw [List.mem_cons]
      exact fun inside => inside.elim (by decide) noZero
    · rw [List.mem_singleton.mp isLast]
      decide
  refine ⟨fed, fun index inTable => writable _ (represents.unitAt_mem inTable), ?_, ?_⟩
  · have nalsEq : [0x65 :: body, ([0x67, 0x42] : List UInt8)] =
        [0x65 :: body] ++ [0x67, 0x42] :: [] := rfl
    have typeEq := congrArg NALU.type (represents.entry nalsEq).1
    refine ⟨1, ?_, typeEq⟩
    rw [represents.count]
    exact Nat.lt_succ_self 1
  · rw [Bool.eq_false_iff, ne_eq, represents.keyFrame_iff writable]
    rintro ⟨front, nal, back, nalsEq, header, early⟩
    cases front with
    | nil =>
        rw [List.nil_append, List.cons.injEq] at nalsEq
        rw [← nalsEq.1] at header
        exact absurd header (by decide : ¬ (0x65 : UInt8) &&& 0x1f = 7)
    | cons front rest =>
        rw [List.cons_append, List.cons.injEq] at nalsEq
        rw [← nalsEq.1, streamSize_cons, List.length_cons] at early
        omega

/-- Behind a slice of more than a kilobyte the scan misses the parameter set. -/
theorem not_keyFrame_farParameterSet :
    let frame := twoUnits (0x65 :: List.replicate 1100 1) [0x67, 0x42]
    WellFed frame ∧
      (∀ index, index < frame.numberOfNALsInFrame → Writable (frame.unitAt index)) ∧
      (∃ index, index < frame.numberOfNALsInFrame ∧
        (frame.nals index).type = nalTypeSeqParam) ∧
      (isH264KeyFrame frame.encodedFrame 0 frame.encodedFrameLen).value.returned = false := by
  have length : (List.replicate 1100 (1 : UInt8)).length = 1100 := List.length_replicate
  apply misses_farParameterSet
  · omega
  · omega
  · rw [List.mem_replicate]
    decide

end H264Frame

end DShowCapture
