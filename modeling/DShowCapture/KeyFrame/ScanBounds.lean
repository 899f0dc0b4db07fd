/-
Where the byte scanners leave their input.

The parser of parameter sets reads the byte behind the NAL unit when the data runs out; the
scan for a start code reads four bytes at each place before it compares the count; and both
scanners read the header behind a start code at the very end.
-/
import DShowCapture.KeyFrame.SpsFields

namespace DShowCapture

open ByteMemory hiding ofBytes
open BitString hiding value
open FixedWidth Logged AnnexB BitCursor

/-! ### The fields of a parameter set -/

/-- What a program reads that ends with one flag behind the fields: when they are there, it
stays before `finish`, and when they are not, it looks at the byte there. -/
structure Probes (memory : Memory) (finish : Nat) (cursor : BitCursor)
    (computation : Logged ScanAccess (SPS × BitCursor)) (field : Field Unit) : Prop where
  present : cursor.Ready finish → ∀ found, field (cursor.bitsLeft memory) = some found →
    Safe (ScanAccess.Below finish) computation
  missing : cursor.Ready finish → field (cursor.bitsLeft memory) = none →
    Safe (ScanAccess.Below (finish + 1)) computation ∧ .read finish 1 ∈ computation.log
  ended : cursor.Ended finish → Safe (ScanAccess.Below (finish + 1)) computation ∧
    (0 ≤ cursor.size → .read finish 1 ∈ computation.log)

section Probes

variable {α β : Type} {memory : Memory} {finish : Nat}

theorem RunsOut.thenProbes {before : BitCursor} {first : Logged ScanAccess (α × BitCursor)}
    {next : α × BitCursor → Logged ScanAccess (SPS × BitCursor)} {field : Field Unit}
    (runsOut : RunsOut finish before first)
    (probes : Probes memory finish first.value.2 (next first.value) field) :
    Safe (ScanAccess.Below (finish + 1)) (first >>= next) ∧
      (0 ≤ before.size → .read finish 1 ∈ (first >>= next).log) := by
  obtain ⟨safe, noticed⟩ := probes.ended runsOut.ended
  constructor
  · rw [safe_bind]
    exact ⟨runsOut.safe, safe⟩
  · intro atEnd
    rw [log_bind, List.mem_append]
    rcases runsOut.noticed atEnd with sizeEq | isRead
    · exact Or.inr (noticed (Int.le_of_eq sizeEq.symm))
    · exact Or.inl isRead

theorem Reads.thenProbes {project : α → β}
    {reader : BitCursor → Logged ScanAccess (α × BitCursor)} {field : Field β}
    {nextReader : α × BitCursor → Logged ScanAccess (SPS × BitCursor)}
    {nextField : β → Field Unit} (first : Reads memory finish project reader field)
    (next : ∀ value cursor,
      Probes memory finish cursor (nextReader (value, cursor)) (nextField (project value)))
    (cursor : BitCursor) :
    Probes memory finish cursor (reader cursor >>= nextReader) (field >>= nextField) := by
  refine { present := ?_, missing := ?_, ended := ?_ }
  · intro ready found foundEq
    obtain ⟨between, gives, foundNext⟩ := first.present_bind ready foundEq
    rw [safe_bind]
    exact ⟨gives.safe, (next _ _).present gives.ready found foundNext⟩
  · intro ready absent
    rcases first.missing_bind ready absent with runsOut | ⟨between, gives, absentNext⟩
    · obtain ⟨safe, noticed⟩ := runsOut.thenProbes (next _ _)
      exact ⟨safe, noticed (Int.le_of_lt ready.positive)⟩
    · obtain ⟨safe, noticed⟩ := (next _ _).missing gives.ready absentNext
      rw [safe_bind, log_bind, List.mem_append]
      exact ⟨⟨fun event member => (gives.safe event member).mono (Nat.le_succ finish), safe⟩,
        Or.inr noticed⟩
  · intro ended
    exact (first.ended ended).thenProbes (next _ _)

theorem Probes.afterPure {value : α} {cursor : BitCursor}
    {nextReader : α × BitCursor → Logged ScanAccess (SPS × BitCursor)} {field : Field Unit}
    (probes : Probes memory finish cursor (nextReader (value, cursor)) field) :
    Probes memory finish cursor (pure (value, cursor) >>= nextReader) field := probes

theorem Probes.ite {condition condition' : Prop} [Decidable condition] [Decidable condition']
    (same : condition ↔ condition') {cursor : BitCursor}
    {yes no : Logged ScanAccess (SPS × BitCursor)} {yesField noField : Field Unit}
    (yesProbes : Probes memory finish cursor yes yesField)
    (noProbes : Probes memory finish cursor no noField) :
    Probes memory finish cursor (if condition then yes else no)
      (if condition' then yesField else noField) := ite_related same yesProbes noProbes

theorem probes_lastFlag (cursor : BitCursor) (last : Int × BitCursor → SPS × BitCursor) :
    Probes memory finish cursor (getBits1 memory cursor >>= fun flag => pure (last flag))
      (pure ()) := by
  refine { present := ?_, missing := ?_, ended := ?_ }
  · intro ready found foundEq
    have positive := ready.positive
    rw [safe_bind]
    refine ⟨?_, safe_pure _ _⟩
    intro event member
    rw [(getBits1_of_nonneg (by omega)).1, List.mem_singleton] at member
    rw [member]
    exact ready.toWithin.below
  · intro ready absent
    cases absent
  · intro ended
    have runsOut := @runsOut_getBits1 memory finish cursor ended
    rw [safe_bind, log_bind, List.mem_append]
    refine ⟨⟨runsOut.safe, safe_pure _ _⟩, fun atEnd => Or.inl ?_⟩
    have finishEq := ended.finish
    have runOut := ended.runOut
    rw [(getBits1_of_nonneg (by omega)).1, show cursor.frameData = finish by omega]
    exact List.mem_singleton.mpr rfl

theorem probes_h264DecodeSPS {frameData : Nat} {size : Int} (sps : SPS) :
    ∃ behindProfile : Logged ScanAccess (SPS × BitCursor),
      (h264DecodeSPS memory frameData size sps).log =
          .read frameData 3 :: behindProfile.log ∧
        Probes memory finish
          { frameData := frameData + 3, size := size - 3, fromByteBits := 0 } behindProfile
          (Field.all (readsHighProfile (memory frameData))) := by
  have isZero : ∀ flag : Int, flag = 0 ↔ decide (flag ≠ 0) = false := by
    intro flag
    rw [decide_eq_false_iff_not, not_not]
  rw [h264DecodeSPS, log_bind]
  refine ⟨_, rfl, ?_⟩
  refine Reads.thenProbes reads_getUeGolomb (fun seqParameterSetId cursor => ?_) _
  refine Probes.ite decide_eq_true_iff.symm
    (Reads.thenProbes (reads_decodeHighProfile _) (fun spsThere cursor => ?_) _)
    (Probes.afterPure ?_)
  all_goals
    refine Reads.thenProbes reads_getUeGolomb (fun log2MaxFrameNum cursor => ?_) _
    refine Reads.thenProbes (reads_decodePicOrderCnt _) (fun spsBehind cursor => ?_) _
    refine Reads.thenProbes reads_getUeGolomb (fun numRefFrames cursor => ?_) _
    refine Reads.thenProbes reads_getBits1 (fun gaps cursor => ?_) _
    refine Reads.thenProbes reads_getUeGolomb (fun width cursor => ?_) _
    refine Reads.thenProbes reads_getUeGolomb (fun height cursor => ?_) _
    refine Reads.thenProbes reads_getBits1 (fun frameMbsOnly cursor => ?_) _
    refine Probes.ite (isZero _)
      (Reads.thenProbes reads_getBits1 (fun adaptive cursor => Probes.afterPure ?_) _)
      (Probes.afterPure ?_)
    all_goals
      refine Reads.thenProbes reads_getBits1 (fun direct8x8 cursor => ?_) _
      refine Reads.thenProbes reads_getBits1 (fun cropping cursor => ?_) _
      refine Probes.ite decide_eq_true_iff.symm
        (Reads.thenProbes (reads_decodeCropping _) (fun spsCropped cursor => ?_) _)
        (Probes.afterPure ?_)
      all_goals exact probes_lastFlag _ _

/-- The parser stays within the first `bound` bytes when the profile lies there and either the
data ends before the bound or all fields are there. -/
theorem safe_h264DecodeSPS_iff {frameData finish bound : Nat} {size : Int} (sps : SPS)
    (finishEq : (frameData : Int) + size = finish) (inside : finish ≤ bound) :
    Safe (ScanAccess.Below bound) (h264DecodeSPS memory frameData size sps) ↔
      frameData + 3 ≤ bound ∧
        (finish < bound ∨
          (Field.all (readsHighProfile (memory frameData))
            (ofBytes (read memory (frameData + 3) (size - 3).toNat))).isSome = true) := by
  obtain ⟨behind, logEq, probes⟩ := @probes_h264DecodeSPS memory finish frameData size sps
  have split : Safe (ScanAccess.Below bound) (h264DecodeSPS memory frameData size sps) ↔
      frameData + 3 ≤ bound ∧ Safe (ScanAccess.Below bound) behind := by
    rw [Safe, logEq]
    exact List.forall_mem_cons
  rw [split]
  refine and_congr_right fun profileInside => ?_
  have cursorFinish : ((frameData + 3 : Nat) : Int) + (size - 3) = finish := by omega
  have widen : ∀ {lower}, lower ≤ bound → Safe (ScanAccess.Below lower) behind →
      Safe (ScanAccess.Below bound) behind :=
    fun le safe event member => (safe event member).mono le
  have decides : .read finish 1 ∈ behind.log → Safe (ScanAccess.Below bound) behind →
      finish < bound := fun member safe => safe _ member
  by_cases positive : 0 < size - 3
  · have ready : Ready finish
        { frameData := frameData + 3, size := size - 3, fromByteBits := 0 } :=
      { positive := positive, finish := cursorFinish, inByte := Nat.zero_lt_succ 7 }
    cases found : Field.all (readsHighProfile (memory frameData))
        (ofBytes (read memory (frameData + 3) (size - 3).toNat)) with
    | some pair =>
        have safe := probes.present ready pair found
        exact iff_of_true (widen inside safe) (Or.inr rfl)
    | none =>
        obtain ⟨safe, member⟩ := probes.missing ready found
        constructor
        · exact fun safeThere => Or.inl (decides member safeThere)
        · rintro (before | absent)
          · exact widen before safe
          · cases absent
  · have ended : Ended finish
        { frameData := frameData + 3, size := size - 3, fromByteBits := 0 } :=
      { runOut := Int.not_lt.mp positive, finish := cursorFinish, inByte := Nat.zero_lt_succ 7 }
    obtain ⟨safe, noticed⟩ := probes.ended ended
    have noBytes : (size - 3).toNat = 0 := by omega
    rw [noBytes, read_zero, ofBytes_nil]
    constructor
    · intro safeThere
      left
      by_cases atEnd : 0 ≤ size - 3
      · exact decides (noticed atEnd) safeThere
      · omega
    · rintro (before | absent)
      · exact widen before safe
      · cases absent

end Probes

/-! ### The scanner of NAL units -/

section Scanner

variable {memory : Memory}

theorem safe_isNalHead (data size : Nat) :
    Safe (ScanAccess.Below (data + size)) (isNalHead memory data size) := by
  rw [isNalHead, safe_bind, safe_emitIf]
  refine ⟨fun four => Nat.add_le_add_left four data, ?_⟩
  split
  · exact safe_pure _ _
  · rw [safe_bind, safe_emitIf]
    refine ⟨fun three => Nat.add_le_add_left three data, ?_⟩
    split <;> exact safe_pure _ _

theorem safe_isNalTail (data size : Nat) :
    Safe (ScanAccess.Below (data + size)) (isNalTail memory data size) := by
  rw [isNalTail, safe_bind]
  refine ⟨safe_isNalHead data size, ?_⟩
  split
  · exact safe_pure _ _
  · split <;> exact safe_pure _ _

theorem safe_getNALSizeLoop (data nSize i : Nat) :
    Safe (ScanAccess.Below (data + nSize)) (getNALSizeLoop memory data nSize i) := by
  fun_induction getNALSizeLoop memory data nSize i with
  | case1 i left ih =>
      have safeTail := @safe_isNalTail memory (data + i) (nSize - i)
      rw [show data + i + (nSize - i) = data + nSize by omega] at safeTail
      rw [safe_bind]
      refine ⟨safeTail, ?_⟩
      split
      · exact ih
      · exact safe_pure _ _
  | case2 i finished => exact safe_pure _ _

theorem safe_getNALSize (data nSize : Nat) :
    Safe (ScanAccess.Below (data + nSize)) (getNALSize memory data nSize) := by
  simp only [getNALSize, safe_bind]
  exact ⟨safe_isNalHead data nSize, safe_getNALSizeLoop data nSize _, safe_pure _ _⟩

theorem safe_searchNalHead (data dataSize : Nat) :
    Safe (ScanAccess.Below (data + dataSize)) (searchNalHead memory data dataSize) := by
  induction dataSize generalizing data with
  | zero => exact safe_pure _ _
  | succ dataSize ih =>
      have later := ih (data + 1)
      rw [Nat.add_assoc, Nat.add_comm 1] at later
      rw [searchNalHead, safe_bind]
      refine ⟨safe_isNalHead data (dataSize + 1), ?_⟩
      split
      · exact safe_pure _ _
      · exact later

/-- The scanner reads the header behind every start code that it comes to, whether or not there
is one. -/
theorem safe_getNalSize_iff (maxNal data dataSize : Nat) :
    Safe (ScanAccess.Below (data + dataSize)) (getNalSize memory maxNal data dataSize) ↔
      ([0, 0, 1] <:+ read memory data dataSize →
        maxNal < (units (read memory data dataSize)).length) := by
  induction maxNal generalizing data dataSize with
  | zero =>
      refine iff_of_true (safe_pure _ _) fun atEnd => List.length_pos_iff.mpr ?_
      rw [Ne, units_eq_nil_iff, ← Option.not_isSome_iff_eq_none, not_not,
        afterStartCode_isSome_iff]
      exact atEnd.isInfix
  | succ room ih =>
      have safeSearch := @safe_searchNalHead memory data dataSize
      rcases getNalSize_cases memory room data dataSize with
        ⟨_, absent, safe⟩ | ⟨rest, nal, left, start, round, inside, _, safeIff⟩
      · refine iff_of_true (safe _ safeSearch) fun atEnd => ?_
        have found := (afterStartCode_isSome_iff _).mpr atEnd.isInfix
        rw [absent] at found
        cases found
      · have safeSize := @safe_getNALSize memory start (data + dataSize - start)
        rw [show start + (data + dataSize - start) = data + dataSize by omega] at safeSize
        have later := ih (nal.pdata + nal.len) left
        have behind := round.behind
        have headerIff : (ScanAccess.read nal.pdata 1).Below (data + dataSize) ↔ rest ≠ [] := by
          rw [← List.length_pos_iff]
          change nal.pdata + 1 ≤ data + dataSize ↔ 0 < rest.length
          omega
        rw [round.total, ← round.suffix] at later
        rw [safeIff, headerIff, later, units_of_some round.found,
          suffix_of_afterStartCode round.found, List.length_cons, Nat.add_lt_add_iff_right]
        constructor
        · rintro ⟨_, _, present, stays⟩ (isEmpty | atEnd)
          · exact absurd isEmpty present
          · exact stays atEnd
        · intro stays
          refine ⟨safeSearch, safeSize, fun isEmpty => ?_, fun atEnd => stays (Or.inr atEnd)⟩
          have long := stays (Or.inl isEmpty)
          rw [isEmpty, unitSuffix, units_of_none rfl] at long
          exact absurd long (Nat.not_lt_zero room)

end Scanner

/-! ### The scan for a parameter set -/

section KeyFrameScan

variable {memory : Memory} {nSize bound : Nat}

theorem skipToStartCode_le (memory : Memory) (nSize frameData nNaluSize : Nat) :
    (skipToStartCode memory nSize frameData nNaluSize).value.2 ≤ max nNaluSize (nSize - 3) := by
  induction gap : nSize - nNaluSize generalizing frameData nNaluSize with
  | zero =>
      rw [value_skipToStartCode, if_neg (by omega)]
      exact Nat.le_max_left _ _
  | succ gap ih =>
      rw [value_skipToStartCode]
      split
      · rename_i goesOn
        have later := ih (frameData + 1) (nNaluSize + 1) (by omega)
        omega
      · exact Nat.le_max_left _ _

/-- The last place where four bytes are read is the one where the search stops. -/
theorem safe_skipToStartCode_iff (frameData nNaluSize : Nat) :
    Safe (ScanAccess.Below bound) (skipToStartCode memory nSize frameData nNaluSize) ↔
      (skipToStartCode memory nSize frameData nNaluSize).value.1 + 4 ≤ bound := by
  induction gap : nSize - nNaluSize generalizing frameData nNaluSize with
  | zero =>
      have stops : ¬ nNaluSize < nSize - 3 := by omega
      rw [skipToStartCode]
      simp only [safe_bind, safe_emit, value_bind, stops, and_false, if_false, safe_pure,
        and_true, value_pure]
      exact Iff.rfl
  | succ gap ih =>
      have later := ih (frameData + 1) (nNaluSize + 1) (by omega)
      obtain ⟨skipped, foundEq, _, _⟩ :=
        skipToStartCode_spec memory nSize (frameData + 1) (nNaluSize + 1)
      have forward : frameData + 1 ≤
          (skipToStartCode memory nSize (frameData + 1) (nNaluSize + 1)).value.1 := by
        rw [foundEq]
        exact Nat.le_add_right _ _
      rw [skipToStartCode]
      simp only [safe_bind, safe_emit, value_bind, value_ite, value_pure]
      split
      · rw [later]
        constructor
        · exact fun both => both.2
        · intro there
          exact ⟨show frameData + 4 ≤ bound by omega, there⟩
      · exact and_iff_left (safe_pure _ _)

theorem safe_reportSize_iff {position : Nat} (long : position + 4 ≤ nSize) (inside : nSize ≤ bound)
    (startCode : StartCodeAt memory position) {size : Nat}
    (sizeEq : (getNALSize memory position (nSize - position)).value.2 = size) :
    Safe (ScanAccess.Below bound) (reportSize memory nSize position position) ↔
      position + 8 ≤ bound ∧
        (position + 4 + size < bound ∨
          (Field.all (readsHighProfile (memory (position + 5)))
            (ofBytes (read memory (position + 8) (size - 4)))).isSome = true) := by
  have sizeInside := getNALSize_inside (nSize - position) (by omega) startCode
  have safeSize := @safe_getNALSize memory position (nSize - position)
  rw [show position + (nSize - position) = nSize by omega] at safeSize
  have safeWide : Safe (ScanAccess.Below bound) (getNALSize memory position (nSize - position)) :=
    fun event member => (safeSize event member).mono inside
  rw [sizeEq] at sizeInside
  have fields := @safe_h264DecodeSPS_iff memory (position + 5) (position + 4 + size) bound
    ((size : Int) - 1) default (by push_cast; omega) (by omega)
  have countEq : ((size : Int) - 1 - 3).toNat = size - 4 := by omega
  rw [countEq] at fields
  rw [reportSize, safe_bind]
  dsimp only
  rw [sizeEq]
  simp only [safe_bind, safe_emit, safe_pure, and_true, fields]
  exact ⟨fun all => all.2.1, fun both => ⟨safeWide, both, trivial, trivial⟩⟩

/-- One round of the scan: it reaches the end of the bytes that it looks at, or comes to the
next start code. -/
theorem safe_keyFrameLoop_cases {nNaluSize : Nat} (goesOn : nNaluSize < nSize) :
    (∃ stop, nSize - 3 ≤ stop ∧ nNaluSize ≤ stop ∧ (stop = nNaluSize ∨ stop = nSize - 3) ∧
        (∀ data, nNaluSize ≤ data → data < nSize - 3 → ¬ StartCodeAt memory data) ∧
        (Safe (ScanAccess.Below bound) (keyFrameLoop memory nSize nNaluSize nNaluSize) ↔
          stop + 4 ≤ bound)) ∨
      ∃ data, nNaluSize ≤ data ∧ data < nSize - 3 ∧ StartCodeAt memory data ∧
        (∀ earlier, nNaluSize ≤ earlier → earlier < data → ¬ StartCodeAt memory earlier) ∧
        (Safe (ScanAccess.Below bound) (keyFrameLoop memory nSize nNaluSize nNaluSize) ↔
          data + 5 ≤ bound ∧
            if memory (data + 4) &&& 0x1f = 7 then
              Safe (ScanAccess.Below bound) (reportSize memory nSize data data)
            else Safe (ScanAccess.Below bound)
              (keyFrameLoop memory nSize (data + 4) (data + 4))) := by
  obtain ⟨stop, behind, foundEq, stopsAt, noneBefore⟩ :=
    skipToStartCode_reaches memory nSize nNaluSize
  have notBehind := skipToStartCode_le memory nSize nNaluSize nNaluSize
  have safeSearch := @safe_skipToStartCode_iff memory nSize bound nNaluSize nNaluSize
  rw [foundEq] at notBehind safeSearch
  dsimp only at notBehind safeSearch
  rw [keyFrameLoop, if_pos goesOn]
  dsimp only
  rw [safe_bind, safeSearch, foundEq]
  dsimp only
  by_cases inRange : stop < nSize - 3
  · refine Or.inr ⟨stop, behind, inRange, stopsAt inRange, noneBefore, ?_⟩
    rw [if_pos inRange, safe_bind, safe_emit]
    have headerIff : (ScanAccess.read (stop + 4) 1).Below bound ↔ stop + 5 ≤ bound := Iff.rfl
    rw [headerIff]
    split
    · exact ⟨fun all => all.2, fun both => ⟨by omega, both⟩⟩
    · exact ⟨fun all => all.2, fun both => ⟨by omega, both⟩⟩
  · refine Or.inl ⟨stop, Nat.not_lt.mp inRange, behind, by omega, ?_, ?_⟩
    · exact fun data from_ before => noneBefore data from_ (by omega)
    · rw [if_neg inRange]
      exact and_iff_left (safe_pure _ _)

/-- The scan stops at the first parameter set. -/
theorem safe_keyFrameLoop_of_sps {nNaluSize sps : Nat}
    (behind : nNaluSize ≤ sps) (inRange : sps < nSize - 3) (header : sps + 5 ≤ bound)
    (isSps : SpsAt memory sps)
    (first : ∀ data, nNaluSize ≤ data → data < sps → ¬ SpsAt memory data) :
    Safe (ScanAccess.Below bound) (keyFrameLoop memory nSize nNaluSize nNaluSize) ↔
      Safe (ScanAccess.Below bound) (reportSize memory nSize sps sps) := by
  induction gap : nSize - nNaluSize using Nat.strongRecOn generalizing nNaluSize with
  | ind gap ih =>
      rcases @safe_keyFrameLoop_cases memory nSize bound nNaluSize (by omega) with
        ⟨_, _, _, _, none, _⟩ | ⟨data, dataBehind, dataInRange, startCode, noneBefore, safeIff⟩
      · exact absurd isSps.1 (none sps behind inRange)
      · have notBehind : data ≤ sps := by
          by_contra before
          exact noneBefore sps behind (by omega) isSps.1
        by_cases here : data = sps
        · subst here
          rw [safeIff, if_pos isSps.2]
          exact and_iff_right header
        · have apart := startCode.apart isSps.1 (by omega)
          have notSps : ¬ memory (data + 4) &&& 0x1f = 7 := fun type =>
            first data dataBehind (by omega) ⟨startCode, type⟩
          rw [safeIff, if_neg notSps, ih _ (by omega) apart
            (fun later isLater => first later (by omega)) rfl]
          exact and_iff_right (by omega)

/-- Where the frame ends with the bytes that the scan looks at, it cannot miss a parameter set
without looking behind them. -/
theorem not_safe_keyFrameLoop {nNaluSize : Nat} (goesOn : nNaluSize < nSize)
    (noSps : ∀ data, nNaluSize ≤ data → data + 5 ≤ nSize → ¬ SpsAt memory data) :
    ¬ Safe (ScanAccess.Below nSize) (keyFrameLoop memory nSize nNaluSize nNaluSize) := by
  induction gap : nSize - nNaluSize using Nat.strongRecOn generalizing nNaluSize with
  | ind gap ih =>
      rcases @safe_keyFrameLoop_cases memory nSize nSize nNaluSize goesOn with
        ⟨stop, atEnd, _, _, _, safeIff⟩ | ⟨data, behind, inRange, startCode, _, safeIff⟩
      · rw [safeIff]
        omega
      · rw [safeIff]
        rintro ⟨header, later⟩
        have notSps : ¬ memory (data + 4) &&& 0x1f = 7 := fun type =>
          noSps data behind header ⟨startCode, type⟩
        rw [if_neg notSps] at later
        exact ih _ (by omega) (by omega) (fun data isLater => noSps data (by omega)) rfl later

/-- In a longer frame it may do so, unless a start code stands at the end of these bytes. -/
theorem safe_keyFrameLoop_of_longer (longer : nSize < bound) {nNaluSize : Nat}
    (noSps : ∀ data, nNaluSize ≤ data → data < nSize - 3 → ¬ SpsAt memory data) :
    Safe (ScanAccess.Below bound) (keyFrameLoop memory nSize nNaluSize nNaluSize) ↔
      (nNaluSize < nSize → nNaluSize + 4 ≤ bound) ∧
        ∀ data, nNaluSize ≤ data → data + 4 < nSize → StartCodeAt memory data →
          data + 8 ≤ bound := by
  induction gap : nSize - nNaluSize using Nat.strongRecOn generalizing nNaluSize with
  | ind gap ih =>
      by_cases goesOn : nNaluSize < nSize
      · rcases @safe_keyFrameLoop_cases memory nSize bound nNaluSize goesOn with
          ⟨stop, atEnd, notBefore, stopEq, none, safeIff⟩ |
            ⟨data, behind, inRange, startCode, noneBefore, safeIff⟩
        · rw [safeIff]
          constructor
          · intro inside
            refine ⟨fun _ => by omega, fun data isBehind inSize startCode => ?_⟩
            exact absurd startCode (none data isBehind (by omega))
          · rintro ⟨here, _⟩
            have inside := here goesOn
            omega
        · have notSps : ¬ memory (data + 4) &&& 0x1f = 7 := fun type =>
            noSps data behind inRange ⟨startCode, type⟩
          rw [safeIff, if_neg notSps,
            ih _ (by omega) (fun data isLater => noSps data (by omega)) rfl]
          constructor
          · rintro ⟨_, next, later⟩
            refine ⟨fun _ => by omega, fun other isBehind inSize otherCode => ?_⟩
            by_cases before : other < data
            · exact absurd otherCode (noneBefore other isBehind before)
            · by_cases same : other = data
              · rw [same] at inSize ⊢
                have inside := next inSize
                omega
              · exact later other (startCode.apart otherCode (by omega)) inSize otherCode
          · rintro ⟨_, all⟩
            refine ⟨by omega, fun inSize => ?_, fun other isBehind => all other (by omega)⟩
            have inside := all data behind inSize startCode
            omega
      · rw [keyFrameLoop, if_neg goesOn]
        exact iff_of_true (safe_pure _ _)
          ⟨fun here => absurd here goesOn, fun data isBehind inSize => by omega⟩

end KeyFrameScan

/-! ### The two scanners -/

/-- Among the first 1024 bytes a start code stands at `position`, with the header of a parameter
set behind it. -/
def SpsIn (bytes : List UInt8) (position : Nat) : Prop :=
  position + 4 ≤ 1024 ∧
    ∃ header : UInt8, header &&& 0x1f = 7 ∧ [0, 0, 0, 1, header] <+: bytes.drop position

theorem SpsIn.lt_length {bytes : List UInt8} {position : Nat} (isSps : SpsIn bytes position) :
    position < bytes.length := by
  obtain ⟨_, header, _, isPrefix⟩ := isSps
  have long := isPrefix.length_le
  rw [List.length_drop] at long
  simp only [List.length_cons] at long
  omega

theorem spsIn_iff {bytes : List UInt8} {position : Nat} :
    SpsIn bytes position ↔ position + 4 ≤ 1024 ∧
      ∃ header, header ∈ bytes[position + 4]? ∧ header &&& 0x1f = 7 ∧
        [0, 0, 0, 1, header] <+: bytes.drop position := by
  refine and_congr_right fun _ => ?_
  constructor
  · rintro ⟨header, isSps, isPrefix⟩
    refine ⟨header, ?_, isSps, isPrefix⟩
    obtain ⟨rest, shape⟩ := isPrefix
    have fifth := congrArg (fun list => list[4]?) shape
    simp only [List.cons_append, List.getElem?_cons_succ, List.getElem?_cons_zero,
      List.getElem?_drop] at fifth
    exact fifth.symm
  · rintro ⟨header, _, isSps, isPrefix⟩
    exact ⟨header, isSps, isPrefix⟩

instance (bytes : List UInt8) : DecidablePred (SpsIn bytes) := fun _ =>
  decidable_of_iff' _ spsIn_iff

/-- The unit behind the start code at `position`, as far as the first 1024 bytes hold it. -/
def scannedUnit (bytes : List UInt8) (position : Nat) : List UInt8 :=
  unitPrefix ((bytes.take 1024).drop (position + 4))

/-- The unit has every field that the parser reads, and a bit behind them for the last flag. -/
def HoldsFields : List UInt8 → Prop
  | _ :: profile :: _ :: _ :: behindProfile =>
      (Field.all (readsHighProfile profile) (ofBytes behindProfile)).isSome = true
  | _ => False

instance : DecidablePred HoldsFields
  | _ :: _ :: _ :: _ :: _ => inferInstanceAs (Decidable (_ = true))
  | [] => inferInstanceAs (Decidable False)
  | [_] => inferInstanceAs (Decidable False)
  | [_, _] => inferInstanceAs (Decidable False)
  | [_, _, _] => inferInstanceAs (Decidable False)

structure KeyFrameStays (bytes : List UInt8) : Prop where
  /-- The first parameter set is complete, or bytes enough stand behind it. -/
  ofSps : ∀ position, SpsIn bytes position →
    (∀ earlier, earlier < position → ¬ SpsIn bytes earlier) →
    HoldsFields (scannedUnit bytes position) ∨
      position + 8 ≤ bytes.length ∧
        position + 4 + (scannedUnit bytes position).length < bytes.length
  /-- Without one the frame is longer than the part that is searched. -/
  ofNone : (∀ position, ¬ SpsIn bytes position) →
    1024 < bytes.length ∧ ∀ position, position + 4 < 1024 →
      [0, 0, 0, 1] <+: bytes.drop position → position + 8 ≤ bytes.length

section Stays

variable {memory : Memory} {count position : Nat}

theorem startCode_prefix_iff :
    [0, 0, 0, 1] <+: (read memory 0 count).drop position ↔
      position + 4 ≤ count ∧ StartCodeAt memory position := by
  rw [prefix_drop_read_iff (List.cons_ne_nil _ _), Nat.zero_add]
  refine and_congr_right fun _ => ?_
  simp [read_succ, StartCodeAt, Nat.add_assoc]

theorem spsIn_read_iff :
    SpsIn (read memory 0 count) position ↔
      position + 4 ≤ 1024 ∧ position + 5 ≤ count ∧ SpsAt memory position := by
  have headerIff : ∀ header : UInt8, [0, 0, 0, 1, header] <+: (read memory 0 count).drop position ↔
      position + 5 ≤ count ∧ StartCodeAt memory position ∧ memory (position + 4) = header := by
    intro header
    rw [prefix_drop_read_iff (List.cons_ne_nil _ _), Nat.zero_add]
    refine and_congr_right fun _ => ?_
    simp [read_succ, StartCodeAt, Nat.add_assoc, and_assoc]
  rw [SpsIn, SpsAt]
  refine and_congr_right fun _ => ?_
  constructor
  · rintro ⟨header, type, isPrefix⟩
    obtain ⟨inside, startCode, rfl⟩ := (headerIff header).mp isPrefix
    exact ⟨inside, startCode, type⟩
  · rintro ⟨inside, startCode, type⟩
    exact ⟨_, type, (headerIff _).mpr ⟨inside, startCode, rfl⟩⟩

theorem scannedUnit_read (long : position + 4 ≤ min count 1024)
    (startCode : StartCodeAt memory position) :
    scannedUnit (read memory 0 count) position =
      read memory (position + 4)
        (getNALSize memory position (min count 1024 - position)).value.2 := by
  have headEq := @isNalHead_of_startCodeAt memory position (min count 1024 - position) (by omega)
    startCode
  have spec := getNALSize_spec memory position (min count 1024 - position) (by omega)
  dsimp only at spec
  rw [headEq] at spec
  have window : (read memory 0 count).take 1024 = read memory 0 (min count 1024) := by
    by_cases short : count ≤ 1024
    · rw [List.take_of_length_le (by rw [length_read]; exact short), Nat.min_eq_left short]
    · rw [take_read _ _ _ _ (by omega), Nat.min_eq_right (by omega)]
  rw [scannedUnit, window, drop_read _ _ _ _ long, Nat.zero_add, ← spec.2.2.1, Nat.sub_sub]

theorem holdsFields_read_iff {size : Nat} :
    HoldsFields (read memory (position + 4) size) ↔
      (Field.all (readsHighProfile (memory (position + 5)))
        (ofBytes (read memory (position + 8) (size - 4)))).isSome = true := by
  by_cases short : size < 4
  · have noBytes : size - 4 = 0 := by omega
    have absent : ∀ high, Field.all high [] = none := fun high => rfl
    rw [noBytes, read_zero, ofBytes_nil, absent]
    refine iff_of_false ?_ Bool.false_ne_true
    rcases (by omega : size = 0 ∨ size = 1 ∨ size = 2 ∨ size = 3) with rfl | rfl | rfl | rfl <;>
      exact fun holds => holds
  · obtain ⟨rest, rfl⟩ := Nat.exists_eq_add_of_le' (Nat.not_lt.mp short)
    rw [Nat.add_sub_cancel]
    exact Iff.rfl

theorem keyFrameStays_iff_of_first {bytes : List UInt8} (isSps : SpsIn bytes position)
    (first : ∀ earlier, earlier < position → ¬ SpsIn bytes earlier) :
    KeyFrameStays bytes ↔
      HoldsFields (scannedUnit bytes position) ∨
        position + 8 ≤ bytes.length ∧
          position + 4 + (scannedUnit bytes position).length < bytes.length := by
  constructor
  · intro stays
    exact stays.ofSps position isSps first
  · intro here
    refine { ofSps := ?_, ofNone := fun absent => absurd isSps (absent position) }
    intro other otherSps otherFirst
    have same : other = position := by
      by_contra different
      rcases Nat.lt_or_gt_of_ne different with before | behind
      · exact first other before otherSps
      · exact otherFirst position behind isSps
    rw [same]
    exact here

theorem keyFrameStays_iff_of_none {bytes : List UInt8}
    (absent : ∀ position, ¬ SpsIn bytes position) :
    KeyFrameStays bytes ↔
      1024 < bytes.length ∧ ∀ position, position + 4 < 1024 →
        [0, 0, 0, 1] <+: bytes.drop position → position + 8 ≤ bytes.length := by
  constructor
  · intro stays
    exact stays.ofNone absent
  · intro here
    exact
      { ofSps := fun position isSps => absurd isSps (absent position)
        ofNone := fun _ => here }

theorem safe_keyFrameLoop_of_first (long : 4 < count)
    (isSps : SpsIn (read memory 0 count) position)
    (first : ∀ earlier, earlier < position → ¬ SpsIn (read memory 0 count) earlier) :
    Safe (ScanAccess.Below count) (keyFrameLoop memory (min count 1024) 0 0) ↔
      KeyFrameStays (read memory 0 count) := by
  obtain ⟨inWindow, header, spsAt⟩ := spsIn_read_iff.mp isSps
  have firstAt : ∀ data, 0 ≤ data → data < position → ¬ SpsAt memory data :=
    fun data _ before earlier =>
      first data before (spsIn_read_iff.mpr ⟨by omega, by omega, earlier⟩)
  have holdsIff := @holdsFields_read_iff memory position
    (getNALSize memory position (min count 1024 - position)).value.2
  have unitInside := getNALSize_inside (min count 1024 - position) (by omega) spsAt.1
  rw [safe_keyFrameLoop_of_sps (Nat.zero_le position) (by omega) header spsAt firstAt,
    safe_reportSize_iff (by omega) (Nat.min_le_left count 1024) spsAt.1 rfl,
    keyFrameStays_iff_of_first isSps first, scannedUnit_read (by omega) spsAt.1, length_read,
    length_read, ← holdsIff]
  constructor
  · rintro ⟨profile, before | holds⟩
    · exact Or.inr ⟨profile, before⟩
    · exact Or.inl holds
  · rintro (holds | ⟨profile, before⟩)
    · refine ⟨?_, Or.inr holds⟩
      by_contra short
      have noBytes : (getNALSize memory position (min count 1024 - position)).value.2 - 4 = 0 := by
        omega
      rw [holdsIff, noBytes] at holds
      exact absurd holds Bool.false_ne_true
    · exact ⟨profile, Or.inl before⟩

theorem safe_keyFrameLoop_of_none (long : 4 < count)
    (absent : ∀ position, ¬ SpsIn (read memory 0 count) position) :
    Safe (ScanAccess.Below count) (keyFrameLoop memory (min count 1024) 0 0) ↔
      KeyFrameStays (read memory 0 count) := by
  have absentAt : ∀ data, data + 4 ≤ 1024 → data + 5 ≤ count → ¬ SpsAt memory data :=
    fun data inWindow header isSps =>
      absent data (spsIn_read_iff.mpr ⟨inWindow, header, isSps⟩)
  rw [keyFrameStays_iff_of_none absent, length_read]
  by_cases longer : 1024 < count
  · rw [Nat.min_eq_right (Nat.le_of_lt longer), safe_keyFrameLoop_of_longer longer
      fun data _ inWindow => absentAt data (by omega) (by omega)]
    constructor
    · rintro ⟨_, stays⟩
      exact ⟨longer, fun position inWindow isPrefix =>
        stays position (Nat.zero_le position) inWindow (startCode_prefix_iff.mp isPrefix).2⟩
    · rintro ⟨_, every⟩
      exact ⟨fun _ => by omega, fun data _ inWindow startCode =>
        every data inWindow (startCode_prefix_iff.mpr ⟨by omega, startCode⟩)⟩
  · rw [Nat.min_eq_left (Nat.not_lt.mp longer)]
    refine iff_of_false (not_safe_keyFrameLoop (by omega)
      fun data _ header => absentAt data (by omega) header) fun stays => longer stays.1

theorem safe_keyFrameLoop_iff (long : 4 < count) :
    Safe (ScanAccess.Below count) (keyFrameLoop memory (min count 1024) 0 0) ↔
      KeyFrameStays (read memory 0 count) := by
  by_cases present : ∃ position, SpsIn (read memory 0 count) position
  · classical
    exact safe_keyFrameLoop_of_first long (Nat.find_spec present) fun _ => Nat.find_min present
  · exact safe_keyFrameLoop_of_none long fun position isSps => present ⟨position, isSps⟩

end Stays

/-- What the reads of the search do not decide is decided by the first parameter set. -/
theorem isH264KeyFrame_iff_first {memory : Memory} {bytes : List UInt8}
    (held : read memory 0 bytes.length = bytes)
    {good : Logged ScanAccess KeyFrameReport → Prop} {unitGood : List UInt8 → Prop}
    (afterReads : ∀ computation rest, ReadsThen computation rest → (good computation ↔ good rest))
    (notKey : good (pure .notKey)) (noUnit : unitGood [])
    (reports : ∀ nSize position, position + 4 ≤ nSize → StartCodeAt memory position →
      (good (reportSize memory nSize position position) ↔
        unitGood (read memory (position + 4)
          (getNALSize memory position (nSize - position)).value.2))) :
    good (isH264KeyFrame memory 0 bytes.length) ↔
      ∀ position, SpsIn bytes position →
        (∀ earlier, earlier < position → ¬ SpsIn bytes earlier) →
          unitGood (scannedUnit bytes position) := by
  have spsIn : ∀ {position}, SpsIn bytes position ↔
      position + 4 ≤ 1024 ∧ position + 5 ≤ bytes.length ∧ SpsAt memory position := by
    intro position
    have iffRead := @spsIn_read_iff memory bytes.length position
    rw [held] at iffRead
    exact iffRead
  have unitEq := fun position => @scannedUnit_read memory bytes.length position
  rw [held] at unitEq
  generalize bytes.length = count at spsIn unitEq ⊢
  rw [isH264KeyFrame]
  by_cases short : count ≤ 4
  · rw [if_pos short]
    refine iff_of_true notKey fun position isSps _ => ?_
    have inside := spsIn.mp isSps
    omega
  · rw [if_neg short]
    rcases @readsThen_keyFrameLoop memory (min count 1024) 0 with
      ⟨none, ends⟩ | ⟨sps, _, inRange, isSps, first, reaches⟩
    · rw [afterReads _ _ ends]
      refine iff_of_true notKey fun position isSps _ => ?_
      obtain ⟨inWindow, inside, here⟩ := spsIn.mp isSps
      exact absurd here (none position (Nat.zero_le position) (by omega))
    · have notBefore : ∀ {position}, SpsIn bytes position → sps ≤ position := by
        intro position isFirst
        by_contra before
        exact first position (Nat.zero_le position) (by omega) (spsIn.mp isFirst).2.2
      rw [afterReads _ _ reaches, reports _ _ (by omega) isSps.1, ← unitEq sps (by omega) isSps.1]
      by_cases header : sps + 5 ≤ count
      · have here : SpsIn bytes sps := spsIn.mpr ⟨by omega, header, isSps⟩
        constructor
        · intro fits position isFirst none
          have same : position = sps := by
            by_contra different
            have behind := notBefore isFirst
            exact none sps (by omega) here
          rw [same]
          exact fits
        · intro fits
          exact fits sps here fun earlier before isEarlier =>
            absurd (notBefore isEarlier) (by omega)
      · have empty : scannedUnit bytes sps = [] := by
          have inside := getNALSize_inside (min count 1024 - sps) (by omega) isSps.1
          rw [unitEq sps (by omega) isSps.1,
            show (getNALSize memory sps (min count 1024 - sps)).value.2 = 0 by omega]
          rfl
        rw [empty]
        refine iff_of_true noUnit fun position isFirst _ => ?_
        have behind := notBefore isFirst
        have inside := spsIn.mp isFirst
        omega

/-- Both scanners stay inside a byte string exactly when the search for a key frame finds what
it needs in it, and no start code at the end is left for the table of units. -/
theorem scannersStay_iff {memory : Memory} {bytes : List UInt8}
    (held : read memory 0 bytes.length = bytes) (maxNal : Nat) :
    Safe (ScanAccess.Below bytes.length) (isH264KeyFrame memory 0 bytes.length) ∧
        Safe (ScanAccess.Below bytes.length) (getNalSize memory maxNal 0 bytes.length) ↔
      (4 < bytes.length → KeyFrameStays bytes) ∧
        ([0, 0, 1] <:+ bytes → maxNal < (units bytes).length) := by
  have table := @safe_getNalSize_iff memory maxNal 0 bytes.length
  rw [Nat.zero_add, held] at table
  rw [table, isH264KeyFrame]
  refine and_congr_left fun _ => ?_
  by_cases short : bytes.length ≤ 4
  · rw [if_pos short]
    exact iff_of_true (safe_pure _ _) fun long => absurd short (Nat.not_le.mpr long)
  · have long := Nat.not_le.mp short
    have keyFrame := @safe_keyFrameLoop_iff memory bytes.length long
    rw [held] at keyFrame
    rw [if_neg short, keyFrame]
    exact ⟨fun stays _ => stays, fun stays => stays long⟩

/-- A frame that is one complete parameter set. -/
theorem scannersStay_iff_parameterSet :
    let bytes : List UInt8 := [0, 0, 0, 1, 0x67, 100, 0, 13, 172, 180, 11, 4, 182, 128]
    Safe (ScanAccess.Below bytes.length)
        (isH264KeyFrame (ByteMemory.ofBytes bytes) 0 bytes.length) ∧
      Safe (ScanAccess.Below bytes.length)
        (getNalSize (ByteMemory.ofBytes bytes) 200 0 bytes.length) := by
  intro bytes
  have isSps : SpsIn bytes 0 := ⟨by decide, 0x67, by decide, by decide⟩
  have stays : KeyFrameStays bytes := by
    refine { ofSps := ?_, ofNone := fun absent => absurd isSps (absent 0) }
    intro position _ first
    cases position with
    | zero =>
        left
        decide +kernel
    | succ position => exact absurd isSps (first 0 (Nat.zero_lt_succ position))
  exact (scannersStay_iff (read_ofBytes bytes) 200).mpr
    ⟨fun _ => stays, fun atEnd => absurd atEnd (by decide)⟩

/-- A parameter set without a profile, a slice of three bytes and a start code without a unit. -/
theorem not_scannersStay_short :
    let noProfile : List UInt8 := [0, 0, 0, 1, 0x67]
    let slice : List UInt8 := [0, 0, 0, 1, 0x41, 0x9a, 0x24]
    let noUnit : List UInt8 := [0, 0, 0, 1]
    ¬ Safe (ScanAccess.Below 5) (isH264KeyFrame (ByteMemory.ofBytes noProfile) 0 5) ∧
      ¬ Safe (ScanAccess.Below 7) (isH264KeyFrame (ByteMemory.ofBytes slice) 0 7) ∧
      ¬ Safe (ScanAccess.Below 4) (getNalSize (ByteMemory.ofBytes noUnit) 200 0 4) := by
  intro noProfile slice noUnit
  refine ⟨fun safe => ?_, fun safe => ?_, fun safe => ?_⟩
  · have isSps : SpsAt (ByteMemory.ofBytes noProfile) 0 := by decide
    rw [isH264KeyFrame, if_neg (by decide), safe_keyFrameLoop_of_sps (Nat.le_refl 0) (by decide)
      (by decide) isSps (fun data _ before => absurd before (Nat.not_lt_zero data)),
      safe_reportSize_iff (by decide) (by decide) isSps.1 rfl] at safe
    exact absurd safe.1 (by decide)
  · rw [isH264KeyFrame, if_neg (by decide)] at safe
    refine not_safe_keyFrameLoop (by decide) ?_ safe
    intro data _ inside
    have early : data < 3 := by
      change data + 5 ≤ 7 at inside
      omega
    clear inside safe
    revert data
    decide
  · have stays := (@safe_getNalSize_iff (ByteMemory.ofBytes noUnit) 200 0 4).mp safe
    rw [show read (ByteMemory.ofBytes noUnit) 0 4 = noUnit from read_ofBytes noUnit] at stays
    have few : (units noUnit).length ≤ 200 := by
      have found : afterStartCode noUnit = some [] := by decide
      rw [units_of_some found, unitSuffix, units_of_none rfl]
      decide
    exact absurd (stays (by decide)) (Nat.not_lt.mpr few)

end DShowCapture
