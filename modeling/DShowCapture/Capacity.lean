/-
What fits into the frame object of the encoder.

The NAL array of `EncodeFrames` has 128 entries and `m_encodedFrame` 768 KiB, and neither
limit is reported.  A buffer inside both limits goes out whole, unless its only NAL unit
is so short that the bytes left over in `m_encodedFrame` complete a start code with it.
-/
import DShowCapture.Encoding

namespace DShowCapture

open ByteMemory FixedWidth Logged AnnexB RFC6184

/-! ### The first NAL unit of a stream -/

private theorem zeros_of_endsUnit {bytes : List UInt8} (ends : EndsUnit bytes) :
    ∃ rest, bytes = 0 :: 0 :: rest := by
  have long : 3 ≤ bytes.length := by
    have lengths : (bytes.take 3).length = 3 := by
      rcases ends with zeros | startCode
      · rw [zeros]
        rfl
      · rw [startCode]
        rfl
    rw [List.length_take] at lengths
    omega
  match bytes, long with
  | first :: second :: third :: rest, _ =>
      refine ⟨third :: rest, ?_⟩
      rcases ends with zeros | startCode
      · rw [List.take_succ_cons, List.take_succ_cons, List.cons.injEq, List.cons.injEq] at zeros
        rw [zeros.1, zeros.2.1]
      · rw [List.take_succ_cons, List.take_succ_cons, List.cons.injEq, List.cons.injEq]
          at startCode
        rw [startCode.1, startCode.2.1]

/-- The first NAL unit of a stream does not look like a start code, or it is the one or
two bytes at the end of the stream. -/
theorem guardsStart_unitPrefix {rest : List UInt8} (nonempty : unitPrefix rest ≠ []) :
    GuardsStart (unitPrefix rest) ∨
      (unitPrefix rest).length < 3 ∧ unitSuffix rest = [] := by
  match rest, nonempty with
  | [], nonempty => exact absurd rfl nonempty
  | [_], _ => exact Or.inr ⟨by simp [unitPrefix, EndsUnit], by simp [unitSuffix, EndsUnit]⟩
  | [_, _], _ => exact Or.inr ⟨by simp [unitPrefix, EndsUnit], by simp [unitSuffix, EndsUnit]⟩
  | first :: second :: third :: rest, nonempty =>
      left
      have notEnd : ¬ EndsUnit (first :: second :: third :: rest) := by
        intro ends
        rw [unitPrefix, if_pos ends] at nonempty
        exact nonempty rfl
      intro memory held
      by_contra looksLike
      rw [Bool.not_eq_false, isStartCode] at looksLike
      simp only [Bool.and_eq_true, Bool.or_eq_true, beq_iff_eq, Nat.zero_add] at looksLike
      rcases looksLike with ⟨⟨zero0, zero1⟩, third01⟩
      rw [unitPrefix, if_neg notEnd, List.length_cons] at held
      obtain ⟨firstEq, held⟩ := head_of_read_eq held
      rw [zero0] at firstEq
      have notSecond : ¬ EndsUnit (second :: third :: rest) := by
        intro ends
        obtain ⟨later, shape⟩ := zeros_of_endsUnit ends
        simp only [List.cons.injEq] at shape
        exact notEnd (Or.inl (by rw [← firstEq, shape.1, shape.2.1]; rfl))
      rw [unitPrefix, if_neg notSecond, List.length_cons] at held
      obtain ⟨secondEq, held⟩ := head_of_read_eq held
      rw [Nat.zero_add, zero1] at secondEq
      have notThird : ¬ EndsUnit (third :: rest) := by
        intro ends
        obtain ⟨later, shape⟩ := zeros_of_endsUnit ends
        simp only [List.cons.injEq] at shape
        exact notEnd (Or.inl (by rw [← firstEq, ← secondEq, shape.1]; rfl))
      rw [unitPrefix, if_neg notThird, List.length_cons] at held
      have thirdEq := (head_of_read_eq held).1
      rcases third01 with isOne | isZero
      · exact notEnd (Or.inr (by rw [← firstEq, ← secondEq, ← thirdEq, isOne]; rfl))
      · exact notEnd (Or.inl (by rw [← firstEq, ← secondEq, ← thirdEq, isZero.1]; rfl))

theorem guardsStart_of_units {stream unit : List UInt8} {rest : List (List UInt8)}
    (shape : units stream = unit :: rest) (nonempty : unit ≠ []) :
    GuardsStart unit ∨ unit.length < 3 ∧ rest = [] := by
  cases found : afterStartCode stream with
  | none =>
      rw [units_of_none found] at shape
      cases shape
  | some behind =>
      rw [units_of_some found] at shape
      obtain ⟨rfl, rfl⟩ := List.cons.inj shape
      rcases guardsStart_unitPrefix nonempty with guards | ⟨short, atEnd⟩
      · exact Or.inl guards
      · exact Or.inr ⟨short, by rw [atEnd, units_of_none rfl]⟩

/-! ### The stores of staging -/

/-- The stores into `m_encodedFrame` and into the NAL table stay inside what was
allocated. -/
def FrameAccess.StoreInBounds : FrameAccess → Prop
  | .packet _ _ => True
  | .frame start count => start + count ≤ maxFrameSize
  | .nal index entries => index < entries

def RtpAccess.StoreInBounds : RtpAccess → Prop
  | .inl access => access.StoreInBounds
  | .inr _ => True

theorem H264Frame.safe_addNALUs (frame : H264Frame) (calls : List NALUArgs)
    (fits : frame.encodedFrameLen ≤ maxFrameSize)
    (total : frame.encodedFrameLen + (calls.map NALUArgs.length).sum < 4294967296)
    (count : frame.numberOfNALsInFrame + calls.length < 4294967296)
    (room : frame.numberOfNALsInFrame + calls.length ≤ frame.nalsAllocated) :
    Safe FrameAccess.StoreInBounds (frame.addNALUs calls) ↔
      frame.encodedFrameLen + (calls.map NALUArgs.length).sum ≤ maxFrameSize := by
  induction calls generalizing frame with
  | nil => simpa [addNALUs] using fits
  | cons call rest ih =>
      rw [List.length_cons] at count room
      rw [List.map_cons, List.sum_cons] at total ⊢
      have here : Safe FrameAccess.StoreInBounds
          (frame.addNALU call.type call.length call.source call.payload) ↔
          frame.encodedFrameLen + call.length ≤ maxFrameSize := by
        have inTable : frame.numberOfNALsInFrame < frame.nalsAllocated := by omega
        simp [addNALU, FrameAccess.StoreInBounds, inTable]
      rw [addNALUs, safe_bind, here]
      have nextLength : (frame.addNALU call.type call.length call.source
          call.payload).value.encodedFrameLen = frame.encodedFrameLen + call.length := by
        change u32 (frame.encodedFrameLen + call.length) = _
        unfold u32
        omega
      have nextCount : (frame.addNALU call.type call.length call.source
          call.payload).value.numberOfNALsInFrame = frame.numberOfNALsInFrame + 1 := by
        change u32 (frame.numberOfNALsInFrame + 1) = _
        unfold u32
        omega
      have nextAllocated : (frame.addNALU call.type call.length call.source
          call.payload).value.nalsAllocated = frame.nalsAllocated := rfl
      generalize (frame.addNALU call.type call.length call.source call.payload).value = next
        at nextLength nextCount nextAllocated ⊢
      by_cases fitsNext : frame.encodedFrameLen + call.length ≤ maxFrameSize
      · have nextFits : next.encodedFrameLen ≤ maxFrameSize := by omega
        rw [ih next nextFits (by omega) (by omega) (by omega), nextLength]
        omega
      · omega

/-- A long NAL unit that is taken up now is sent in a packet of the limit or, when the test
for the last fragment wraps, in one that is shorter still. -/
theorem H264Frame.frameLen_getRTPFrame_of_long {frame : H264Frame}
    (current : frame.currentNAL < frame.numberOfNALsInFrame)
    (long : frame.maxPayloadSize < (frame.nals frame.currentNAL).length)
    (start : frame.atFUStart = true) (atLeastThree : 3 ≤ frame.maxPayloadSize)
    (limit : frame.maxPayloadSize < 65536)
    (inRange : (frame.nals frame.currentNAL).length < 4294967296) {rtp : RTPFrame}
    (plain : rtp.Plain) :
    (frame.getRTPFrame rtp).frame.frameLen =
      12 + (min (u32 ((frame.nals frame.currentNAL).length + 1)) frame.maxPayloadSize : Nat) := by
  have restLen := currentNALFURemainingLen_beginFU frame (by omega) inRange
  have sumEq : u32 (frame.beginFU.currentNALFURemainingLen + 2) =
      u32 ((frame.nals frame.currentNAL).length + 1) := by
    rw [restLen]
    congr 1
    omega
  have positive : 0 < frame.beginFU.currentNALFURemainingLen := by omega
  have limitEq : frame.beginFU.maxPayloadSize = frame.maxPayloadSize := rfl
  simp only [getRTPFrame, if_pos current, if_pos long, encapsulateFU, start,
    if_true, sendFragment, lastFragment, curFULen, if_pos positive, sumEq, limitEq]
  by_cases isLast : u32 ((frame.nals frame.currentNAL).length + 1) ≤ frame.maxPayloadSize
  · simp only [decide_eq_true isLast, if_true]
    rw [frameLen_fillFragment plain _ _ _ _ _ _ (by rw [sumEq]; omega), sumEq,
      Nat.min_eq_left isLast]
  · have sliceEq : u32 (frame.maxPayloadSize - 2) = frame.maxPayloadSize - 2 := by
      unfold u32
      omega
    have backEq : u32 ((frame.maxPayloadSize - 2 : Nat) + 2) = frame.maxPayloadSize := by
      unfold u32
      omega
    simp only [decide_eq_false isLast, Bool.false_eq_true, if_false, sliceEq]
    rw [frameLen_fillFragment plain _ _ _ _ _ _ (by rw [backEq]; exact limit), backEq,
      Nat.min_eq_right (by omega)]

theorem H264Frame.length_addNALU_of_startCode (frame : H264Frame) (call : NALUArgs)
    (startCode : isStartCode (copy frame.encodedFrame frame.encodedFrameLen call.source
      call.payload call.length) 0 = true) :
    ∃ header : Nat, (header = 3 ∨ header = 4) ∧
      ((frame.addNALU call.type call.length call.source call.payload).value.nals
        frame.numberOfNALsInFrame).length = u32 (call.length - header) := by
  refine ⟨if copy frame.encodedFrame frame.encodedFrameLen call.source call.payload
    call.length 2 == 1 then 3 else 4, ?_, ?_⟩
  · split
    · exact Or.inl rfl
    · exact Or.inr rfl
  · simp only [addNALU, value_bind, value_pure, startCode, if_true, Function.update_self]

namespace CH264EncodeRtp

/-- A drained encoder stages within its frame object as long as the NAL units it takes fit
together. -/
theorem safe_encodeFrames_iff {self : CH264EncodeRtp}
    (drained : self.encapsulation.hasRTPFrames = false) {src : Memory} {srcLen : Nat}
    (small : srcLen < 4294967296) (dst : Memory) (dstLen : Nat) :
    Safe RtpAccess.StoreInBounds (self.encodeFrames src srcLen dst dstLen) ↔
      (stagedUnits src srcLen).flatten.length ≤ maxFrameSize := by
  have bytesEq := bytes_map_naluArgs src small
  have sizes := length_stagedUnits_le src srcLen
  have scanSafe : Safe RtpAccess.StoreInBounds
      ((getNalSize src maxNalSize 0 srcLen).mapLog .inr) := by
    rw [safe_mapLog]
    exact fun _ _ => trivial
  rw [encodeFrames, safe_bind, stageFrame, drained]
  simp only [Bool.false_eq_true, if_false, safe_pure, and_true, safe_bind, scanSafe, true_and,
    value_mapLog]
  generalize (getNalSize src maxNalSize 0 srcLen).value = nals at bytesEq ⊢
  have countEq := congrArg List.length bytesEq
  have totalEq := H264Frame.length_flatten_bytes (nals.map (naluArgs src))
  rw [List.length_map, List.length_map] at countEq
  rw [bytesEq] at totalEq
  unfold maxNalSize at sizes
  have room : nals.length ≤ (self.encapsulation.beginNewFrame nals.length).nalsAllocated := by
    simp only [H264Frame.beginNewFrame]
    split <;> omega
  have staging := H264Frame.safe_addNALUs (self.encapsulation.beginNewFrame nals.length)
    (nals.map (naluArgs src)) (Nat.zero_le _)
    (by simp only [H264Frame.beginNewFrame]; omega)
    (by simp only [H264Frame.beginNewFrame, List.length_map]; omega)
    (by rw [List.length_map]; simpa [H264Frame.beginNewFrame] using room)
  rw [safe_mapLog, totalEq]
  change Safe FrameAccess.StoreInBounds _ ↔ _
  rw [staging]
  simp only [H264Frame.beginNewFrame, Nat.zero_add]

/-! ### What the calls on one buffer hand out -/

/-- The calls up to the flag hand out the payloads of all NAL units of the buffer, in order
and once each. -/
def SendsWhole (self : CH264EncodeRtp) (src : Memory) (srcLen : Nat) : Prop :=
  ∃ calls results final, encodeUntilLast src srcLen calls self = some (results, final) ∧
    results.map EncodeResult.payload =
      (units (read src 0 srcLen)).flatMap (nalPayloads self.encapsulation.maxPayloadSize)

def encodeCall (src : Memory) (srcLen : Nat) : Nat → CH264EncodeRtp → EncodeResult
  | 0, self => (self.encodeFrames src srcLen (fun _ => 0) 1212).value
  | call + 1, self =>
      encodeCall src srcLen call (self.encodeFrames src srcLen (fun _ => 0) 1212).value.self

def Reports (self : CH264EncodeRtp) (src : Memory) (srcLen : Nat) : Prop :=
  ∃ call, (encodeCall src srcLen call self).returned = false

theorem not_reports (self : CH264EncodeRtp) (src : Memory) (srcLen : Nat) :
    ¬ self.Reports src srcLen := by
  rintro ⟨call, failed⟩
  induction call generalizing self with
  | zero =>
      rw [encodeCall, value_encodeFrames] at failed
      cases failed
  | succ call ih => exact ih _ failed

theorem IsEncoding.payloads {results : List EncodeResult} {payloads : List (List UInt8)}
    (encoding : IsEncoding results payloads) :
    results.map EncodeResult.payload = payloads := by
  induction results generalizing payloads with
  | nil =>
      cases payloads with
      | nil => rfl
      | cons payload rest => exact encoding.elim
  | cons result results ih =>
      cases payloads with
      | nil => exact encoding.elim
      | cons payload rest => rw [List.map_cons, encoding.1, ih encoding.2.2]

theorem encodeUntilLast_unique {src : Memory} {srcLen first second : Nat}
    {self : CH264EncodeRtp} {left right : List EncodeResult × CH264EncodeRtp}
    (runLeft : encodeUntilLast src srcLen first self = some left)
    (runRight : encodeUntilLast src srcLen second self = some right) : left = right := by
  induction first generalizing second self left right with
  | zero => cases runLeft
  | succ first ih =>
      cases second with
      | zero => cases runRight
      | succ second =>
          simp only [encodeUntilLast] at runLeft runRight
          split at runLeft
          · rename_i flagged
            rw [if_pos flagged] at runRight
            exact (Option.some.inj runLeft).symm.trans (Option.some.inj runRight)
          · rename_i notYet
            rw [if_neg notYet] at runRight
            obtain ⟨laterLeft, restLeft, rfl⟩ := Option.map_eq_some_iff.mp runLeft
            obtain ⟨laterRight, restRight, rfl⟩ := Option.map_eq_some_iff.mp runRight
            rw [ih restLeft restRight]

theorem head_encodeUntilLast {src : Memory} {srcLen calls : Nat} {self : CH264EncodeRtp}
    {results : List EncodeResult} {final : CH264EncodeRtp}
    (run : encodeUntilLast src srcLen calls self = some (results, final)) :
    ∃ later, results = (self.encodeFrames src srcLen (fun _ => 0) 1212).value :: later := by
  cases calls with
  | zero => cases run
  | succ calls =>
      simp only [encodeUntilLast] at run
      split at run
      · exact ⟨[], (Prod.mk.inj (Option.some.inj run)).1.symm⟩
      · obtain ⟨later, _, shape⟩ := Option.map_eq_some_iff.mp run
        exact ⟨later.1, (Prod.mk.inj shape).1.symm⟩

theorem encodeUntilLast_of_nothing {src : Memory} {srcLen : Nat}
    (small : srcLen < 4294967296) (nothing : stagedUnits src srcLen = []) (calls : Nat)
    {self : CH264EncodeRtp} (drained : self.encapsulation.hasRTPFrames = false) :
    encodeUntilLast src srcLen calls self = none := by
  induction calls generalizing self with
  | zero => rfl
  | succ calls ih =>
      obtain ⟨staged, _, _⟩ := staged_stageFrame drained small (by
        intro unit rest shape
        rw [nothing] at shape
        cases shape)
      have empty : (self.stageFrame src srcLen).value.hasRTPFrames = false := by
        rw [H264Frame.hasRTPFrames, staged.count, nothing, decide_eq_false_iff_not]
        exact Nat.not_lt_zero _
      obtain ⟨_, notFlagged, kept⟩ := encodeFrames_of_nothing empty (fun _ => 0) 1212
      rw [encodeUntilLast, notFlagged, ih (by rw [kept]; exact empty)]
      rfl

theorem encodeUntilLast_of_staged {self : CH264EncodeRtp} {src : Memory} {srcLen : Nat}
    {nals : List (List UInt8)} (staged : (self.stageFrame src srcLen).value.Staged nals)
    (unsent : (self.stageFrame src srcLen).value.Unsent)
    (limitEq : (self.stageFrame src srcLen).value.maxPayloadSize =
      self.encapsulation.maxPayloadSize)
    (atLeastThree : 3 ≤ self.encapsulation.maxPayloadSize)
    (limit : self.encapsulation.maxPayloadSize < 65536)
    (someNal : nals ≠ []) (nonempty : ∀ nal, nal ∈ nals → nal ≠ [])
    (small : nals.flatten.length < 4294967295) :
    ∃ calls results final, encodeUntilLast src srcLen calls self = some (results, final) ∧
      results.map EncodeResult.payload =
        nals.flatMap (nalPayloads self.encapsulation.maxPayloadSize) := by
  have few := H264Frame.length_le_length_flatten nonempty
  have packetizing := H264Frame.packetizing_of_staged staged unsent
    (by rw [limitEq]; exact atLeastThree) (by rw [limitEq]; exact limit) small (by omega)
  have pendingEq := H264Frame.pending_of_staged staged unsent
  rw [limitEq] at pendingEq
  obtain ⟨results, final, run, encoding, _⟩ := encodeUntilLast_encodes packetizing
    (by
      obtain ⟨nal, rest, rfl⟩ := List.exists_cons_of_ne_nil someNal
      exact List.append_ne_nil_of_left_ne_nil (nalPayloads_ne_nil atLeastThree nal) _)
    pendingEq
    (by
      intro payload member
      have bounded := H264Frame.length_le_of_mem_payloads atLeastThree nonempty member
      omega)
  exact ⟨_, results, final, run _ (Nat.le_refl _), encoding.payloads⟩

/-- With staged NAL units the buffer is sent whole when they are all of its NAL units. -/
theorem sendsWhole_iff_of_staged {self : CH264EncodeRtp} {src : Memory} {srcLen : Nat}
    (staged : (self.stageFrame src srcLen).value.Staged (stagedUnits src srcLen))
    (unsent : (self.stageFrame src srcLen).value.Unsent)
    (limitEq : (self.stageFrame src srcLen).value.maxPayloadSize =
      self.encapsulation.maxPayloadSize)
    (atLeastThree : 3 ≤ self.encapsulation.maxPayloadSize)
    (limit : self.encapsulation.maxPayloadSize < 65536) (small : srcLen < 2147483648)
    (someUnit : units (read src 0 srcLen) ≠ [])
    (nonempty : ∀ unit, unit ∈ units (read src 0 srcLen) → unit ≠ []) :
    self.SendsWhole src srcLen ↔ (units (read src 0 srcLen)).length ≤ maxNalSize := by
  have sizes := length_stagedUnits_le src srcLen
  have someStaged : stagedUnits src srcLen ≠ [] := by
    rw [stagedUnits, ne_eq, List.take_eq_nil_iff]
    exact fun parts => parts.elim (by decide) someUnit
  obtain ⟨calls, results, final, run, payloads⟩ := encodeUntilLast_of_staged staged unsent limitEq
    atLeastThree limit someStaged (fun unit member => nonempty unit (List.mem_of_mem_take member))
    (by omega)
  constructor
  · rintro ⟨otherCalls, otherResults, otherFinal, otherRun, whole⟩
    have same := (Prod.mk.inj (encodeUntilLast_unique run otherRun)).1
    rw [← same, payloads, stagedUnits] at whole
    conv at whole => rhs; rw [← List.take_append_drop maxNalSize (units (read src 0 srcLen))]
    rw [List.flatMap_append, List.self_eq_append_right, List.flatMap_eq_nil_iff] at whole
    by_contra tooMany
    obtain ⟨unit, member⟩ := List.exists_mem_of_length_pos
      (by rw [List.length_drop]; omega : 0 < ((units (read src 0 srcLen)).drop maxNalSize).length)
    exact nalPayloads_ne_nil atLeastThree unit (whole unit member)
  · intro few
    refine ⟨calls, results, final, run, ?_⟩
    rw [payloads, stagedUnits, List.take_of_length_le few]

/-! ### A first NAL unit that meets a start code -/

theorem stageFrame_of_single {self : CH264EncodeRtp}
    (drained : self.encapsulation.hasRTPFrames = false) {src : Memory} {srcLen : Nat}
    (small : srcLen < 4294967296) {unit : List UInt8}
    (single : stagedUnits src srcLen = [unit]) :
    ∃ call : H264Frame.NALUArgs, call.bytes = unit ∧ call.length = unit.length ∧
      copy self.encapsulation.encodedFrame 0 call.source call.payload call.length =
        store self.encapsulation.encodedFrame 0 unit ∧
      (self.stageFrame src srcLen).value =
        ((self.encapsulation.beginNewFrame 1).addNALU call.type call.length call.source
          call.payload).value := by
  have bytesEq := bytes_map_naluArgs src small
  rw [single] at bytesEq
  rw [value_stageFrame, drained]
  simp only [Bool.false_eq_true, if_false]
  generalize (getNalSize src maxNalSize 0 srcLen).value = nals at bytesEq ⊢
  match nals, bytesEq with
  | [nal], bytesEq =>
      have bytesEq : (naluArgs src nal).bytes = unit := by simpa using bytesEq
      have lengthEq : (naluArgs src nal).length = unit.length := by
        rw [← bytesEq]
        exact (length_read _ _ _).symm
      refine ⟨naluArgs src nal, bytesEq, lengthEq, ?_, ?_⟩
      · rw [copy_eq_store]
        exact congrArg _ bytesEq
      · simp [H264Frame.addNALUs]

/-- When the only NAL unit completes a start code, its length wraps around, and the first
packet already carries something else. -/
theorem not_sendsWhole_of_startCode {self : CH264EncodeRtp}
    (drained : self.encapsulation.hasRTPFrames = false) {src : Memory} {srcLen : Nat}
    (small : srcLen < 4294967296) (atLeastThree : 3 ≤ self.encapsulation.maxPayloadSize)
    (limit : self.encapsulation.maxPayloadSize < 65536) {unit : List UInt8}
    (single : units (read src 0 srcLen) = [unit]) (nonempty : unit ≠ [])
    (short : unit.length < 3)
    (completes : isStartCode (store self.encapsulation.encodedFrame 0 unit) 0 = true) :
    ¬ self.SendsWhole src srcLen := by
  rintro ⟨calls, results, final, run, payloads⟩
  obtain ⟨later, rfl⟩ := head_encodeUntilLast run
  have positive := List.length_pos_iff.mpr nonempty
  have stagedSingle : stagedUnits src srcLen = [unit] := by
    rw [stagedUnits, single]
    rfl
  obtain ⟨call, _, lengthEq, copyEq, staged⟩ := stageFrame_of_single drained small stagedSingle
  rw [single, List.flatMap_singleton, nalPayloads_of_le (by omega), List.map_cons] at payloads
  have firstEq := (List.cons.inj payloads).1
  have lengths := congrArg List.length firstEq
  rw [EncodeResult.payload, length_read, value_encodeFrames, staged] at lengths
  rw [← copyEq] at completes
  obtain ⟨header, headerCases, entry⟩ :=
    H264Frame.length_addNALU_of_startCode (self.encapsulation.beginNewFrame 1) call completes
  have current : ((self.encapsulation.beginNewFrame 1).addNALU call.type call.length call.source
    call.payload).value.hasRTPFrames = true := rfl
  have start : ((self.encapsulation.beginNewFrame 1).addNALU call.type call.length call.source
    call.payload).value.atFUStart = true := rfl
  have limitEq : ((self.encapsulation.beginNewFrame 1).addNALU call.type call.length call.source
    call.payload).value.maxPayloadSize = self.encapsulation.maxPayloadSize := rfl
  have firstNAL : ((self.encapsulation.beginNewFrame 1).addNALU call.type call.length call.source
    call.payload).value.currentNAL = 0 := rfl
  generalize ((self.encapsulation.beginNewFrame 1).addNALU call.type call.length call.source
    call.payload).value = frame at lengths entry current start limitEq firstNAL
  rw [H264Frame.hasRTPFrames, decide_eq_true_eq] at current
  change (frame.nals 0).length = _ at entry
  rw [lengthEq, ← firstNAL] at entry
  have wrapped : 4294967291 < (frame.nals frame.currentNAL).length ∧
      (frame.nals frame.currentNAL).length < 4294967296 ∧
      (u32 ((frame.nals frame.currentNAL).length + 1) = 0 ∨
        65536 ≤ u32 ((frame.nals frame.currentNAL).length + 1)) := by
    rw [entry]
    unfold u32
    omega
  have frameLen := H264Frame.frameLen_getRTPFrame_of_long current (by omega) start (by omega)
    (by omega) wrapped.2.1 (H264Frame.plain_of_zero (by decide) rfl :
      ({ frame := fun _ => 0, frameLen := i32 1212 } : RTPFrame).Plain)
  change u32 (u32 (frame.getRTPFrame { frame := fun _ => 0, frameLen := i32 1212 }).frame.frameLen
    - 12) = unit.length at lengths
  rw [frameLen, limitEq] at lengths
  rcases wrapped with ⟨_, _, wraps⟩
  generalize u32 ((frame.nals frame.currentNAL).length + 1) = sum at lengths wraps
  unfold u32 at lengths
  omega

/-! ### The limits -/

/-- The buffer has NAL units, the array and the block have room for them, and the first one
does not complete a start code with the bytes left over in the block. -/
structure Fits (encoder : CH264EncodeRtp) (src : Memory) (srcLen : Nat) : Prop where
  someUnit : units (read src 0 srcLen) ≠ []
  few : (units (read src 0 srcLen)).length ≤ maxNalSize
  total : (units (read src 0 srcLen)).flatten.length ≤ maxFrameSize
  apart : isStartCode (store encoder.encapsulation.encodedFrame 0
    ((units (read src 0 srcLen)).headD [])) 0 = false

theorem staged_of_apart {self : CH264EncodeRtp}
    (drained : self.encapsulation.hasRTPFrames = false) {src : Memory} {srcLen : Nat}
    (small : srcLen < 4294967296) {unit : List UInt8} {rest : List (List UInt8)}
    (shape : units (read src 0 srcLen) = unit :: rest) (nonempty : unit ≠ [])
    (apart : isStartCode (store self.encapsulation.encodedFrame 0 unit) 0 = false) :
    let frame := (self.stageFrame src srcLen).value
    frame.Staged (stagedUnits src srcLen) ∧ frame.Unsent ∧
      frame.maxPayloadSize = self.encapsulation.maxPayloadSize := by
  have stagedShape : stagedUnits src srcLen = unit :: rest.take 127 := by
    rw [stagedUnits, shape]
    rfl
  rcases guardsStart_of_units shape nonempty with guards | ⟨short, rfl⟩
  · apply staged_stageFrame drained small
    intro first later same
    rw [stagedShape] at same
    rw [← (List.cons.inj same).1]
    exact guards
  · obtain ⟨call, bytesEq, lengthEq, copyEq, valueEq⟩ :=
      stageFrame_of_single drained small stagedShape
    have begun := H264Frame.staged_beginNewFrame self.encapsulation 1
    have kept := H264Frame.frame_addNALU (self.encapsulation.beginNewFrame 1) call
    have staged := H264Frame.staged_addNALU begun.1 call
      (by
        rw [← copyEq] at apart
        exact apart)
      (by
        rw [List.flatten_nil, List.length_nil]
        omega)
      (by decide)
    rw [List.nil_append, bytesEq] at staged
    rw [stagedShape, valueEq]
    exact ⟨staged, kept.2 begun.2, kept.1⟩

/-- The encoder sends all NAL units of a buffer, and stages them within its memory, exactly
when they fit; it never reports that they do not. -/
theorem encodeFrames_complete_iff {self : CH264EncodeRtp}
    (drained : self.encapsulation.hasRTPFrames = false)
    (atLeastThree : 3 ≤ self.encapsulation.maxPayloadSize)
    (limit : self.encapsulation.maxPayloadSize < 65536) {src : Memory} {srcLen : Nat}
    (small : srcLen < 2147483648)
    (nonempty : ∀ unit, unit ∈ units (read src 0 srcLen) → unit ≠ []) (dst : Memory)
    (dstLen : Nat) :
    (Safe RtpAccess.StoreInBounds (self.encodeFrames src srcLen dst dstLen) ∧
        (self.SendsWhole src srcLen ∨ self.Reports src srcLen)) ↔
      self.Fits src srcLen := by
  have wide : srcLen < 4294967296 := by omega
  rw [safe_encodeFrames_iff drained wide, or_iff_left (not_reports self src srcLen)]
  cases shape : units (read src 0 srcLen) with
  | nil =>
      have nothing : stagedUnits src srcLen = [] := by
        rw [stagedUnits, shape]
        rfl
      constructor
      · rintro ⟨_, calls, results, final, run, _⟩
        rw [encodeUntilLast_of_nothing wide nothing calls drained] at run
        cases run
      · exact fun fits => absurd shape fits.someUnit
  | cons unit rest =>
      have unitNonempty : unit ≠ [] := by
        apply nonempty
        rw [shape]
        exact List.mem_cons_self
      have headEq : (units (read src 0 srcLen)).headD [] = unit := by rw [shape]; rfl
      have someUnit : units (read src 0 srcLen) ≠ [] := by
        rw [shape]
        exact List.cons_ne_nil unit rest
      cases apart : isStartCode (store self.encapsulation.encodedFrame 0 unit) 0 with
      | true =>
          constructor
          · rintro ⟨_, whole⟩
            rcases guardsStart_of_units shape unitNonempty with guards | ⟨short, rfl⟩
            · have notStartCode := guards (store self.encapsulation.encodedFrame 0 unit)
                (read_store_self _ _ _)
              rw [apart] at notStartCode
              cases notStartCode
            · exact absurd whole (not_sendsWhole_of_startCode drained wide atLeastThree limit
                shape unitNonempty short apart)
          · intro fits
            have notStartCode := fits.apart
            rw [headEq, apart] at notStartCode
            cases notStartCode
      | false =>
          obtain ⟨staged, unsent, limitEq⟩ := staged_of_apart drained wide shape unitNonempty apart
          rw [sendsWhole_iff_of_staged staged unsent limitEq atLeastThree limit small someUnit
            nonempty]
          constructor
          · rintro ⟨total, few⟩
            rw [stagedUnits, List.take_of_length_le few] at total
            exact
              { someUnit := someUnit
                few := few
                total := total
                apart := by rw [headEq]; exact apart }
          · intro fits
            refine ⟨?_, fits.few⟩
            rw [stagedUnits, List.take_of_length_le fits.few]
            exact fits.total

private def newEncoder : CH264EncodeRtp :=
  setMaxRTPFrameSize { encapsulation := H264Frame.new (fun _ => 0) fun _ => default } 1200

theorem encodeFrames_complete_iff_sliced :
    let src := ofBytes (write slicedStream)
    let srcLen := (write slicedStream).length
    Safe RtpAccess.StoreInBounds (newEncoder.encodeFrames src srcLen (fun _ => 0) 1212) ∧
      (newEncoder.SendsWhole src srcLen ∨ newEncoder.Reports src srcLen) := by
  intro src srcLen
  apply (encodeFrames_complete_iff rfl (by decide) (by decide)
    (length_slicedStream.trans_lt (by decide)) ?_ (fun _ => 0) 1212).mpr
  · refine { someUnit := ?_, few := ?_, total := ?_, apart := ?_ }
    · rw [units_slicedStream]
      exact List.cons_ne_nil _ _
    · rw [units_slicedStream]
      decide
    · rw [units_slicedStream, threeFragments]
      simp only [List.flatten_cons, List.flatten_nil, List.length_append, List.length_cons,
        List.length_replicate, List.length_nil]
      decide
    · rw [units_slicedStream]
      exact guardsStart_of_head [0x42] (by decide) _ (read_store_self _ _ _)
  · rw [units_slicedStream, List.forall_mem_cons, List.forall_mem_cons,
      List.forall_mem_singleton]
    exact ⟨by decide, by decide, writable_threeFragments.nonempty⟩

private def oneByteUnits (count : Nat) : List (Nat × List UInt8) := List.replicate count (0, [9])

private theorem length_write_oneByteUnits (count : Nat) :
    (write (oneByteUnits count)).length = 4 * count := by
  induction count with
  | zero => rfl
  | succ count ih =>
      have shape : oneByteUnits (count + 1) = (0, [9]) :: oneByteUnits count := rfl
      rw [shape, write_cons, List.length_append, List.length_append, ih]
      simp only [startCode, List.replicate_zero, List.nil_append, List.length_cons,
        List.length_nil]
      omega

/-- The last of 129 NAL units is dropped without a report. -/
theorem encodeFrames_incomplete :
    ¬ (Safe RtpAccess.StoreInBounds
          (newEncoder.encodeFrames (ofBytes (write (oneByteUnits 129))) 516 (fun _ => 0) 1212) ∧
        (newEncoder.SendsWhole (ofBytes (write (oneByteUnits 129))) 516 ∨
          newEncoder.Reports (ofBytes (write (oneByteUnits 129))) 516)) := by
  have lengthEq : (write (oneByteUnits 129)).length = 516 := length_write_oneByteUnits 129
  have unitsEq : units (read (ofBytes (write (oneByteUnits 129))) 0 516) =
      List.replicate 129 [9] := by
    rw [← lengthEq, read_ofBytes, units_write (oneByteUnits 129)]
    · rfl
    · intro part member
      rw [List.eq_of_mem_replicate member]
      decide
  rintro ⟨_, whole | reports⟩
  · obtain ⟨staged, unsent, limitEq⟩ :=
      staged_of_apart (rfl : newEncoder.encapsulation.hasRTPFrames = false) (by decide)
      unitsEq (by decide) (guardsStart_of_head [] (by decide) _ (read_store_self _ _ _))
    have few := (sendsWhole_iff_of_staged staged unsent limitEq (by decide) (by decide)
      (by decide) (by rw [unitsEq]; decide) (by
        rw [unitsEq]
        intro unit member
        rw [List.eq_of_mem_replicate member]
        decide)).mp whole
    rw [unitsEq, List.length_replicate] at few
    exact absurd few (by decide)
  · exact not_reports _ _ _ reports

end CH264EncodeRtp

end DShowCapture
