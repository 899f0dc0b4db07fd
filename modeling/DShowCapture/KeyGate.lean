/-
The key-frame gate of the decoder object, and the isolation of its frames.

A packet with the marker leaves an empty frame object behind, whatever became of it.  Frames
are handed over from the first one on that the key-frame scanner accepts, each with the
size that the scanner found in the last such frame.
-/
import Mathlib.Data.List.DropRight
import DShowCapture.Decoding
import DShowCapture.H264Frame.Tiling
import DShowCapture.OffsetArray

namespace DShowCapture

open ByteMemory FixedWidth Logged AnnexB

namespace Assembly

def feed (self : Assembly) (payload : Payload) : Assembly :=
  (self.receive payload).getD empty

end Assembly

structure H264Frame.Emptied (frame : H264Frame) : Prop where
  length : frame.encodedFrameLen = 0
  count : frame.numberOfNALsInFrame = 0
  counter : frame.currentFU = 0

theorem H264Frame.Represents.emptied {frame : H264Frame}
    (represents : frame.Represents Assembly.empty) : frame.Emptied :=
  { length := represents.length, count := represents.count, counter := represents.counter }

def DecodeResult.Delivers (self : DecodeResult) : Prop :=
  self.returned = true ∧ 0 < self.args.dstLen

/-- The calls behind the last one whose packet has the marker. -/
def sinceMarker (calls : List DecodeCall) : List DecodeCall :=
  calls.rtakeWhile fun call => !call.rtp.getMarker

theorem sinceMarker_append (calls : List DecodeCall) (call : DecodeCall) :
    sinceMarker (calls ++ [call]) =
      if call.rtp.getMarker then [] else sinceMarker calls ++ [call] := by
  rw [sinceMarker, List.rtakeWhile_concat]
  cases call.rtp.getMarker <;> rfl

structure Payload.Of (payload : Payload) (rtp : RTPFrame) : Prop where
  wellFormed : payload.WellFormed
  bytes : rtp.payload = payload.bytes

def HavePayloads (calls : List DecodeCall) (payloads : List Payload) : Prop :=
  List.Forall₂ (fun call payload => payload.Of call.rtp) calls payloads

theorem HavePayloads.unique {calls : List DecodeCall} {payloads others : List Payload}
    (held : HavePayloads calls payloads) (heldOthers : HavePayloads calls others) :
    payloads = others := by
  induction held generalizing others with
  | nil =>
      cases heldOthers
      rfl
  | cons here later ih =>
      cases heldOthers with
      | cons hereToo laterToo =>
          rw [ih laterToo, Payload.eq_of_bytes here.wellFormed hereToo.wellFormed
            (here.bytes.symm.trans hereToo.bytes)]

/-- The first parameter set of the frame that the packet completes asks for no more offsets than
there is room for. -/
def FrameFits (calls : List DecodeCall) (call : DecodeCall) : Prop :=
  call.rtp.getMarker = true →
    ∃ payloads, HavePayloads (sinceMarker calls ++ [call]) payloads ∧
      FirstCycleFits (payloads.foldl Assembly.feed Assembly.empty).stream

namespace CH264DecodeRtp

/-- What `Is_H264KeyFrame` reports of the frame that a packet completes: the packet is accepted
and has the marker, and there are bytes. -/
def completedBy (received : H264Frame.Received) (rtp : RTPFrame) : Option KeyFrameReport :=
  if received.returned ∧ rtp.getMarker ∧ received.self.encodedFrameLen ≠ 0 then
    some (isH264KeyFrame received.self.encodedFrame 0 received.self.encodedFrameLen).value
  else none

def completed (self : CH264DecodeRtp) (call : DecodeCall) : Option KeyFrameReport :=
  completedBy (self.fullFrame.setFromRTPFrame call.rtp call.args.flags).value call.rtp

def keyReport (self : CH264DecodeRtp) (call : DecodeCall) : List KeyFrameReport :=
  ((self.completed call).filter KeyFrameReport.returned).toList

def keyReports (self : CH264DecodeRtp) : List DecodeCall → List KeyFrameReport
  | [] => []
  | call :: rest => self.keyReport call ++ (call.decode self).self.keyReports rest

theorem decodeAll_nil (decoder : CH264DecodeRtp) : (decoder.decodeAll []).2 = decoder := by
  rw [decodeAll]

theorem decodeAll_cons (decoder : CH264DecodeRtp) (call : DecodeCall) (rest : List DecodeCall) :
    (decoder.decodeAll (call :: rest)).2 = ((call.decode decoder).self.decodeAll rest).2 := by
  rw [decodeAll]

theorem decodeAll_append (decoder : CH264DecodeRtp) (calls : List DecodeCall)
    (call : DecodeCall) :
    (decoder.decodeAll (calls ++ [call])).2 = (call.decode (decoder.decodeAll calls).2).self := by
  induction calls generalizing decoder with
  | nil => rw [List.nil_append, decodeAll_cons, decodeAll_nil, decodeAll_nil]
  | cons first rest ih => rw [List.cons_append, decodeAll_cons, decodeAll_cons, ih]

theorem keyReports_append (decoder : CH264DecodeRtp) (calls : List DecodeCall)
    (call : DecodeCall) :
    decoder.keyReports (calls ++ [call]) =
      decoder.keyReports calls ++ (decoder.decodeAll calls).2.keyReport call := by
  induction calls generalizing decoder with
  | nil =>
      rw [List.nil_append, keyReports, keyReports, keyReports, decodeAll_nil, List.append_nil,
        List.nil_append]
  | cons first rest ih =>
      rw [List.cons_append, keyReports, keyReports, decodeAll_cons, ih, List.append_assoc]

/-! ### What a call does behind `SetFromRTPFrame` -/

theorem decodeReceived_eq_decode (decoder : CH264DecodeRtp) (call : DecodeCall) :
    (decoder.decodeReceived call.rtp
      (decoder.fullFrame.setFromRTPFrame call.rtp call.args.flags).value call.args).value =
        call.decode decoder := by
  rw [DecodeCall.decode, value_decodeFrames, DecodeCall.rtp]

section Received

variable {decoder : CH264DecodeRtp} {rtp : RTPFrame} {received : H264Frame.Received}
  {args : DecodeArgs}

theorem decodeReceived_of_incomplete
    (incomplete : ¬ (received.returned = true ∧ rtp.getMarker = true ∧
      received.self.encodedFrameLen ≠ 0)) :
    ∃ frame later, (decoder.decodeReceived rtp received args).value =
      { returned := false, self := { decoder with fullFrame := frame }, args := later } := by
  unfold decodeReceived
  cases returned : received.returned with
  | false =>
      simp only [Bool.not_false, if_true, value_pure]
      exact ⟨_, _, rfl⟩
  | true =>
      simp only [Bool.not_true, Bool.false_eq_true, if_false, value_bind, value_ite, value_pure]
      cases marked : rtp.getMarker with
      | false =>
          simp only [Bool.not_false, if_true]
          exact ⟨_, _, rfl⟩
      | true =>
          have noBytes : received.self.encodedFrameLen = 0 := by
            by_contra someBytes
            exact incomplete ⟨returned, marked, someBytes⟩
          simp only [Bool.not_true, Bool.false_eq_true, if_false, completeFrame, if_pos noBytes,
            value_pure]
          exact ⟨_, _, rfl⟩

theorem decodeReceived_of_complete (returned : received.returned = true)
    (marked : rtp.getMarker = true) (someBytes : received.self.encodedFrameLen ≠ 0) :
    (decoder.decodeReceived rtp received args).value =
      passGate { decoder with fullFrame := received.self }
        (isH264KeyFrame received.self.encodedFrame 0 received.self.encodedFrameLen).value
        { args with dstLen := 0, flags := received.flags } := by
  simp only [decodeReceived, returned, marked, Bool.not_true, Bool.false_eq_true, if_false,
    value_bind, completeFrame, if_neg someBytes, value_mapLog, value_pure]

end Received

section Call

variable {decoder : CH264DecodeRtp} {call : DecodeCall} {received : H264Frame.Received}
  {result : DecodeResult}

theorem result_of_incomplete
    (decoded : (decoder.decodeReceived call.rtp received call.args).value = result)
    (incomplete : completedBy received call.rtp = none) :
    ∃ frame later,
      result =
        { returned := false, self := { decoder with fullFrame := frame }, args := later } := by
  rw [completedBy] at incomplete
  split at incomplete
  · cases incomplete
  · rename_i notComplete
    rw [← decoded]
    exact decodeReceived_of_incomplete notComplete

theorem result_of_completed
    (decoded : (decoder.decodeReceived call.rtp received call.args).value = result)
    {report : KeyFrameReport} (complete : completedBy received call.rtp = some report) :
    received.returned = true ∧ 0 < received.self.encodedFrameLen ∧
      ∃ later, later.dstLen = 0 ∧
        result = passGate { decoder with fullFrame := received.self } report later := by
  rw [completedBy] at complete
  split at complete
  · rename_i parts
    rcases parts with ⟨returned, marked, someBytes⟩
    have reportEq := Option.some.inj complete
    refine ⟨returned, Nat.pos_of_ne_zero someBytes,
      { call.args with dstLen := 0, flags := received.flags }, rfl, ?_⟩
    rw [← decoded, decodeReceived_of_complete returned marked someBytes, reportEq]
  · cases complete

end Call

/-! ### The gate -/

structure Gate (decoder : CH264DecodeRtp) (keys : List KeyFrameReport) : Prop where
  opened : decoder.haveGetKeyFrame = true ↔ keys ≠ []
  size : ∀ report, keys.getLast? = some report →
    decoder.width = report.width ∧ decoder.height = report.height

theorem gate_new (encodedFrame : Memory) (nals : Nat → NALU) (width height : Int) :
    (new encodedFrame nals width height).Gate [] :=
  { opened := iff_of_false Bool.false_ne_true (fun nonempty => nonempty rfl)
    size := fun report impossible => by cases impossible }

/-- A completed frame passes the gate when it is a key frame or one was there before, and
takes the size of the last key frame along. -/
theorem Gate.pass {decoder : CH264DecodeRtp} {keys : List KeyFrameReport}
    (gate : decoder.Gate keys) (report : KeyFrameReport) {args : DecodeArgs}
    (cleared : args.dstLen = 0) (someBytes : 0 < decoder.fullFrame.encodedFrameLen) :
    let result := decoder.passGate report args
    let keysNow := keys ++ ((some report).filter KeyFrameReport.returned).toList
    result.self.Gate keysNow ∧ (result.Delivers ↔ keysNow ≠ []) ∧
      (result.Delivers →
        result.output =
            read decoder.fullFrame.encodedFrame 0 decoder.fullFrame.encodedFrameLen ∧
          ∃ last, keysNow.getLast? = some last ∧
            result.args.nWidth = last.width ∧ result.args.nHeight = last.height) := by
  have delivered : (decoder.deliver report args).output =
      read decoder.fullFrame.encodedFrame 0 decoder.fullFrame.encodedFrameLen := by
    simp only [DecodeResult.output, deliver, read_copy_self]
  unfold passGate
  cases isKey : report.returned with
  | true =>
      have keysEq : ((some report).filter KeyFrameReport.returned).toList = [report] := by
        simp [Option.filter, isKey]
      simp only [Bool.not_true, Bool.false_and, Bool.false_eq_true, if_false, keysEq]
      have isSize : ∀ last, (keys ++ [report]).getLast? = some last → report = last := by
        intro last isLast
        rw [List.getLast?_concat] at isLast
        exact Option.some.inj isLast
      refine ⟨{ opened := ?_, size := ?_ }, ?_, fun _ => ⟨delivered, report, ?_, ?_⟩⟩
      · simp [deliver, isKey]
      · intro last isLast
        rw [← isSize last isLast]
        simp [deliver, isKey]
      · exact iff_of_true ⟨rfl, someBytes⟩ (by simp)
      · exact List.getLast?_concat
      · simp [deliver, isKey]
  | false =>
      have keysEq : ((some report).filter KeyFrameReport.returned).toList = [] := by
        simp [Option.filter, isKey]
      simp only [Bool.not_false, Bool.true_and, keysEq, List.append_nil]
      cases haveKey : decoder.haveGetKeyFrame with
      | false =>
          have noKeys : keys = [] := by
            by_contra someKeys
            rw [gate.opened.mpr someKeys] at haveKey
            cases haveKey
          subst noKeys
          have withheld : ¬ (decoder.withhold report args).Delivers := by
            intro delivers
            have positive := delivers.2
            rw [withhold, cleared] at positive
            omega
          simp only [Bool.not_false, if_true]
          refine ⟨{ opened := ?_, size := ?_ }, ?_, fun delivers => absurd delivers withheld⟩
          · exact iff_of_false (by simp [withhold, haveKey]) (fun nonempty => nonempty rfl)
          · intro last impossible
            cases impossible
          · exact iff_of_false withheld (fun nonempty => nonempty rfl)
      | true =>
          have someKeys := gate.opened.mp haveKey
          have isLast := List.getLast?_eq_some_getLast someKeys
          generalize keys.getLast someKeys = last at isLast
          have sizeEq := gate.size last isLast
          simp only [Bool.not_true, Bool.false_eq_true, if_false]
          refine ⟨{ opened := ?_, size := ?_ }, ?_, fun _ => ⟨delivered, last, isLast, ?_⟩⟩
          · exact iff_of_true (by simp [deliver, haveKey]) someKeys
          · intro other isOther
            simpa [deliver, isKey] using gate.size other isOther
          · exact iff_of_true ⟨rfl, someBytes⟩ someKeys
          · simpa [deliver, isKey] using sizeEq

/-- One call: the gate follows the key frames, and decides on the frame completed. -/
theorem Gate.decide {decoder : CH264DecodeRtp} {keys : List KeyFrameReport}
    (gate : decoder.Gate keys) {call : DecodeCall} {received : H264Frame.Received}
    {result : DecodeResult}
    (decoded : (decoder.decodeReceived call.rtp received call.args).value = result)
    {completed : Option KeyFrameReport} (completedEq : completedBy received call.rtp = completed) :
    let keysNow := keys ++ (completed.filter KeyFrameReport.returned).toList
    result.self.Gate keysNow ∧ (result.Delivers ↔ completed.isSome = true ∧ keysNow ≠ []) ∧
      (result.Delivers →
        received.returned = true ∧ result.output = received.self.assembled ∧
          ∃ last, keysNow.getLast? = some last ∧
            result.args.nWidth = last.width ∧ result.args.nHeight = last.height) := by
  cases completed with
  | none =>
      obtain ⟨frame, later, resultEq⟩ := result_of_incomplete decoded completedEq
      have silent : ¬ result.Delivers := by
        rw [resultEq]
        exact fun delivers => Bool.false_ne_true delivers.1
      rw [Option.filter_none, Option.toList_none, List.append_nil]
      refine ⟨?_, ?_, fun delivers => absurd delivers silent⟩
      · rw [resultEq]
        exact { opened := gate.opened, size := gate.size }
      · exact iff_of_false silent (fun both => Bool.false_ne_true both.1)
  | some report =>
      obtain ⟨returned, someBytes, later, cleared, resultEq⟩ :=
        result_of_completed decoded completedEq
      have gateThere : Gate { decoder with fullFrame := received.self } keys :=
        { opened := gate.opened, size := gate.size }
      obtain ⟨gateNow, delivers, handed⟩ := gateThere.pass report cleared someBytes
      rw [← resultEq] at gateNow delivers handed
      refine ⟨gateNow, ?_, fun handsOver => ⟨returned, handed handsOver⟩⟩
      rw [delivers]
      exact ⟨fun nonempty => ⟨rfl, nonempty⟩, fun both => both.2⟩

theorem gate_decodeAll (encodedFrame : Memory) (nals : Nat → NALU) (width height : Int)
    (calls : List DecodeCall) :
    let start := new encodedFrame nals width height
    (start.decodeAll calls).2.Gate (start.keyReports calls) := by
  intro start
  induction calls using List.reverseRecOn with
  | nil =>
      rw [decodeAll_nil]
      exact gate_new encodedFrame nals width height
  | append_singleton calls call ih =>
      rw [decodeAll_append, keyReports_append]
      exact (ih.decide (decodeReceived_eq_decode _ call) rfl).1

/-! ### Isolation -/

/-- The frame object holds an assembly made of the packets behind the last marker. -/
def Isolated (decoder : CH264DecodeRtp) (pending : List DecodeCall) : Prop :=
  ∃ payloads, HavePayloads pending payloads ∧
    decoder.fullFrame.Represents (payloads.foldl Assembly.feed Assembly.empty)

/-- A well-formed packet feeds the assembly, and empties it when it has the marker. -/
theorem represents_decodeReceived {decoder : CH264DecodeRtp} {assembly : Assembly}
    (represents : decoder.fullFrame.Represents assembly) {rtp : RTPFrame} {args : DecodeArgs}
    (wellFormed : H264Frame.WellFormedPacket rtp) {received : H264Frame.Received}
    (receivedEq : (decoder.fullFrame.setFromRTPFrame rtp args.flags).value = received)
    {result : DecodeResult} (decoded : (decoder.decodeReceived rtp received args).value = result) :
    ∃ payload : Payload, payload.Of rtp ∧
      (received.returned = true → received.self.Represents (assembly.feed payload)) ∧
      (received.returned = false → assembly.feed payload = Assembly.empty) ∧
      result.self.fullFrame.Represents
        (if rtp.getMarker then Assembly.empty else assembly.feed payload) := by
  rcases wellFormed.payload with ⟨payload, formed, payloadEq⟩
  have small := wellFormed.small
  have sizeEq := RTPFrame.getPayloadSize_of_plain wellFormed.plain (by omega)
  have lengthEq : payload.bytes.length = rtp.getPayloadSize := by
    rw [← payloadEq, RTPFrame.payload, length_read]
  have carries : H264Frame.Carries rtp payload.bytes :=
    { size := lengthEq.symm
      held := by
        rw [lengthEq]
        exact payloadEq }
  have short : payload.Short := Payload.short_of_length (by omega)
  have refines := H264Frame.setFromRTPFrame_refines represents formed short carries args.flags
  rw [receivedEq] at refines
  obtain ⟨isKey, stepped, _, _⟩ := @decodeReceived_refines decoder
    { assembly := assembly, haveKey := decoder.haveGetKeyFrame } rfl
    { payload := payload, marker := rtp.getMarker } rtp rfl received args refines
  have frame := stepped.frame
  rw [Receiver.assembly_step, decoded] at frame
  dsimp only at refines frame
  refine ⟨payload, { wellFormed := formed, bytes := payloadEq }, ?_⟩
  rw [Assembly.feed]
  cases taken : assembly.receive payload with
  | none =>
      rw [taken] at refines frame
      refine ⟨fun returned => ?_, fun _ => rfl, ?_⟩
      · rw [refines.1] at returned
        cases returned
      · rw [Option.getD_none, ite_self]
        exact frame
  | some next =>
      rw [taken] at refines frame
      refine ⟨fun _ => refines.2.2, fun rejected => ?_, frame⟩
      rw [refines.1] at rejected
      cases rejected

theorem isolated_new (encodedFrame : Memory) (nals : Nat → NALU) (width height : Int) :
    (new encodedFrame nals width height).Isolated [] :=
  ⟨[], .nil, H264Frame.represents_beginNewFrame (H264Frame.new encodedFrame nals) id⟩

theorem Isolated.decode {decoder : CH264DecodeRtp} {calls : List DecodeCall}
    (isolated : decoder.Isolated (sinceMarker calls)) {call : DecodeCall}
    (wellFormed : H264Frame.WellFormedPacket call.rtp) :
    (call.decode decoder).self.Isolated (sinceMarker (calls ++ [call])) := by
  rcases isolated with ⟨payloads, held, represents⟩
  obtain ⟨payload, holds, _, _, after⟩ := represents_decodeReceived represents wellFormed rfl
    (decodeReceived_eq_decode decoder call)
  rw [sinceMarker_append]
  cases marked : call.rtp.getMarker with
  | true =>
      rw [marked] at after
      exact ⟨[], .nil, after⟩
  | false =>
      rw [marked] at after
      refine ⟨payloads ++ [payload], List.rel_append held (.cons holds .nil), ?_⟩
      rw [List.foldl_append]
      exact after

theorem isolated_decodeAll (encodedFrame : Memory) (nals : Nat → NALU) (width height : Int)
    {calls : List DecodeCall}
    (wellFormed : ∀ call, call ∈ calls → H264Frame.WellFormedPacket call.rtp) :
    ((new encodedFrame nals width height).decodeAll calls).2.Isolated (sinceMarker calls) := by
  induction calls using List.reverseRecOn with
  | nil =>
      rw [decodeAll_nil]
      exact isolated_new encodedFrame nals width height
  | append_singleton calls call ih =>
      rw [decodeAll_append]
      exact (ih fun other member => wellFormed other (List.mem_append_left _ member)).decode
        (wellFormed call (List.mem_append_right _ List.mem_cons_self))

/-! ### Every call of a run -/

/-- The result of a call behind these ones on a new decoder object. -/
structure GatedAndIsolated (start : CH264DecodeRtp) (calls : List DecodeCall)
    (call : DecodeCall) (result : DecodeResult) : Prop where
  /-- The call comes to an end without a write behind the array of offsets. -/
  inArray : Safe RtpAccess.InArray
    ((start.decodeAll calls).2.decodeFrames call.src call.srcLen call.args)
  /-- The marker leaves nothing behind. -/
  emptied : call.rtp.getMarker = true → result.self.fullFrame.Emptied
  isolated : result.Delivers →
    ∃ payloads, HavePayloads (sinceMarker calls ++ [call]) payloads ∧
      result.output = (payloads.foldl Assembly.feed Assembly.empty).stream
  /-- A frame is handed over if and only if it is completed and a key frame is there. -/
  gate : result.Delivers ↔
    ((start.decodeAll calls).2.completed call).isSome = true ∧
      start.keyReports (calls ++ [call]) ≠ []
  size : result.Delivers →
    ∃ last, (start.keyReports (calls ++ [call])).getLast? = some last ∧
      result.args.nWidth = last.width ∧ result.args.nHeight = last.height

private theorem gatedAndIsolated_iff_of_received {start : CH264DecodeRtp} {calls : List DecodeCall}
    {call : DecodeCall} {received : H264Frame.Received} {result : DecodeResult}
    (gate : (start.decodeAll calls).2.Gate (start.keyReports calls))
    (isolated : (start.decodeAll calls).2.Isolated (sinceMarker calls))
    (wellFormed : H264Frame.WellFormedPacket call.rtp)
    (receivedEq :
      ((start.decodeAll calls).2.fullFrame.setFromRTPFrame call.rtp call.args.flags).value =
        received)
    (decoded : ((start.decodeAll calls).2.decodeReceived call.rtp received call.args).value =
      result) :
    start.GatedAndIsolated calls call result ↔ FrameFits calls call := by
  have completedEq :
      completedBy received call.rtp = (start.decodeAll calls).2.completed call := by
    rw [completed, receivedEq]
  have decided := gate.decide decoded completedEq
  rw [← keyReport, ← keyReports_append] at decided
  rcases decided with ⟨_, opened, handed⟩
  rcases isolated with ⟨payloads, held, represents⟩
  obtain ⟨payload, holds, taken, rejected, after⟩ :=
    represents_decodeReceived represents wellFormed receivedEq decoded
  have heldHere : HavePayloads (sinceMarker calls ++ [call]) (payloads ++ [payload]) :=
    List.rel_append held (.cons holds .nil)
  have streamEq : received.returned = true → received.self.assembled =
      ((payloads ++ [payload]).foldl Assembly.feed Assembly.empty).stream := by
    intro returned
    rw [List.foldl_append]
    exact (taken returned).bytes
  have inArrayIff := @safe_inArray_decodeFrames_iff (start.decodeAll calls).2 call
  rw [receivedEq] at inArrayIff
  constructor
  · intro respects marked
    refine ⟨payloads ++ [payload], heldHere, ?_⟩
    cases returned : received.returned with
    | true =>
        rw [← streamEq returned]
        exact inArrayIff.mp respects.inArray returned marked
    | false =>
        rw [List.foldl_append, List.foldl_cons, List.foldl_nil, rejected returned]
        exact firstCycleFits_nil
  · intro fits
    refine
      { inArray := ?_
        emptied := ?_
        isolated := ?_
        gate := opened
        size := fun delivers => (handed delivers).2.2 }
    · rw [inArrayIff]
      intro returned marked
      obtain ⟨others, heldOthers, fitsOthers⟩ := fits marked
      rw [streamEq returned, heldHere.unique heldOthers]
      exact fitsOthers
    · intro marked
      rw [if_pos marked] at after
      exact after.emptied
    · intro delivers
      obtain ⟨returned, outputEq, _⟩ := handed delivers
      exact ⟨payloads ++ [payload], heldHere, by rw [outputEq, streamEq returned]⟩

private theorem gatedAndIsolated_iff (encodedFrame : Memory) (nals : Nat → NALU)
    (width height : Int) {calls : List DecodeCall} {call : DecodeCall}
    (wellFormed : ∀ other, other ∈ calls ++ [call] → H264Frame.WellFormedPacket other.rtp) :
    let start := new encodedFrame nals width height
    start.GatedAndIsolated calls call (call.decode (start.decodeAll calls).2) ↔
      FrameFits calls call := by
  have isolated := isolated_decodeAll encodedFrame nals width height
    fun other member => wellFormed other (List.mem_append_left _ member)
  have gate := gate_decodeAll encodedFrame nals width height calls
  exact gatedAndIsolated_iff_of_received gate isolated
    (wellFormed call (List.mem_append_right _ List.mem_cons_self)) rfl
    (decodeReceived_eq_decode _ call)

/-- Every call of a run on a new decoder object comes to an end, respects the gate and isolates
its frame, exactly when every frame completed asks for no more offsets than there is room for. -/
theorem decodeAll_gatedAndIsolated_iff (encodedFrame : Memory) (nals : Nat → NALU)
    (width height : Int) {calls : List DecodeCall}
    (wellFormed : ∀ call, call ∈ calls → H264Frame.WellFormedPacket call.rtp) :
    let start := new encodedFrame nals width height
    (∀ front call rest, calls = front ++ call :: rest →
      start.GatedAndIsolated front call (call.decode (start.decodeAll front).2)) ↔
        ∀ front call rest, calls = front ++ call :: rest → FrameFits front call := by
  intro start
  have each : ∀ front call rest, calls = front ++ call :: rest →
      (start.GatedAndIsolated front call (call.decode (start.decodeAll front).2) ↔
        FrameFits front call) := by
    intro front call rest split
    apply gatedAndIsolated_iff
    intro other member
    apply wellFormed
    rw [split, List.append_cons]
    exact List.mem_append_left rest member
  constructor
  · intro respects front call rest split
    exact (each front call rest split).mp (respects front call rest split)
  · intro fits front call rest split
    exact (each front call rest split).mpr (fits front call rest split)

theorem forall_splits_cons {first : DecodeCall} {calls : List DecodeCall}
    {holds : List DecodeCall → DecodeCall → Prop} (here : holds [] first)
    (later : ∀ front call rest, calls = front ++ call :: rest → holds (first :: front) call) :
    ∀ front call rest, first :: calls = front ++ call :: rest → holds front call := by
  intro front call rest split
  cases front with
  | nil =>
      rw [← (List.cons.inj split).1]
      exact here
  | cons other front =>
      obtain ⟨rfl, behind⟩ := List.cons.inj split
      exact later front call rest behind

theorem forall_splits_nil {holds : List DecodeCall → DecodeCall → Prop} :
    ∀ front call rest, [] = front ++ call :: rest → holds front call := by
  intro front call rest split
  exact absurd (congrArg List.length split) (by simp)

/-- A slice that is withheld, and behind it a parameter set with a slice in two fragments. -/
theorem decodeAll_gatedAndIsolated_iff_parameterSet :
    let args : DecodeArgs :=
      { dst := fun _ => 0, dstLen := 0, flags := CoderFlags.none, nWidth := 0, nHeight := 0 }
    let header : Bool → List UInt8 := fun marker => (RFC3550.Header.plain marker).bytes
    let slice : DecodeCall :=
      { src := ofBytes (header true ++ [0x41, 0x9a]), srcLen := 14, args := args }
    let parameterSet : DecodeCall :=
      { src := ofBytes (header false ++ [0x67, 0x42]), srcLen := 14, args := args }
    let opening : DecodeCall :=
      { src := ofBytes (header false ++ [0x7c, 0x85, 0x88]), srcLen := 15, args := args }
    let closing : DecodeCall :=
      { src := ofBytes (header true ++ [0x7c, 0x45, 0x84]), srcLen := 15, args := args }
    let start := new (fun _ => 0) default 0 0
    start.GatedAndIsolated [slice, parameterSet, opening] closing
      (closing.decode (start.decodeAll [slice, parameterSet, opening]).2) := by
  intro args header slice parameterSet opening closing start
  have isSlice : Payload.Of (.single 0x41 [0x9a]) slice.rtp :=
    { wellFormed := (by decide : Payload.SingleType (0x41 &&& 0x1f)), bytes := by decide }
  have isSet : Payload.Of (.single 0x67 [0x42]) parameterSet.rtp :=
    { wellFormed := (by decide : Payload.SingleType (0x67 &&& 0x1f)), bytes := by decide }
  have opens : Payload.Of (.fragment 0x7c 0x85 [0x88]) opening.rtp :=
    { wellFormed := (by decide : (0x7c : UInt8) &&& 0x1f = 28), bytes := by decide }
  have closes : Payload.Of (.fragment 0x7c 0x45 [0x84]) closing.rtp :=
    { wellFormed := (by decide : (0x7c : UInt8) &&& 0x1f = 28), bytes := by decide }
  have wellFormed : ∀ call, call ∈ [slice, parameterSet, opening, closing] →
      H264Frame.WellFormedPacket call.rtp := by
    intro call member
    simp only [List.mem_cons, List.not_mem_nil, or_false] at member
    rcases member with rfl | rfl | rfl | rfl
    · exact { plain := ⟨by decide, by decide⟩, small := by decide
              payload := ⟨_, isSlice.wellFormed, isSlice.bytes⟩ }
    · exact { plain := ⟨by decide, by decide⟩, small := by decide
              payload := ⟨_, isSet.wellFormed, isSet.bytes⟩ }
    · exact { plain := ⟨by decide, by decide⟩, small := by decide
              payload := ⟨_, opens.wellFormed, opens.bytes⟩ }
    · exact { plain := ⟨by decide, by decide⟩, small := by decide
              payload := ⟨_, closes.wellFormed, closes.bytes⟩ }
  have unmarked : ∀ {front call}, call.rtp.getMarker = false → FrameFits front call := by
    intro front call isUnmarked marked
    rw [isUnmarked] at marked
    cases marked
  refine (decodeAll_gatedAndIsolated_iff (fun _ => 0) default 0 0 wellFormed).mpr ?_
    [slice, parameterSet, opening] closing [] rfl
  refine forall_splits_cons ?_ (forall_splits_cons (unmarked (by decide))
    (forall_splits_cons (unmarked (by decide)) (forall_splits_cons ?_ forall_splits_nil)))
  · exact fun _ => ⟨_, .cons isSlice .nil, by decide⟩
  · have behindMarker : sinceMarker [slice] = [] :=
      (sinceMarker_append [] slice).trans (if_pos (by decide))
    have behindSet : sinceMarker [slice, parameterSet] = [parameterSet] := by
      have appended := sinceMarker_append [slice] parameterSet
      rw [if_neg (by decide), behindMarker] at appended
      exact appended
    have pending : sinceMarker [slice, parameterSet, opening] = [parameterSet, opening] := by
      have appended := sinceMarker_append [slice, parameterSet] opening
      rw [if_neg (by decide), behindSet] at appended
      exact appended
    intro _
    rw [pending]
    exact ⟨_, .cons isSet (.cons opens (.cons closes .nil)), by decide⟩

/-- A packet with a parameter set that asks for 511 offsets. -/
theorem not_gatedAndIsolated_hostile :
    let args : DecodeArgs :=
      { dst := fun _ => 0, dstLen := 0, flags := CoderFlags.none, nWidth := 0, nHeight := 0 }
    let parameterSet : DecodeCall :=
      { src := ofBytes
          ((RFC3550.Header.plain true).bytes ++ [0x67, 0x42, 0, 0x1e, 0xd7, 0, 0x40, 0x10])
        srcLen := 20
        args := args }
    let start := new (fun _ => 0) default 0 0
    H264Frame.WellFormedPacket parameterSet.rtp ∧
      ¬ start.GatedAndIsolated [] parameterSet (parameterSet.decode (start.decodeAll []).2) := by
  intro args parameterSet start
  have isSet : Payload.Of (.single 0x67 [0x42, 0, 0x1e, 0xd7, 0, 0x40, 0x10]) parameterSet.rtp :=
    { wellFormed := (by decide : Payload.SingleType (0x67 &&& 0x1f)), bytes := by decide }
  have formed : H264Frame.WellFormedPacket parameterSet.rtp :=
    { plain := ⟨by decide, by decide⟩
      small := by decide
      payload := ⟨_, isSet.wellFormed, isSet.bytes⟩ }
  refine ⟨formed, fun respects => ?_⟩
  have fits := (gatedAndIsolated_iff (fun _ => 0) default 0 0 (by
    intro call member
    rw [List.mem_singleton.mp member]
    exact formed)).mp respects
  obtain ⟨payloads, held, fits⟩ := fits (by decide)
  have alone : payloads = [.single 0x67 [0x42, 0, 0x1e, 0xd7, 0, 0x40, 0x10]] :=
    HavePayloads.unique held (.cons isSet .nil)
  rw [alone] at fits
  exact absurd fits (by decide)

end CH264DecodeRtp

end DShowCapture
