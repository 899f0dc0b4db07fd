/-
What is handed over of an access unit some packets of which were refused.

Every payload contributes bytes to the stream of the access unit.  The receiver hands over
all contributions as long as no packet is refused before the last one of its access unit,
fragments come in sequence, and everything fits into the buffer.
-/
import DShowCapture.Decoding

namespace DShowCapture

open ByteMemory FixedWidth Logged AnnexB

namespace Payload

/-- The bytes that a payload contributes to the stream of its access unit. -/
def contribution : Payload → List UInt8
  | .single first rest => byteStream [first :: rest]
  | .stap _ nals => byteStream nals
  | .fragment indicator header body =>
      if startBit header then byteStream [openedFirst indicator header :: body] else body
  | .empty | .unsupported _ _ => []

def Refused (openFragments : Nat) : Payload → Prop
  | .fragment _ header _ =>
      if startBit header then endBit header = true else openFragments = 0
  | .unsupported _ _ => True
  | .empty | .single _ _ | .stap _ _ => False

def Interrupts (openFragments : Nat) : Payload → Prop
  | .fragment _ header _ => startBit header = true ∧ openFragments ≠ 0
  | _ => False

instance (openFragments : Nat) : (payload : Payload) → Decidable (payload.Refused openFragments)
  | .fragment _ header _ =>
      inferInstanceAs
        (Decidable (if startBit header then endBit header = true else openFragments = 0))
  | .unsupported _ _ => .isTrue trivial
  | .empty | .single _ _ | .stap _ _ => .isFalse id

instance (openFragments : Nat) : (payload : Payload) → Decidable (payload.Interrupts openFragments)
  | .fragment _ _ _ => inferInstanceAs (Decidable (_ = true ∧ _ ≠ _))
  | .empty | .single _ _ | .stap _ _ | .unsupported _ _ => .isFalse id

end Payload

/-- A receiver in this state does justice to the packet: it refuses it at most at the end of
an access unit, and takes in all of its contribution. -/
def Complete (openFragments size : Nat) (packet : Packet) : Prop :=
  packet.payload.Refused openFragments ∧ packet.marker = true ∨
    ¬ packet.payload.Refused openFragments ∧ ¬ packet.payload.Interrupts openFragments ∧
      size + packet.payload.contribution.length ≤ maxFrameSize

instance (openFragments size : Nat) (packet : Packet) :
    Decidable (Complete openFragments size packet) :=
  inferInstanceAs (Decidable (_ ∧ _ ∨ _ ∧ _ ∧ _))

namespace Assembly

theorem receive_of_refused {assembly : Assembly} {payload : Payload}
    (refused : payload.Refused assembly.openFragments) : assembly.receive payload = none := by
  cases payload with
  | empty => exact refused.elim
  | single first rest => exact refused.elim
  | stap header nals => exact refused.elim
  | unsupported first rest => rfl
  | fragment indicator header body =>
      rw [Payload.Refused] at refused
      rw [receive]
      cases started : Payload.startBit header with
      | true =>
          rw [started, if_pos rfl] at refused
          rw [refused]
      | false =>
          rw [started, if_neg (by decide)] at refused
          cases Payload.endBit header <;> simp [refused]

theorem stream_addNAL {assembly : Assembly} {nal : List UInt8}
    (room : assembly.size + (byteStream [nal]).length ≤ maxFrameSize) :
    (assembly.addNAL nal).stream = assembly.stream ++ byteStream [nal] := by
  rw [byteStream_singleton, List.length_append] at room
  have fits : assembly.size + nal.length + 4 ≤ maxFrameSize := by
    have four : [0, 0, 0, (1 : UInt8)].length = 4 := rfl
    omega
  rw [addNAL, if_pos fits, stream, stream, byteStream_append]

theorem stream_foldl_addNAL {assembly : Assembly} {nals : List (List UInt8)}
    (room : assembly.size + (byteStream nals).length ≤ maxFrameSize) :
    (nals.foldl addNAL assembly).stream = assembly.stream ++ byteStream nals := by
  induction nals generalizing assembly with
  | nil => simp
  | cons nal rest ih =>
      have split : byteStream (nal :: rest) = byteStream [nal] ++ byteStream rest :=
        byteStream_append [nal] rest
      rw [split, List.length_append] at room
      have here : (assembly.addNAL nal).stream = assembly.stream ++ byteStream [nal] :=
        stream_addNAL (by omega)
      have sizeEq : (assembly.addNAL nal).size =
          assembly.size + (byteStream [nal]).length := by
        rw [size, here, List.length_append]
        rfl
      rw [List.foldl_cons, ih (by omega), here, split, List.append_assoc]

theorem stream_extend {assembly : Assembly} (someNAL : assembly.nals ≠ []) (counter : Nat)
    {body : List UInt8} (room : assembly.size + body.length ≤ maxFrameSize) :
    (extend { assembly with openFragments := counter } body).stream =
      assembly.stream ++ body := by
  have fits : size { assembly with openFragments := counter } + body.length ≤ maxFrameSize :=
    room
  rw [extend, if_pos fits]
  exact byteStream_extendLast someNAL body

/-- A payload that is not refused, does not interrupt and fits is taken in completely. -/
theorem receive_contribution {assembly : Assembly} (valid : assembly.Valid) {payload : Payload}
    (accepted : ¬ payload.Refused assembly.openFragments)
    (inSequence : ¬ payload.Interrupts assembly.openFragments)
    (room : assembly.size + payload.contribution.length ≤ maxFrameSize) :
    ∃ next, assembly.receive payload = some next ∧
      next.stream = assembly.stream ++ payload.contribution := by
  cases payload with
  | empty => exact ⟨assembly, rfl, (List.append_nil _).symm⟩
  | single first rest => exact ⟨_, rfl, stream_addNAL room⟩
  | stap header nals => exact ⟨_, rfl, stream_foldl_addNAL room⟩
  | unsupported first rest => exact absurd trivial accepted
  | fragment indicator header body =>
      rw [Payload.Refused] at accepted
      rw [Payload.Interrupts] at inSequence
      rw [Payload.contribution] at room ⊢
      rw [receive]
      cases started : Payload.startBit header with
      | true =>
          simp only [started, if_true, true_and, not_not, Bool.not_eq_true]
            at accepted inSequence room ⊢
          simp only [accepted, inSequence, ne_eq, not_true_eq_false, if_false, Option.some.injEq,
            exists_eq_left']
          exact stream_addNAL room
      | false =>
          simp only [started, Bool.false_eq_true, if_false] at accepted room ⊢
          have someNAL := valid.opened accepted
          cases Payload.endBit header <;>
            simp only [accepted, ne_eq, not_false_eq_true, if_true, Option.some.injEq,
              exists_eq_left']
          · exact stream_extend someNAL _ room
          · exact stream_extend someNAL _ room

end Assembly

/-! ### Runs -/

def DecodeCall.received (self : DecodeCall) (decoder : CH264DecodeRtp) : H264Frame.Received :=
  (decoder.fullFrame.setFromRTPFrame self.rtp self.args.flags).value

def H264Frame.Received.accepted (received : H264Frame.Received) : Bool := received.returned

def DecodeCall.accepted (self : DecodeCall) (decoder : CH264DecodeRtp) : Bool :=
  (self.received decoder).accepted

structure Part where
  payload : Payload
  accepted : Bool

def Assembly.CompleteRun : Assembly → List Packet → Prop
  | self, packet :: packets =>
      Complete self.openFragments self.size packet ∧ (self.after packet).CompleteRun packets
  | _, [] => True

instance decidableCompleteRun :
    (assembly : Assembly) → (packets : List Packet) → Decidable (assembly.CompleteRun packets)
  | self, packet :: packets =>
      have := decidableCompleteRun (self.after packet) packets
      inferInstanceAs (Decidable (_ ∧ _))
  | _, [] => .isTrue trivial

structure TakenIn (parts : List Part) (bytes : List UInt8) : Prop where
  accepted : ∀ part, part ∈ parts → part.accepted = true
  bytes : bytes = parts.flatMap fun part => part.payload.contribution

namespace CH264DecodeRtp

/-- Each call that hands something over hands over all that was received since the previous
packet with the marker; `parts` was received before the first of the calls. -/
def AllOrNothing : CH264DecodeRtp → List Part → List Packet → List DecodeCall → Prop
  | self, parts, packet :: packets, call :: calls =>
      let result := call.decode self
      let unit := parts ++ [{ payload := packet.payload, accepted := call.accepted self }]
      (result.returned = true → result.args.flags.lastFrame = true →
          TakenIn unit result.output) ∧
        result.self.AllOrNothing (if packet.marker then [] else unit) packets calls
  | _, _, _, _ => True

def CompleteRun : CH264DecodeRtp → List Packet → List DecodeCall → Prop
  | self, packet :: packets, call :: calls =>
      Complete self.fullFrame.currentFU self.fullFrame.encodedFrameLen packet ∧
        (call.decode self).self.CompleteRun packets calls
  | _, _, _ => True

/-- A run of the decoder object does justice to its packets when that of the assembly does. -/
theorem completeRun_iff {decoder : CH264DecodeRtp} {receiver : Receiver}
    (represents : decoder.Represents receiver) {calls : List DecodeCall}
    {packets : List Packet} (receives : List.Forall₂ Receives calls packets) :
    decoder.CompleteRun packets calls ↔ receiver.assembly.CompleteRun packets := by
  induction receives generalizing decoder receiver with
  | nil => exact Iff.rfl
  | cons here later ih =>
      obtain ⟨key, stepped, _, _⟩ := decodeFrames_refines represents here
      have behind := ih stepped
      rw [Receiver.assembly_step] at behind
      rw [CompleteRun, represents.frame.counter, represents.frame.length]
      exact and_congr_right fun _ => behind

theorem accepted_of_refines {assembly : Assembly} {payload : Payload} {flags : CoderFlags}
    {received : H264Frame.Received}
    (refines : match assembly.receive payload with
      | some next =>
          received.returned = true ∧ received.flags = flags ∧ received.self.Represents next
      | none =>
          received.returned = false ∧ received.flags = { flags with requestIFrame := true } ∧
            received.self.Represents Assembly.empty) :
    received.accepted = (assembly.receive payload).isSome := by
  cases assembled : assembly.receive payload with
  | none =>
      rw [assembled] at refines
      exact refines.1
  | some next =>
      rw [assembled] at refines
      exact refines.1

theorem accepted_eq {decoder : CH264DecodeRtp} {receiver : Receiver}
    (represents : decoder.Represents receiver) {call : DecodeCall} {packet : Packet}
    (receives : Receives call packet) :
    call.accepted decoder = (receiver.assembly.receive packet.payload).isSome := by
  have refines := H264Frame.setFromRTPFrame_refines represents.frame receives.wellFormed
    receives.short receives.carries.1 call.args.flags
  have receivedEq : (decoder.fullFrame.setFromRTPFrame call.rtp call.args.flags).value =
      call.received decoder := rfl
  rw [receivedEq] at refines
  exact accepted_of_refines refines

theorem output_of_handed {receiver : Receiver} {packet : Packet} {key : Bool} {next : Assembly}
    (received : receiver.assembly.receive packet.payload = some next) {args : DecodeArgs}
    {result : DecodeResult} (silent : args.flags.lastFrame = false)
    (shows : (receiver.step packet key).2.Shows args result) (returned : result.returned = true)
    (flagged : result.args.flags.lastFrame = true) : result.output = next.stream := by
  cases outcomeEq : (receiver.step packet key).2 with
  | delivered nals =>
      obtain ⟨_, other, otherEq, nalsEq⟩ := Receiver.delivered_step outcomeEq
      rw [received] at otherEq
      obtain rfl := Option.some.inj otherEq
      rw [outcomeEq] at shows
      rw [shows.2.2.2, ← nalsEq]
      rfl
  | withheld =>
      rw [outcomeEq] at shows
      rw [shows.2.1, silent] at flagged
      cases flagged
  | rejected =>
      rw [outcomeEq] at shows
      exact absurd (shows.1.symm.trans returned) (by decide)
  | waiting =>
      rw [outcomeEq] at shows
      exact absurd (shows.1.symm.trans returned) (by decide)
  | nothing =>
      rw [outcomeEq] at shows
      exact absurd (shows.1.symm.trans returned) (by decide)

theorem allOrNothing_step {receiver : Receiver} (valid : receiver.assembly.Valid)
    {packet : Packet} {key accepted : Bool} {args : DecodeArgs} {result : DecodeResult}
    (shows : (receiver.step packet key).2.Shows args result)
    (acceptedEq : accepted = (receiver.assembly.receive packet.payload).isSome)
    (silent : args.flags.lastFrame = false) {parts : List Part}
    (taken : TakenIn parts receiver.assembly.stream)
    (complete : Complete receiver.assembly.openFragments receiver.assembly.size packet) :
    let unit := parts ++ [{ payload := packet.payload, accepted := accepted }]
    (result.returned = true → result.args.flags.lastFrame = true →
        TakenIn unit result.output) ∧
      TakenIn (if packet.marker then [] else unit)
        (receiver.step packet key).1.assembly.stream := by
  intro unit
  have assemblyEq := receiver.assembly_step packet key
  have nothing : TakenIn [] Assembly.empty.stream :=
    { accepted := fun _ member => absurd member List.not_mem_nil, bytes := rfl }
  rcases complete with ⟨refused, marked⟩ | ⟨isTaken, inSequence, room⟩
  · have received := Assembly.receive_of_refused refused
    constructor
    · intro returned
      rw [Receiver.step_rejected key received] at shows
      exact absurd (shows.1.symm.trans returned) (by decide)
    · rw [assemblyEq, received, if_pos marked]
      exact nothing
  · obtain ⟨next, received, streamEq⟩ :=
      Assembly.receive_contribution valid isTaken inSequence room
    rw [received, Option.isSome_some] at acceptedEq
    have grown : TakenIn unit next.stream := by
      refine { accepted := ?_, bytes := ?_ }
      · intro part member
        rcases List.mem_append.mp member with earlier | isNew
        · exact taken.accepted part earlier
        · rw [List.mem_singleton.mp isNew]
          exact acceptedEq
      · rw [List.flatMap_append, ← taken.bytes, streamEq, List.flatMap_singleton]
    constructor
    · intro returned flagged
      rw [output_of_handed received silent shows returned flagged]
      exact grown
    · rw [assemblyEq, received]
      cases packet.marker with
      | true => exact nothing
      | false => exact grown

theorem allOrNothing_of_represents {decoder : CH264DecodeRtp} {receiver : Receiver}
    (represents : decoder.Represents receiver) {calls : List DecodeCall}
    {packets : List Packet} (receives : List.Forall₂ Receives calls packets)
    (silent : ∀ call, call ∈ calls → call.args.flags.lastFrame = false) {parts : List Part}
    (taken : TakenIn parts receiver.assembly.stream)
    (complete : decoder.CompleteRun packets calls) :
    decoder.AllOrNothing parts packets calls := by
  induction receives generalizing decoder receiver parts with
  | nil => trivial
  | @cons call packet calls packets here later ih =>
      rw [CompleteRun] at complete
      rcases complete with ⟨completeHere, completeLater⟩
      rw [represents.frame.counter, represents.frame.length] at completeHere
      obtain ⟨key, stepped, shows, _⟩ := decodeFrames_refines represents here
      have step := allOrNothing_step represents.frame.valid shows
        (accepted_eq represents here) (silent call List.mem_cons_self) taken completeHere
      rw [AllOrNothing]
      exact ⟨step.1, ih stepped (fun other member =>
        silent other (List.mem_cons_of_mem call member)) step.2 completeLater⟩

/-- Delivery is all or nothing in every run of a fresh decoder object in which every packet
is done justice in the state in which it arrives. -/
theorem decodeFrames_allOrNothing (encodedFrame : Memory) (nals : Nat → NALU)
    (width height : Int) {calls : List DecodeCall} {packets : List Packet}
    (receives : List.Forall₂ Receives calls packets)
    (silent : ∀ call, call ∈ calls → call.args.flags.lastFrame = false)
    (complete : (new encodedFrame nals width height).CompleteRun packets calls) :
    (new encodedFrame nals width height).AllOrNothing [] packets calls :=
  allOrNothing_of_represents (represents_new encodedFrame nals width height) receives silent
    { accepted := fun _ member => absurd member List.not_mem_nil, bytes := rfl } complete

def callOf (args : DecodeArgs) (packet : Packet) : DecodeCall :=
  .ofDatagram args
    { header := RFC3550.Header.plain packet.marker, payload := packet.payload.bytes }

theorem receives_callOf (args : DecodeArgs) {packet : Packet}
    (wellFormed : packet.payload.WellFormed) (small : packet.payload.bytes.length < 65536) :
    Receives (callOf args packet) packet :=
  { passed :=
      ⟨_, DecodeCall.passes_ofDatagram args _,
        Datagram.short_of_payload (Nat.le_of_lt (Nat.lt_of_lt_of_le small (by decide))), rfl, rfl⟩
    wellFormed := wellFormed
    short := Payload.short_of_length small }

def parameterSet : Packet := { payload := .single 0x67 [0x42], marker := true }

theorem receives_parameterSet (args : DecodeArgs) :
    Receives (callOf args parameterSet) parameterSet :=
  receives_callOf args (by decide) (by decide)

def unsupportedPacket : Packet := { payload := .unsupported 0x1d [1], marker := false }

theorem receives_unsupportedPacket (args : DecodeArgs) :
    Receives (callOf args unsupportedPacket) unsupportedPacket :=
  receives_callOf args (by decide) (by decide)

def mixedPackets : List Packet :=
  [{ payload := .single 0x67 [0x42], marker := false },
    { payload := .fragment 0x7c 0x85 [0x88, 0x84], marker := false },
    { payload := .fragment 0x7c 0x45 [0x21], marker := true },
    { payload := .unsupported 0x1d [1], marker := true },
    parameterSet]

theorem decodeFrames_allOrNothing_mixed :
    let args : DecodeArgs :=
      { dst := fun _ => 0, dstLen := 0, flags := CoderFlags.none, nWidth := 0, nHeight := 0 }
    let calls := mixedPackets.map (callOf args)
    (new (fun _ => 0) default 0 0).AllOrNothing [] mixedPackets calls ∧
      ((new (fun _ => 0) default 0 0).decodeAll calls).1.map DecodeResult.returned =
        [false, false, true, false, true] := by
  intro args calls
  have wellFormed : ∀ packet, packet ∈ mixedPackets →
      packet.payload.WellFormed ∧ packet.payload.bytes.length < 65536 := by decide
  have receives : List.Forall₂ Receives calls mixedPackets := by
    rw [List.forall₂_map_left_iff, List.forall₂_same]
    intro packet member
    exact receives_callOf args (wellFormed packet member).1 (wellFormed packet member).2
  constructor
  · apply decodeFrames_allOrNothing (fun _ => 0) default 0 0 receives
    · intro call member
      obtain ⟨packet, _, rfl⟩ := List.mem_map.mp member
      rfl
    · exact (completeRun_iff (represents_new _ _ _ _) receives).mpr (by decide)
  · decide +kernel

/-- A refused packet is forgotten: what comes behind it is handed over as an access unit. -/
theorem not_allOrNothing_of_refused {decoder : CH264DecodeRtp} {receiver : Receiver}
    (represents : decoder.Represents receiver) {firstCall secondCall : DecodeCall}
    {first second : Packet} (receivesFirst : Receives firstCall first)
    (receivesSecond : Receives secondCall second)
    (refused : receiver.assembly.receive first.payload = none) (unmarked : first.marker = false)
    {next : Assembly} (received : Assembly.empty.receive second.payload = some next)
    (marked : second.marker = true)
    (begins : ∃ nal others, next.nals = nal :: others ∧ nal.headD 0 &&& 0x1f = 7)
    {parts : List Part} :
    ¬ decoder.AllOrNothing parts [first, second] [firstCall, secondCall] := by
  rcases begins with ⟨nal, others, nalsEq, sps⟩
  have acceptedEq := accepted_eq represents receivesFirst
  obtain ⟨firstKey, stepped, _, _⟩ := decodeFrames_refines represents receivesFirst
  rw [Receiver.step_rejected firstKey refused] at stepped
  obtain ⟨key, _, shows, rule⟩ := decodeFrames_refines stepped receivesSecond
  have opened := rule next nal others received nalsEq sps
  have someNAL : next.nals ≠ [] := by
    rw [nalsEq]
    exact List.cons_ne_nil nal others
  rcases second with ⟨payload, marker⟩
  obtain rfl : marker = true := marked
  rw [Receiver.step_delivered received someNAL (Or.inr opened)] at shows
  rw [AllOrNothing, AllOrNothing, unmarked]
  generalize firstCall.accepted decoder = accepted at acceptedEq ⊢
  rintro ⟨_, handed, _⟩
  have whole : accepted = true := (handed shows.1 shows.2.1).accepted
    { payload := first.payload, accepted := accepted } (by simp)
  rw [acceptedEq, refused] at whole
  cases whole

/-- An unsupported packet and a parameter set in one access unit: the parameter set is handed
over alone. -/
theorem decodeFrames_partial :
    let args : DecodeArgs :=
      { dst := fun _ => 0, dstLen := 0, flags := CoderFlags.none, nWidth := 0, nHeight := 0 }
    ¬ (new (fun _ => 0) default 0 0).AllOrNothing [] [unsupportedPacket, parameterSet]
      [callOf args unsupportedPacket, callOf args parameterSet] := by
  intro args
  have received : Assembly.empty.receive parameterSet.payload =
      some { nals := [[0x67, 0x42]], openFragments := 0 } := by decide
  have refused : Receiver.new.assembly.receive unsupportedPacket.payload = none := rfl
  have fresh := represents_new (fun _ => 0) default 0 0
  have first := receives_unsupportedPacket args
  have second := receives_parameterSet args
  generalize callOf args unsupportedPacket = firstCall at first ⊢
  generalize callOf args parameterSet = secondCall at second ⊢
  exact not_allOrNothing_of_refused fresh first second refused rfl received rfl
    ⟨[0x67, 0x42], [], rfl, by decide⟩

end CH264DecodeRtp

end DShowCapture
