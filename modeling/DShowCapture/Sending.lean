/-
What the sender puts on the network for a sequence of access units.

The encoder object turns each access unit into results, and the results travel as
datagrams.  Seen from the receiver, this is a sequence of packets.
-/
import DShowCapture.AccessUnit
import DShowCapture.Decoding
import DShowCapture.Encoding

namespace DShowCapture

open ByteMemory FixedWidth Logged AnnexB RFC6184

structure Source where
  src : Memory
  srcLen : Nat

structure Source.Stages (source : Source) (nals : List (List UInt8)) : Prop where
  small : source.srcLen < 4294967295
  found : stagedUnits source.src source.srcLen = nals
  sendable : Sendable nals

def Source.ofBytes (bytes : List UInt8) : Source :=
  { src := ByteMemory.ofBytes bytes, srcLen := bytes.length }

def packetsOf (nals : List (List UInt8)) : List Packet := markLast true (payloadsOf nals)

theorem length_markLast (marker : Bool) (payloads : List Payload) :
    (markLast marker payloads).length = payloads.length := by
  fun_induction markLast marker payloads with
  | case1 => rfl
  | case2 => rfl
  | case3 payload next rest ih => simp only [List.length_cons, ih]

theorem payload_of_mem_markLast {marker : Bool} {payloads : List Payload} {packet : Packet}
    (member : packet ∈ markLast marker payloads) : packet.payload ∈ payloads := by
  fun_induction markLast marker payloads with
  | case1 => exact absurd member List.not_mem_nil
  | case2 payload =>
      rw [List.mem_singleton.mp member]
      exact List.mem_cons_self
  | case3 payload next rest ih =>
      rcases List.mem_cons.mp member with rfl | later
      · exact List.mem_cons_self
      · exact List.mem_cons_of_mem payload (ih later)

namespace CH264EncodeRtp

structure Carries (result : EncodeResult) (packet : Packet) : Prop where
  payload : result.payload = packet.payload.bytes
  marker : result.flags.lastFrame = packet.marker

theorem carries_markLast {payloads : List Payload} {results : List EncodeResult}
    (encoding : IsEncoding results (payloads.map Payload.bytes)) :
    List.Forall₂ Carries results (markLast true payloads) := by
  induction payloads generalizing results with
  | nil =>
      cases results with
      | nil => exact .nil
      | cons result results => exact encoding.elim
  | cons payload payloads ih =>
      cases results with
      | nil => exact encoding.elim
      | cons result results =>
          rcases encoding with ⟨carried, flagged, later⟩
          have rest := ih later
          cases payloads with
          | nil => exact .cons { payload := carried, marker := flagged } rest
          | cons next payloads => exact .cons { payload := carried, marker := flagged } rest

/-- Nothing is pending, and payloads are limited as the sender limits them. -/
structure Drained (encoder : CH264EncodeRtp) : Prop where
  drained : encoder.encapsulation.hasRTPFrames = false
  limit : encoder.encapsulation.maxPayloadSize = payloadLimit

theorem drained_new (encodedFrame : Memory) (nals : Nat → NALU) :
    (setMaxRTPFrameSize { encapsulation := H264Frame.new encodedFrame nals }
      payloadLimit).Drained :=
  { drained := rfl, limit := rfl }

theorem guardsStart_of_type {nal : List UInt8}
    (type : Payload.SingleType (nal.headD 0 &&& 0x1f)) : GuardsStart nal := by
  cases nal with
  | nil => exact absurd type (by decide)
  | cons first rest =>
      apply guardsStart_of_head
      rintro rfl
      exact absurd type (by decide : ¬ Payload.SingleType (0 &&& 0x1f))

/-- A drained encoder hands out the packets of the access unit and is drained again. -/
theorem encodeUntilLast_of_stages {self : CH264EncodeRtp} (ready : self.Drained)
    {source : Source} {nals : List (List UInt8)} (stages : source.Stages nals) :
    ∃ results final, (∀ calls, (payloadsOf nals).length ≤ calls →
        encodeUntilLast source.src source.srcLen calls self = some (results, final)) ∧
      List.Forall₂ Carries results (packetsOf nals) ∧ final.Drained := by
  have found := stages.found
  have sendable := stages.sendable
  have small := stages.small
  have sizes := length_stagedUnits_le source.src source.srcLen
  unfold maxNalSize at sizes
  obtain ⟨staged, unsent, limitEq⟩ := staged_stageFrame ready.drained
    (by omega : source.srcLen < 4294967296) (by
      intro unit rest shape
      rw [found] at shape
      apply guardsStart_of_type
      apply sendable.types
      rw [shape]
      exact List.mem_cons_self)
  rw [ready.limit] at limitEq
  have packetizing := H264Frame.packetizing_of_staged staged unsent
    (by rw [limitEq]; decide) (by rw [limitEq]; decide) (by omega) (by omega)
  have pendingEq := H264Frame.pending_of_staged staged unsent
  rw [limitEq, found, ← sendable.bytes_payloads] at pendingEq
  obtain ⟨results, final, run, encoding, drained, limitLater⟩ :=
    encodeUntilLast_encodes packetizing
      (by
        rw [ne_eq, List.map_eq_nil_iff]
        exact sendable.payloads_ne_nil) pendingEq
      (by
        intro bytes member
        obtain ⟨payload, payloadMember, rfl⟩ := List.mem_map.mp member
        have bounded := (sendable.payload_of_mem payloadMember).2.2
        unfold payloadLimit at bounded
        omega)
  rw [List.length_map] at run
  exact ⟨results, final, run, carries_markLast encoding,
    { drained := drained, limit := limitLater.trans limitEq }⟩

def encodeAll (calls : Nat) : CH264EncodeRtp → List Source → Option (List (List EncodeResult))
  | _, [] => some []
  | self, source :: rest =>
      (encodeUntilLast source.src source.srcLen calls self).bind fun first =>
        (encodeAll calls first.2 rest).map fun later => first.1 :: later

theorem encodeAll_of_stages {self : CH264EncodeRtp} (ready : self.Drained)
    {sources : List Source} {units : List (List (List UInt8))}
    (stages : List.Forall₂ Source.Stages sources units) :
    ∃ groups enough, (∀ calls, enough ≤ calls → encodeAll calls self sources = some groups) ∧
      List.Forall₂ (List.Forall₂ Carries) groups (units.map packetsOf) := by
  induction stages generalizing self with
  | nil => exact ⟨[], 0, fun _ _ => rfl, .nil⟩
  | @cons source nals sources units here later ih =>
      obtain ⟨results, final, run, carries, ready⟩ := encodeUntilLast_of_stages ready here
      obtain ⟨groups, enough, runs, carriesLater⟩ := ih ready
      refine ⟨results :: groups, max (payloadsOf nals).length enough, ?_,
        .cons carries carriesLater⟩
      intro calls isEnough
      have first := run calls (by omega)
      have rest := runs calls (by omega)
      simp [encodeAll, first, rest]

end CH264EncodeRtp

/-! ### The network -/

/-- The call receives what the result carries, behind a header of twelve bytes the marker
of which is the flag of the result. -/
def Forwards (result : CH264EncodeRtp.EncodeResult) (call : DecodeCall) : Prop :=
  ∃ header : RFC3550.Header, header.csrc = [] ∧ header.marker = result.flags.lastFrame ∧
    call.Passes { header := header, payload := result.payload }

def forward (args : DecodeArgs) (result : CH264EncodeRtp.EncodeResult) : DecodeCall :=
  .ofDatagram args
    { header := RFC3550.Header.plain result.flags.lastFrame, payload := result.payload }

theorem forwards_forward (args : DecodeArgs) (result : CH264EncodeRtp.EncodeResult) :
    Forwards result (forward args result) :=
  ⟨_, rfl, rfl, DecodeCall.passes_ofDatagram args _⟩

def Packet.Sent (packet : Packet) : Prop :=
  ∃ nals, Sendable nals ∧ packet.payload ∈ payloadsOf nals

theorem Packet.sent_of_mem {units : List (List (List UInt8))}
    (sendable : ∀ nals, nals ∈ units → Sendable nals) {packet : Packet}
    (member : packet ∈ units.flatMap packetsOf) : packet.Sent := by
  obtain ⟨nals, nalsMember, packetMember⟩ := List.mem_flatMap.mp member
  exact ⟨nals, sendable nals nalsMember, payload_of_mem_markLast packetMember⟩

theorem Forwards.receives {result : CH264EncodeRtp.EncodeResult} {call : DecodeCall}
    (forwards : Forwards result call) {packet : Packet}
    (carries : CH264EncodeRtp.Carries result packet) (sent : packet.Sent) :
    CH264DecodeRtp.Receives call packet := by
  rcases forwards with ⟨header, _, markerEq, passes⟩
  rcases sent with ⟨nals, sendable, member⟩
  obtain ⟨wellFormed, short, bounded⟩ := sendable.payload_of_mem member
  have payloadEq := carries.payload
  refine
    { passed := ⟨_, passes, ?_, payloadEq, markerEq.trans carries.marker⟩
      wellFormed := wellFormed
      short := short }
  apply Datagram.short_of_payload
  unfold payloadLimit at bounded
  show result.payload.length ≤ 1073741824
  rw [payloadEq]
  omega

theorem receives_of_forwards {results : List CH264EncodeRtp.EncodeResult}
    {packets : List Packet} {calls : List DecodeCall}
    (carries : List.Forall₂ CH264EncodeRtp.Carries results packets)
    (forwards : List.Forall₂ Forwards results calls)
    (sent : ∀ packet, packet ∈ packets → packet.Sent) :
    List.Forall₂ CH264DecodeRtp.Receives calls packets := by
  induction carries generalizing calls with
  | nil =>
      cases forwards
      exact .nil
  | @cons result packet results packets here later ih =>
      cases forwards with
      | cons forwarded forwardedLater =>
          exact .cons (forwarded.receives here (sent packet List.mem_cons_self))
            (ih forwardedLater fun other member =>
              sent other (List.mem_cons_of_mem packet member))

end DShowCapture
