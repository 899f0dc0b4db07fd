/-
Whole transmissions: the frame object emptied by one call of `GetRTPFrame` after the
other.

Whatever NAL units were staged, the calls send their payloads in order, mark the last
one, and then report that nothing is left.
-/
import DShowCapture.H264Frame.Staging

namespace DShowCapture

open ByteMemory FixedWidth Logged RFC6184

namespace H264Frame

structure IsPacket (result : Encapsulated) (payload : List UInt8) (last : Bool) : Prop where
  payload : result.frame.payload = payload
  marker : result.frame.getMarker = last
  flag : result.flags.lastFrame = last

def IsTransmission : List Encapsulated → List (List UInt8) → Prop
  | [], [] => True
  | result :: results, payload :: rest =>
      IsPacket result payload rest.isEmpty ∧ IsTransmission results rest
  | _, _ => False

theorem IsTransmission.payloads {results : List Encapsulated} {payloads : List (List UInt8)}
    (transmission : IsTransmission results payloads) :
    results.map (fun result => result.frame.payload) = payloads := by
  induction results generalizing payloads with
  | nil =>
      cases payloads with
      | nil => rfl
      | cons payload rest => exact transmission.elim
  | cons result results ih =>
      cases payloads with
      | nil => exact transmission.elim
      | cons payload rest =>
          rw [List.map_cons, transmission.1.payload, ih transmission.2]

theorem IsTransmission.marks {results : List Encapsulated} {payloads : List (List UInt8)}
    (transmission : IsTransmission results payloads) (index : Nat) (result : Encapsulated)
    (found : results[index]? = some result) :
    result.frame.getMarker = (index + 1 == results.length) ∧
      result.flags.lastFrame = (index + 1 == results.length) := by
  induction results generalizing payloads index with
  | nil => cases found
  | cons head results ih =>
      cases payloads with
      | nil => exact transmission.elim
      | cons payload rest =>
          cases index with
          | zero =>
              obtain rfl : head = result := by simpa using found
              have lengths := congrArg List.length transmission.2.payloads
              rw [List.length_map] at lengths
              have lastEq : rest.isEmpty = (0 + 1 == (head :: results).length) := by
                rw [List.length_cons, lengths]
                cases rest <;> simp
              rw [← lastEq]
              exact ⟨transmission.1.marker, transmission.1.flag⟩
          | succ index =>
              have later := ih transmission.2 index found
              simpa using later

/-- A frame object that is being sent is emptied by as many calls as payloads are to come,
and the next call says so. -/
theorem getRTPFrames_transmits {frame : H264Frame} (packetizing : frame.Packetizing)
    {buffers : Nat → RTPFrame} (plain : ∀ call, (buffers call).Plain)
    (short : ∀ payload, payload ∈ frame.pending → payload.length < 65536) :
    ∃ results final,
      frame.getRTPFrames (frame.pending.length + 1) buffers = some (results, final) ∧
        IsTransmission results frame.pending ∧ final.hasRTPFrames = false := by
  induction pendingEq : frame.pending generalizing frame buffers with
  | nil =>
      have drained := (pending_eq_nil_iff packetizing).mp pendingEq
      refine ⟨[], frame, ?_, trivial, drained⟩
      simp [getRTPFrames, getRTPFrame_of_drained _ drained]
  | cons payload rest ih =>
      have sends := sends_getRTPFrame packetizing (plain 0) pendingEq
      rw [pendingEq] at short
      obtain ⟨results, final, run, transmission, drained⟩ :=
        ih sends.packetizing (fun call => plain (call + 1))
          (by
            rw [sends.pending]
            exact fun other member => short other (List.mem_cons_of_mem payload member))
          sends.pending
      have payloadShort := short payload List.mem_cons_self
      refine ⟨frame.getRTPFrame (buffers 0) :: results, final, ?_, ⟨?_, transmission⟩, drained⟩
      · rw [List.length_cons, getRTPFrames]
        simp only [sends.returned, if_true, run, Option.map_some]
      · exact
          { payload := sends.emits.payload (by omega)
            marker := sends.emits.marked
            flag := sends.flagged }

theorem forall₂_nalPayloads {limit : Nat} (atLeastThree : 3 ≤ limit)
    {units : List (List UInt8)} (nonempty : ∀ unit, unit ∈ units → unit ≠ []) :
    List.Forall₂ (IsPacketisation limit) units (units.map (nalPayloads limit)) := by
  rw [List.forall₂_map_right_iff, List.forall₂_same]
  exact fun unit member => isPacketisation_nalPayloads atLeastThree (nonempty unit member)

theorem length_le_of_mem_payloads {limit : Nat} (atLeastThree : 3 ≤ limit)
    {units : List (List UInt8)} (nonempty : ∀ unit, unit ∈ units → unit ≠ [])
    {payload : List UInt8} (member : payload ∈ units.flatMap (nalPayloads limit)) :
    payload.length ≤ limit := by
  obtain ⟨unit, unitMember, payloadMember⟩ := List.mem_flatMap.mp member
  exact (isPacketisation_nalPayloads atLeastThree (nonempty unit unitMember)).bounded
    payload payloadMember

theorem length_flatten_bytes (calls : List NALUArgs) :
    (calls.map NALUArgs.bytes).flatten.length = (calls.map NALUArgs.length).sum := by
  rw [List.length_flatten, List.map_map]
  congr 1
  exact List.map_congr_left fun call _ => length_read _ _ _

theorem length_le_length_flatten {units : List (List UInt8)}
    (nonempty : ∀ unit, unit ∈ units → unit ≠ []) : units.length ≤ units.flatten.length := by
  induction units with
  | nil => exact Nat.le_refl 0
  | cons unit rest ih =>
      have positive := List.length_pos_iff.mpr (nonempty unit List.mem_cons_self)
      have later := ih fun other member => nonempty other (List.mem_cons_of_mem unit member)
      rw [List.length_cons, List.flatten_cons, List.length_append]
      omega

theorem plain_of_zero {rtp : RTPFrame} (roomy : 12 ≤ rtp.frameLen) (zero : rtp.frame 0 = 0) :
    rtp.Plain := by
  refine ⟨roomy, ?_⟩
  rw [zero]
  rfl

theorem bytes_ne_nil {calls : List NALUArgs} (nonempty : ∀ call, call ∈ calls → call.bytes ≠ []) :
    ∀ unit, unit ∈ calls.map NALUArgs.bytes → unit ≠ [] := by
  intro unit member
  obtain ⟨call, callMember, rfl⟩ := List.mem_map.mp member
  exact nonempty call callMember

theorem transmits_of_addNALUs (frame : H264Frame) {limit : Nat} (atLeastThree : 3 ≤ limit)
    (limitFits : limit ≤ 65535) {calls : List NALUArgs}
    (headers : ∀ call, call ∈ calls → call.bytes ≠ [] ∧ call.bytes.head? ≠ some 0)
    (total : (calls.map NALUArgs.length).sum ≤ maxFrameSize) {buffers : Nat → RTPFrame}
    (zeroHeaders : ∀ call address, address < 12 → (buffers call).frame address = 0)
    (roomy : ∀ call, 12 + limit ≤ (buffers call).frameLen) :
    let staged := (((frame.setMaxPayloadSize limit).beginNewFrame calls.length).addNALUs
      calls).value
    ∃ count results final,
      staged.getRTPFrames count buffers = some (results, final) ∧
        IsTransmission results ((calls.map NALUArgs.bytes).flatMap (nalPayloads limit)) := by
  intro staged
  have nonempty := bytes_ne_nil fun call member => (headers call member).1
  have bytesTotal := length_flatten_bytes calls
  have fewUnits := length_le_length_flatten nonempty
  rw [List.length_map] at fewUnits
  unfold maxFrameSize at total
  have begun := staged_beginNewFrame (frame.setMaxPayloadSize limit) calls.length
  have guard : ∀ unit rest, [] ++ calls.map NALUArgs.bytes = unit :: rest →
      GuardsStart unit := by
    intro unit rest shape
    have member : unit ∈ calls.map NALUArgs.bytes := by
      rw [List.nil_append] at shape
      rw [shape]
      exact List.mem_cons_self
    obtain ⟨call, callMember, rfl⟩ := List.mem_map.mp member
    obtain ⟨notNil, headNonzero⟩ := headers call callMember
    cases bytesEq : call.bytes with
    | nil => exact absurd bytesEq notNil
    | cons first bytes =>
        apply guardsStart_of_head
        rw [bytesEq] at headNonzero
        simpa using headNonzero
  have holds : staged.Staged (calls.map NALUArgs.bytes) := by
    refine staged_addNALUs begun.1 calls ?_ ?_ guard
    · rw [List.nil_append]
      omega
    · rw [List.length_nil]
      omega
  have kept := frame_addNALUs ((frame.setMaxPayloadSize limit).beginNewFrame calls.length) calls
  have unsent : staged.Unsent := kept.2 begun.2
  have limitEq : staged.maxPayloadSize = limit :=
    kept.1.trans (u16_natCast limit (by omega))
  have packetizing : staged.Packetizing :=
    packetizing_of_staged holds unsent (by omega) (by omega) (by omega)
      (by rw [List.length_map]; omega)
  have pendingEq := pending_of_staged holds unsent
  rw [limitEq] at pendingEq
  have plain : ∀ call, (buffers call).Plain := by
    intro call
    have wide := roomy call
    exact plain_of_zero (by omega) (zeroHeaders call 0 (by decide))
  obtain ⟨results, final, run, transmission, _⟩ := getRTPFrames_transmits packetizing plain (by
    intro payload member
    rw [pendingEq] at member
    have short := length_le_of_mem_payloads atLeastThree nonempty member
    omega)
  rw [pendingEq] at transmission
  exact ⟨_, results, final, run, transmission⟩

/-- A frame staged by `BeginNewFrame` and `AddNALU` goes out as the payload format
prescribes: for every NAL unit its packetisation under the limit, in order, with the
marker and the flag on the last packet only; then `GetRTPFrame` returns false. -/
theorem getRTPFrames_packetises (frame : H264Frame) {limit : Nat} (atLeastThree : 3 ≤ limit)
    (limitFits : limit ≤ 65535) {calls : List NALUArgs}
    (headers : ∀ call, call ∈ calls → call.bytes ≠ [] ∧ call.bytes.head? ≠ some 0)
    (total : (calls.map NALUArgs.length).sum ≤ maxFrameSize) {buffers : Nat → RTPFrame}
    (zeroHeaders : ∀ call address, address < 12 → (buffers call).frame address = 0)
    (roomy : ∀ call, 12 + limit ≤ (buffers call).frameLen) :
    let staged := (((frame.setMaxPayloadSize limit).beginNewFrame calls.length).addNALUs
      calls).value
    ∃ count results final groups,
      staged.getRTPFrames count buffers = some (results, final) ∧
        results.map (fun result => result.frame.payload) = groups.flatten ∧
        List.Forall₂ (IsPacketisation limit) (calls.map NALUArgs.bytes) groups ∧
        ∀ index result, results[index]? = some result →
          result.frame.getMarker = (index + 1 == results.length) ∧
            result.flags.lastFrame = (index + 1 == results.length) := by
  intro staged
  have nonempty := bytes_ne_nil fun call member => (headers call member).1
  obtain ⟨count, results, final, run, transmission⟩ :=
    transmits_of_addNALUs frame atLeastThree limitFits headers total zeroHeaders roomy
  refine ⟨count, results, final, (calls.map NALUArgs.bytes).map (nalPayloads limit), run, ?_,
    forall₂_nalPayloads atLeastThree nonempty, transmission.marks⟩
  rw [transmission.payloads, List.flatMap_def]

/-- A NAL unit of five bytes and one of two, under a limit of three bytes. -/
theorem getRTPFrames_packetises_small :
    let calls : List NALUArgs :=
      [{ type := 5, length := 5, source := ofBytes [0x65, 1, 2, 3, 4], payload := 0 },
        { type := 8, length := 2, source := ofBytes [0x68, 9], payload := 0 }]
    let staged := ((((new (fun _ => 0) default).setMaxPayloadSize 3).beginNewFrame 2).addNALUs
      calls).value
    ∃ count results final groups,
      staged.getRTPFrames count (fun _ => { frame := fun _ => 0, frameLen := 1212 }) =
          some (results, final) ∧
        results.map (fun result => result.frame.payload) = groups.flatten ∧
        List.Forall₂ (IsPacketisation 3) (calls.map NALUArgs.bytes) groups ∧
        ∀ index result, results[index]? = some result →
          result.frame.getMarker = (index + 1 == results.length) ∧
            result.flags.lastFrame = (index + 1 == results.length) := by
  intro calls
  have headers : ∀ call, call ∈ calls → call.bytes ≠ [] ∧ call.bytes.head? ≠ some 0 := by
    decide
  exact getRTPFrames_packetises (new (fun _ => 0) default) (by decide) (by decide)
    headers (by decide) (fun _ _ _ => rfl) (fun _ => by decide)

end H264Frame

end DShowCapture
