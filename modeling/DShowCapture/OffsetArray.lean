/-
Whether the decoder object writes the offsets of a parameter set inside their array.

The search for a key frame runs over every frame that is completed, and behind the array
stands the stack of the program: a call that writes there has no result.
-/
import DShowCapture.Decoding
import DShowCapture.KeyFrame.CycleBounds

namespace DShowCapture

open ByteMemory FixedWidth Logged AnnexB

def RtpAccess.InArray : RtpAccess → Prop
  | .inl _ => True
  | .inr access => access.InArray

/-- The units of the frames that the packets complete, whether or not they pass the gate. -/
def Assembly.completed : Assembly → List Packet → List (List (List UInt8))
  | _, [] => []
  | self, packet :: rest =>
      match self.receive packet.payload with
      | none => Assembly.empty.completed rest
      | some next =>
          if packet.marker then next.nals :: Assembly.empty.completed rest
          else next.completed rest

theorem Assembly.completed_markLast {assembly whole : Assembly} {payloads : List Payload}
    (someLeft : payloads ≠ []) (received : assembly.receiveAll payloads = some whole)
    (rest : List Packet) :
    assembly.completed (markLast true payloads ++ rest) =
      whole.nals :: Assembly.empty.completed rest := by
  induction payloads generalizing assembly with
  | nil => exact absurd rfl someLeft
  | cons payload payloads ih =>
      rw [receiveAll, Option.bind_eq_some_iff] at received
      obtain ⟨next, receivedHere, receivedLater⟩ := received
      cases payloads with
      | nil =>
          cases receivedLater
          simp only [markLast, List.singleton_append, completed, receivedHere, if_true]
      | cons following payloads =>
          have later := ih (List.cons_ne_nil following payloads) receivedLater
          simp only [markLast, List.cons_append, completed, receivedHere, Bool.false_eq_true,
            if_false]
          exact later

namespace CH264DecodeRtp

variable {decoder : CH264DecodeRtp}

theorem firstCycleFits_nil : FirstCycleFits [] := by
  rintro position ⟨_, header, _, isPrefix⟩ _
  rw [List.drop_nil, List.prefix_nil] at isPrefix
  cases isPrefix

theorem safe_inArray_decodeReceived_iff {rtp : RTPFrame} {received : H264Frame.Received}
    {args : DecodeArgs} :
    Safe RtpAccess.InArray (decoder.decodeReceived rtp received args) ↔
      (received.returned = true → rtp.getMarker = true →
        FirstCycleFits received.self.assembled) := by
  have markerSafe : Safe RtpAccess.InArray (readMarker rtp) := by
    rw [readMarker, safe_ite]
    exact ⟨fun _ => safe_pure _ _, fun _ => (safe_emit _ _).mpr trivial⟩
  have held : read received.self.encodedFrame 0 received.self.assembled.length =
      received.self.assembled := by
    rw [H264Frame.assembled, length_read]
  have scan := safe_inArray_isH264KeyFrame_iff held
  rw [decodeReceived]
  cases returned : received.returned with
  | false =>
      exact iff_of_true (safe_pure _ _) fun impossible => absurd impossible Bool.false_ne_true
  | true =>
      simp only [Bool.not_true, Bool.false_eq_true, if_false, safe_bind, markerSafe, true_and,
        forall_const]
      cases marked : rtp.getMarker with
      | false =>
          exact iff_of_true (safe_pure _ _) fun impossible => absurd impossible Bool.false_ne_true
      | true =>
          simp only [Bool.not_true, Bool.false_eq_true, if_false, forall_const, completeFrame]
          by_cases noBytes : received.self.encodedFrameLen = 0
          · rw [if_pos noBytes, H264Frame.assembled, noBytes, read_zero]
            exact iff_of_true (safe_pure _ _) firstCycleFits_nil
          · rw [H264Frame.assembled, length_read, ← H264Frame.assembled] at scan
            rw [if_neg noBytes, safe_bind, safe_mapLog]
            exact (and_iff_left (safe_pure _ _)).trans scan

/-- A call writes inside the array when the frame that it completes grants that. -/
theorem safe_inArray_decodeFrames_iff (call : DecodeCall) :
    Safe RtpAccess.InArray (decoder.decodeFrames call.src call.srcLen call.args) ↔
      ((decoder.fullFrame.setFromRTPFrame call.rtp call.args.flags).value.returned = true →
        call.rtp.getMarker = true →
          FirstCycleFits
            (decoder.fullFrame.setFromRTPFrame call.rtp call.args.flags).value.self.assembled) := by
  rw [decodeFrames, safe_bind, safe_mapLog]
  apply (and_iff_right fun _ _ => trivial).trans
  rw [value_mapLog]
  exact safe_inArray_decodeReceived_iff

/-! ### Runs -/

def StaysInArray : CH264DecodeRtp → List DecodeCall → Prop
  | _, [] => True
  | self, call :: rest =>
      Safe RtpAccess.InArray (self.decodeFrames call.src call.srcLen call.args) ∧
        (call.decode self).self.StaysInArray rest

/-- A run stays inside the array when all frames that its packets complete grant that. -/
theorem staysInArray_iff {receiver : Receiver} (represents : decoder.Represents receiver)
    {calls : List DecodeCall} {packets : List Packet}
    (receives : List.Forall₂ Receives calls packets) :
    decoder.StaysInArray calls ↔
      ∀ nals, nals ∈ receiver.assembly.completed packets → FirstCycleFits (byteStream nals) := by
  induction receives generalizing decoder receiver with
  | nil => exact iff_of_true trivial (List.forall_mem_nil _)
  | @cons call packet calls packets here later ih =>
      obtain ⟨key, stepped, _, _⟩ := decodeFrames_refines represents here
      obtain ⟨carries, markerEq⟩ := here.carries
      have refines := H264Frame.setFromRTPFrame_refines represents.frame here.wellFormed
        here.short carries call.args.flags
      have behind := ih stepped
      rw [Receiver.assembly_step] at behind
      rw [StaysInArray, behind, safe_inArray_decodeFrames_iff, markerEq, Assembly.completed]
      generalize (decoder.fullFrame.setFromRTPFrame call.rtp call.args.flags).value = received
        at refines ⊢
      cases taken : receiver.assembly.receive packet.payload with
      | none =>
          rw [taken] at refines
          refine and_iff_right fun returned => ?_
          rw [refines.1] at returned
          cases returned
      | some next =>
          rw [taken] at refines
          obtain ⟨returned, _, held⟩ := refines
          have bytes : received.self.assembled = byteStream next.nals := held.bytes
          rw [returned, bytes]
          cases packet.marker with
          | false =>
              exact and_iff_right fun _ impossible => absurd impossible Bool.false_ne_true
          | true =>
              simp only [if_true, List.forall_mem_cons, forall_const]

end CH264DecodeRtp

end DShowCapture
