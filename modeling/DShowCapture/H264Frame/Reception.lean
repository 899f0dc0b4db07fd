/-
Whole receptions: the frame object fed with one packet after the other.

A frame object that any sequence of its methods can produce, once reset, takes in every
legal packetisation of a frame and holds exactly this frame afterwards.
-/
import DShowCapture.Carriage
import DShowCapture.Datagram
import DShowCapture.H264Frame.Encapsulate

namespace DShowCapture

open ByteMemory FixedWidth Logged AnnexB

namespace H264Frame

/-! ### The frame objects of a program run -/

/-- The frame objects that any calls of the methods of the class produce.  A program sends with
one object and receives with another; the class itself allows calls of both kinds on one. -/
inductive Reachable : H264Frame → Prop
  | new (encodedFrame : Memory) (nals : Nat → NALU) : Reachable (new encodedFrame nals)
  | beginNewFrame {frame : H264Frame} (numberOfNALs : Nat) (reached : Reachable frame) :
      Reachable (frame.beginNewFrame numberOfNALs)
  | setMaxPayloadSize {frame : H264Frame} (maxPayloadSize : Nat)
      (reached : Reachable frame) : Reachable (frame.setMaxPayloadSize maxPayloadSize)
  | addNALU {frame : H264Frame} (type : UInt8) (length : Nat) (source : Memory)
      (payload : Nat) (reached : Reachable frame) :
      Reachable (frame.addNALU type length source payload).value
  | getRTPFrame {frame : H264Frame} (rtp : RTPFrame) (reached : Reachable frame) :
      Reachable (frame.getRTPFrame rtp).self
  | setFromRTPFrame {frame : H264Frame} (rtp : RTPFrame) (flags : CoderFlags)
      (reached : Reachable frame) :
      Reachable (frame.setFromRTPFrame rtp flags).value.self

/-! ### The receiving methods act through `AddDataToEncodedFrame` -/

section Preservation

variable {property : H264Frame → Prop}

theorem deencapsulateSTAPLoop_preserves
    (adding : ∀ (frame : H264Frame) (source : Memory) (data dataLen : Nat)
      (header : UInt8) (addHeader : Bool), property frame →
        property (frame.addDataToEncodedFrame source data dataLen header addHeader).value)
    {frame : H264Frame} (holds : property frame) (source : Memory)
    (curSTAP curSTAPLen : Nat) :
    property (frame.deencapsulateSTAPLoop source curSTAP curSTAPLen).value.2 := by
  fun_induction deencapsulateSTAPLoop frame source curSTAP curSTAPLen with
  | case1 => exact holds
  | case2 frame curSTAP curSTAPLen left ih =>
      simp only [value_bind, value_ite, value_pure]
      split
      · exact adding _ _ _ _ _ _ holds
      · rename_i fits
        exact ih _ fits (adding _ _ _ _ _ _ holds)

/-- What adding data, setting the fragment counter and resetting keep, every packet
keeps. -/
theorem setFromRTPFrame_preserves
    (adding : ∀ (frame : H264Frame) (source : Memory) (data dataLen : Nat)
      (header : UInt8) (addHeader : Bool), property frame →
        property (frame.addDataToEncodedFrame source data dataLen header addHeader).value)
    (counting : ∀ (frame : H264Frame) (counter : Nat), property frame →
      property { frame with currentFU := counter })
    (resetting : ∀ frame : H264Frame, property frame → property (frame.beginNewFrame 0))
    {frame : H264Frame} (holds : property frame) (rtp : RTPFrame) (flags : CoderFlags) :
    property (frame.setFromRTPFrame rtp flags).value.self := by
  have stap : property (frame.deencapsulateSTAP rtp).value.2 := by
    simp only [deencapsulateSTAP, value_ite, value_pure]
    split
    · exact holds
    · exact deencapsulateSTAPLoop_preserves adding holds _ _ _
  have fu : property (frame.deencapsulateFU rtp).value.2 := by
    simp only [deencapsulateFU, value_bind, value_ite, value_pure]
    repeat' split
    all_goals first
      | exact counting _ _ holds
      | exact adding _ _ _ _ _ _ (counting _ _ holds)
  simp only [setFromRTPFrame, value_bind, value_ite, value_pure]
  split
  · exact holds
  · split
    · exact adding _ _ _ _ _ _ holds
    · split
      · split
        · exact stap
        · exact resetting _ stap
      · split
        · split
          · exact fu
          · exact resetting _ fu
        · exact resetting _ holds

end Preservation

def TableAllocated (frame : H264Frame) : Prop :=
  0 < frame.numberOfNALsReserved → 0 < frame.nalsAllocated

theorem tableAllocated_addDataToEncodedFrame (frame : H264Frame) (source : Memory)
    (data dataLen : Nat) (header : UInt8) (addHeader : Bool)
    (allocated : frame.TableAllocated) :
    (frame.addDataToEncodedFrame source data dataLen header addHeader).value.TableAllocated := by
  have reserve : ∀ grown : H264Frame, grown.TableAllocated →
      grown.reserveNAL.TableAllocated := by
    intro grown before
    unfold TableAllocated reserveNAL
    split
    · exact id
    · exact before
  cases addHeader
  · simp only [addDataToEncodedFrame, extendLastNAL, value_ite, value_bind, value_pure,
      Bool.false_eq_true, if_false]
    split
    · exact allocated
    · split <;> exact allocated
  · simp only [addDataToEncodedFrame, addHeaderToEncodedFrame, value_ite, value_bind,
      value_pure, if_true]
    split
    · exact allocated
    · split <;> exact reserve _ allocated

theorem tableAllocated_getRTPFrame {frame : H264Frame} (allocated : frame.TableAllocated)
    (rtp : RTPFrame) : (frame.getRTPFrame rtp).self.TableAllocated := by
  simp only [getRTPFrame, encapsulateFU, sendFragment, endFU, beginFU]
  repeat' split
  all_goals exact allocated

theorem Reachable.tableAllocated {frame : H264Frame} (reached : Reachable frame) :
    frame.TableAllocated := by
  induction reached with
  | new encodedFrame nals => exact id
  | beginNewFrame numberOfNALs reached ih =>
      intro reserved
      have before := ih reserved
      simp only [H264Frame.beginNewFrame]
      split <;> omega
  | setMaxPayloadSize maxPayloadSize reached ih => exact ih
  | addNALU type length source payload reached ih => exact ih
  | getRTPFrame rtp reached ih => exact tableAllocated_getRTPFrame ih rtp
  | setFromRTPFrame rtp flags reached ih =>
      exact setFromRTPFrame_preserves tableAllocated_addDataToEncodedFrame
        (fun _ _ held => held) (fun _ held => held) ih rtp flags

/-! ### Runs of `SetFromRTPFrame` -/

/-- One call of `SetFromRTPFrame` for each packet, each with its own flag word: what the
calls return, and the frame object after them. -/
def setFromRTPFrames : H264Frame → List (RTPFrame × CoderFlags) → List Bool × H264Frame
  | self, [] => ([], self)
  | self, packet :: rest =>
      let received := (self.setFromRTPFrame packet.1 packet.2).value
      let later := setFromRTPFrames received.self rest
      (received.returned :: later.1, later.2)

theorem forall₂_carries {packets : List (RTPFrame × CoderFlags)} {datagrams : List Datagram}
    (viewed : List.Forall₂
      (fun packet datagram => packet.1.Holds (Datagram.bytes datagram)) packets datagrams)
    (short : ∀ datagram, datagram ∈ datagrams → datagram.Short) :
    List.Forall₂ (fun packet datagram => Carries packet.1 (Datagram.payload datagram))
      packets datagrams := by
  induction viewed with
  | nil => exact .nil
  | @cons packet datagram packets datagrams holds later ih =>
      exact .cons (holds.carries (short datagram List.mem_cons_self))
        (ih fun other member => short other (List.mem_cons_of_mem datagram member))

/-- As long as the assembly accepts every payload, the frame object follows it. -/
theorem setFromRTPFrames_refines {frame : H264Frame} {assembly final : Assembly}
    (represents : Represents frame assembly) {payloads : List Payload}
    {packets : List (RTPFrame × CoderFlags)}
    (carried : List.Forall₂
      (fun packet payload => Carries packet.1 (Payload.bytes payload)) packets payloads)
    (wellFormed : ∀ payload, payload ∈ payloads → payload.WellFormed ∧ payload.Short)
    (received : assembly.receiveAll payloads = some final) :
    (frame.setFromRTPFrames packets).1 = packets.map (fun _ => true) ∧
      Represents (frame.setFromRTPFrames packets).2 final := by
  induction carried generalizing frame assembly with
  | nil =>
      cases received
      exact ⟨rfl, represents⟩
  | @cons packet payload packets payloads carries later ih =>
      have formed := wellFormed payload List.mem_cons_self
      have stepped := setFromRTPFrame_refines represents formed.1 formed.2 carries packet.2
      rw [Assembly.receiveAll, Option.bind_eq_some_iff] at received
      rcases received with ⟨next, receivedHere, receivedLater⟩
      rw [receivedHere] at stepped
      have rest := ih stepped.2.2
        (fun other member => wellFormed other (List.mem_cons_of_mem payload member))
        receivedLater
      simp only [setFromRTPFrames, List.map_cons, stepped.1, rest.1, true_and]
      exact rest.2

/-- However the NAL units of a frame are carried, a frame object that was just reset
accepts every packet and then holds them: their bytes behind start codes, and one table
entry for each. -/
theorem setFromRTPFrames_reassembles {frame : H264Frame} (reached : Reachable frame)
    {carriages : List Carriage} (legal : ∀ carriage, carriage ∈ carriages → carriage.Legal)
    (room : streamSize (carriages.flatMap Carriage.nals) ≤ maxFrameSize)
    {datagrams : List Datagram}
    (payloads : datagrams.map Datagram.payload =
      (carriages.flatMap Carriage.payloads).map Payload.bytes)
    {packets : List (RTPFrame × CoderFlags)}
    (viewed : List.Forall₂
      (fun packet datagram => packet.1.Holds (Datagram.bytes datagram)) packets datagrams) :
    let run := (frame.beginNewFrame 0).setFromRTPFrames packets
    run.1 = packets.map (fun _ => true) ∧
      run.2.assembled = byteStream (carriages.flatMap Carriage.nals) ∧
      run.2.nalTable = nalEntries 0 (carriages.flatMap Carriage.nals) := by
  have roomFor : ∀ carriage, carriage ∈ carriages →
      streamSize carriage.nals ≤ maxFrameSize := by
    intro carriage member
    exact Nat.le_trans (streamSize_le_of_mem member Carriage.nals) room
  have formed : ∀ payload, payload ∈ carriages.flatMap Carriage.payloads →
      payload.WellFormed ∧ payload.Short ∧ payload.bytes.length ≤ maxFrameSize := by
    intro payload member
    obtain ⟨carriage, carriageMember, payloadMember⟩ := List.mem_flatMap.mp member
    have legalHere := legal carriage carriageMember
    have roomHere := roomFor carriage carriageMember
    exact ⟨Carriage.wellFormed_of_mem legalHere payloadMember,
      Carriage.short_of_mem payloadMember roomHere,
      Nat.le_trans (Carriage.length_le_of_mem legalHere payloadMember) roomHere⟩
  have carried : List.Forall₂
      (fun packet payload => Carries packet.1 (Payload.bytes payload)) packets
      (carriages.flatMap Carriage.payloads) := by
    have short : ∀ datagram, datagram ∈ datagrams → datagram.Short := by
      intro datagram member
      have carriedHere := List.mem_map_of_mem (f := Datagram.payload) member
      rw [payloads] at carriedHere
      obtain ⟨payload, payloadMember, payloadEq⟩ := List.mem_map.mp carriedHere
      have bounded := (formed payload payloadMember).2.2
      rw [payloadEq] at bounded
      unfold maxFrameSize at bounded
      exact Datagram.short_of_payload (by omega)
    have carries := forall₂_carries viewed short
    rwa [← List.forall₂_map_right_iff (f := Datagram.payload), payloads,
      List.forall₂_map_right_iff] at carries
  have received := Assembly.receiveAll_carriages legal [] room
  have run := setFromRTPFrames_refines
    (represents_beginNewFrame frame reached.tableAllocated) carried
    (fun payload member => ⟨(formed payload member).1, (formed payload member).2.1⟩) received
  exact ⟨run.1, run.2.bytes, run.2.table⟩

/-- A single NAL unit packet, an aggregate and a run of fragments in one frame, with a
contributing source in every header. -/
theorem setFromRTPFrames_reassembles_mixed :
    let header : RFC3550.Header :=
      { marker := false, payloadType := 96, sequenceNumber := 1, timestamp := 2, ssrc := 3
        csrc := [4], csrcCount := by decide }
    let carriages : List Carriage :=
      [.single 0x67 [0x42], .aggregate 0x18 [[0x68, 0x1e]], .fragments 0x65 [[0x88], [0x84]]]
    let packets := ((carriages.flatMap Carriage.payloads).map fun payload =>
      (RTPFrame.view (Datagram.bytes { header := header, payload := payload.bytes }),
        CoderFlags.none))
    let run := ((new (fun _ => 0) default).beginNewFrame 0).setFromRTPFrames packets
    run.1 = [true, true, true, true] ∧
      run.2.assembled =
        [0, 0, 0, 1, 0x67, 0x42, 0, 0, 0, 1, 0x68, 0x1e, 0, 0, 0, 1, 0x65, 0x88, 0x84] ∧
      run.2.nalTable =
        [{ type := 7, offset := 4, length := 2 }, { type := 8, offset := 10, length := 2 },
          { type := 5, offset := 16, length := 3 }] := by
  intro header carriages packets
  let datagrams : List Datagram := (carriages.flatMap Carriage.payloads).map fun payload =>
    { header := header, payload := payload.bytes }
  have viewed : List.Forall₂
      (fun packet datagram => packet.1.Holds (Datagram.bytes datagram)) packets
      datagrams := by
    simp only [packets, datagrams, List.forall₂_map_left_iff, List.forall₂_map_right_iff,
      List.forall₂_same]
    exact fun payload _ => RTPFrame.holds_view _
  have legal : ∀ carriage, carriage ∈ carriages → carriage.Legal := by decide
  have payloads : datagrams.map Datagram.payload =
      (carriages.flatMap Carriage.payloads).map Payload.bytes := rfl
  exact setFromRTPFrames_reassembles (Reachable.new (fun _ => 0) default) legal
    (by decide) payloads viewed

end H264Frame

end DShowCapture
