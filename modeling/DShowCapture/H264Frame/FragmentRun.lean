/-
A NAL unit that arrives as a complete run of fragments.

A frame object without an open NAL unit takes the run in as one more NAL unit.  Where
the end of an earlier NAL unit was lost, the first fragment is dropped and the others
extend the NAL unit that was left open.
-/
import DShowCapture.H264Frame.Reception
import DShowCapture.H264Frame.Tiling

namespace DShowCapture

open ByteMemory FixedWidth Logged AnnexB

/-! ### Fragments and the number of NAL units -/

theorem length_extendLast (nals : List (List UInt8)) (body : List UInt8) :
    (extendLast nals body).length = nals.length := by
  fun_induction extendLast nals body with
  | case1 => rfl
  | case2 => rfl
  | case3 nal next rest body ih => simp only [List.length_cons, ih]

namespace Assembly

theorem length_nals_extend (self : Assembly) (body : List UInt8) :
    (self.extend body).nals.length = self.nals.length := by
  unfold extend
  split
  · exact length_extendLast self.nals body
  · rfl

/-- Behind an open NAL unit fragments without the start bit add none. -/
theorem length_receiveAll_later (first : UInt8) {bodies : List (List UInt8)} {self : Assembly}
    (isOpen : self.openFragments ≠ 0) (inRange : self.openFragments + bodies.length ≤ 65536) :
    ∃ final, self.receiveAll (fragmentPayloads first false bodies) = some final ∧
      final.nals.length = self.nals.length := by
  induction bodies generalizing self with
  | nil => exact ⟨self, rfl, rfl⟩
  | cons body rest ih =>
      cases rest with
      | nil =>
          refine ⟨extend { self with openFragments := 0 } body, ?_, length_nals_extend _ _⟩
          rw [fragmentPayloads, receiveAll]
          simp only [receive, Payload.startBit, Payload.endBit, RFC6184.fuHeader_startBit,
            RFC6184.fuHeader_endBit, ne_eq, isOpen, not_false_eq_true, if_true,
            Option.bind_some, receiveAll]
      | cons next rest =>
          have counterEq : (self.openFragments + 1) % 65536 = self.openFragments + 1 := by
            simp only [List.length_cons] at inRange
            omega
          let grown : Assembly :=
            extend { self with openFragments := self.openFragments + 1 } body
          have grownCounter : grown.openFragments = self.openFragments + 1 :=
            openFragments_extend _ _
          have grownOpen : grown.openFragments ≠ 0 := by
            rw [grownCounter]
            exact Nat.succ_ne_zero _
          have grownRange : grown.openFragments + (next :: rest).length ≤ 65536 := by
            rw [grownCounter]
            simp only [List.length_cons] at inRange ⊢
            omega
          obtain ⟨final, received, lengthEq⟩ := ih grownOpen grownRange
          refine ⟨final, ?_, lengthEq.trans (length_nals_extend _ _)⟩
          rw [fragmentPayloads, receiveAll]
          simp only [receive, Payload.startBit, Payload.endBit, RFC6184.fuHeader_startBit,
            RFC6184.fuHeader_endBit, ne_eq, isOpen, not_false_eq_true, if_true, counterEq,
            Option.bind_some]
          exact received

theorem length_receiveAll_of_open (first : UInt8) {bodies : List (List UInt8)}
    (several : 2 ≤ bodies.length) (few : bodies.length ≤ 65535) {self : Assembly}
    (isOpen : self.openFragments ≠ 0) :
    ∃ final, self.receiveAll (fragmentPayloads first true bodies) = some final ∧
      final.nals.length = self.nals.length := by
  match bodies, several with
  | body :: next :: rest, _ =>
      let opening : Assembly := { self with openFragments := 1 }
      have openingOpen : opening.openFragments ≠ 0 := Nat.succ_ne_zero 0
      have openingRange : opening.openFragments + (next :: rest).length ≤ 65536 := by
        rw [List.length_cons] at few
        change 1 + (next :: rest).length ≤ 65536
        omega
      obtain ⟨final, received, lengthEq⟩ := length_receiveAll_later first openingOpen openingRange
      refine ⟨final, ?_, lengthEq⟩
      rw [fragmentPayloads, receiveAll]
      simp only [receive, Payload.startBit, Payload.endBit, RFC6184.fuHeader_startBit,
        RFC6184.fuHeader_endBit, ne_eq, isOpen, not_false_eq_true, if_true, Option.bind_some]
      exact received

end Assembly

namespace H264Frame

/-! ### The run and the frame object -/

structure AppendsNAL (frame : H264Frame) (nal : List UInt8) (run : List Bool × H264Frame) :
    Prop where
  accepted : ∀ returned, returned ∈ run.1 → returned = true
  appends : Appends frame run.2 [nal]
  closed : run.2.currentFU = 0

section Run

variable {frame : H264Frame} {assembly : Assembly} {first : UInt8} {bodies : List (List UInt8)}
  {packets : List (RTPFrame × CoderFlags)}

def CarriesRun (first : UInt8) (bodies : List (List UInt8))
    (packets : List (RTPFrame × CoderFlags)) : Prop :=
  List.Forall₂ (fun packet payload => Carries packet.1 (Payload.bytes payload)) packets
    (fragmentPayloads first true bodies)

theorem formed_fragmentPayloads
    (room : bodies.flatten.length + 5 ≤ maxFrameSize) (payload : Payload)
    (member : payload ∈ fragmentPayloads first true bodies) :
    payload.WellFormed ∧ payload.Short := by
  obtain ⟨_, _, body, bodyMember, payloadEq⟩ := mem_fragmentPayloads member
  have bodyLength : body.length ≤ bodies.flatten.length :=
    (List.sublist_flatten_of_mem bodyMember).length_le
  rw [payloadEq]
  refine ⟨RFC6184.fuIndicator_type first, ?_⟩
  change body.length + 5 ≤ maxFrameSize
  omega

theorem appendsNAL_of_closed (represents : Represents frame assembly)
    (several : 2 ≤ bodies.length) (few : bodies.length ≤ 65535)
    (room : frame.encodedFrameLen + bodies.flatten.length + 5 ≤ maxFrameSize)
    (carries : CarriesRun first bodies packets) (closed : frame.currentFU = 0) :
    AppendsNAL frame (first :: bodies.flatten) (frame.setFromRTPFrames packets) := by
  rcases assembly with ⟨nals, counter⟩
  obtain rfl : counter = 0 := represents.counter.symm.trans closed
  have lengthEq : frame.encodedFrameLen = streamSize nals :=
    represents.length.trans (Assembly.size_eq _)
  have received := Assembly.receiveAll_fragments first several few nals (by
    simp only [streamSize_append, streamSize_cons, streamSize_nil, List.length_cons]
    omega)
  have run := setFromRTPFrames_refines represents carries
    (formed_fragmentPayloads (by omega)) received
  refine { accepted := ?_, appends := represents.appends run.2, closed := run.2.counter }
  rw [run.1]
  intro returned member
  obtain ⟨_, _, rfl⟩ := List.mem_map.mp member
  rfl

theorem not_appendsNAL_of_open (represents : Represents frame assembly)
    (several : 2 ≤ bodies.length) (few : bodies.length ≤ 65535)
    (room : frame.encodedFrameLen + bodies.flatten.length + 5 ≤ maxFrameSize)
    (carries : CarriesRun first bodies packets) (isOpen : frame.currentFU ≠ 0)
    (nal : List UInt8) : ¬ AppendsNAL frame nal (frame.setFromRTPFrames packets) := by
  rw [represents.counter] at isOpen
  obtain ⟨final, received, lengthEq⟩ :=
    Assembly.length_receiveAll_of_open first several few isOpen
  have run := setFromRTPFrames_refines represents carries
    (formed_fragmentPayloads (by omega)) received
  intro appends
  have countEq := appends.appends.count
  rw [run.2.count, represents.count, lengthEq, List.length_singleton] at countEq
  omega

end Run

/-- A complete run of fragments is appended as one NAL unit to the frame of a receiver if and
only if no earlier NAL unit is open. -/
theorem setFromRTPFrames_appendsNAL_iff {frame : H264Frame} (reached : Receivable frame)
    (first : UInt8) {bodies : List (List UInt8)} (several : 2 ≤ bodies.length)
    (few : bodies.length ≤ 65535)
    (room : frame.encodedFrameLen + bodies.flatten.length + 5 ≤ maxFrameSize)
    {packets : List (RTPFrame × CoderFlags)} (carries : CarriesRun first bodies packets) :
    AppendsNAL frame (first :: bodies.flatten) (frame.setFromRTPFrames packets) ↔
      frame.currentFU = 0 := by
  rcases reached.represents with ⟨assembly, represents⟩
  constructor
  · intro appends
    by_contra isOpen
    exact not_appendsNAL_of_open represents several few room carries isOpen _ appends
  · exact appendsNAL_of_closed represents several few room carries

def runPackets (first : UInt8) (bodies : List (List UInt8)) : List (RTPFrame × CoderFlags) :=
  (fragmentPayloads first true bodies).map fun payload =>
    (RTPFrame.view (Datagram.bytes
      { header := RFC3550.Header.plain false, payload := payload.bytes }), CoderFlags.none)

theorem carriesRun_runPackets (first : UInt8) {bodies : List (List UInt8)}
    (small : bodies.flatten.length ≤ 65535) :
    CarriesRun first bodies (runPackets first bodies) := by
  rw [CarriesRun, runPackets, List.forall₂_map_left_iff, List.forall₂_same]
  intro payload member
  obtain ⟨_, _, body, bodyMember, payloadEq⟩ := mem_fragmentPayloads member
  have bodyLength : body.length ≤ bodies.flatten.length :=
    (List.sublist_flatten_of_mem bodyMember).length_le
  refine (RTPFrame.holds_view _).carries (Datagram.short_of_payload ?_)
  rw [payloadEq]
  simp only [Payload.bytes, List.length_cons]
  omega

/-- Three fragments behind a parameter set. -/
theorem setFromRTPFrames_appendsNAL_behindParameterSet :
    let parameterSet := RTPFrame.view (Datagram.bytes
      { header := RFC3550.Header.plain false, payload := [0x67, 0x42] })
    let frame :=
      ((new (fun _ => 0) default).setFromRTPFrame parameterSet CoderFlags.none).value.self
    frame.numberOfNALsInFrame = 1 ∧
      AppendsNAL frame [0x65, 0x88, 0x84, 0x21]
        (frame.setFromRTPFrames (runPackets 0x65 [[0x88], [0x84], [0x21]])) := by
  intro parameterSet frame
  have isSet : WellFormedPacket parameterSet :=
    { plain := ⟨by decide, by decide⟩
      small := by decide
      payload := ⟨.single 0x67 [0x42], by decide, by decide⟩ }
  have reached : Receivable frame :=
    (WellFed.setFromRTPFrame (.new _ _) isSet CoderFlags.none).receivable
  have carries : CarriesRun 0x65 [[0x88], [0x84], [0x21]]
      (runPackets 0x65 [[0x88], [0x84], [0x21]]) := carriesRun_runPackets 0x65 (by decide)
  refine ⟨by decide +kernel, ?_⟩
  exact (setFromRTPFrames_appendsNAL_iff reached 0x65 (by decide) (by decide)
    (by decide +kernel) carries).mpr (by decide +kernel)

/-- The first fragment of a NAL unit whose end is lost, and then two fragments. -/
theorem setFromRTPFrames_notAppendsNAL :
    let opening := RTPFrame.view (Datagram.bytes
      { header := RFC3550.Header.plain false, payload := [0x7c, 0x85, 0x88] })
    let frame := ((new (fun _ => 0) default).setFromRTPFrame opening CoderFlags.none).value.self
    ¬ AppendsNAL frame [0x61, 0x11, 0x22]
      (frame.setFromRTPFrames (runPackets 0x61 [[0x11], [0x22]])) := by
  intro opening frame
  have carries : Carries opening (Payload.fragment 0x7c 0x85 [0x88]).bytes :=
    (RTPFrame.holds_view _).carries (Datagram.short_of_payload (by decide))
  have fresh := represents_beginNewFrame (H264Frame.new (fun _ => 0) default) id
  have wellFormed : (Payload.fragment 0x7c 0x85 [0x88]).WellFormed := by decide
  have short : (Payload.fragment 0x7c 0x85 [0x88]).Short := (by decide : 6 ≤ maxFrameSize)
  have opened := setFromRTPFrame_refines fresh wellFormed short carries CoderFlags.none
  have received : Assembly.empty.receive (.fragment 0x7c 0x85 [0x88]) =
      some { nals := [[0x65, 0x88]], openFragments := 1 } := by decide
  rw [received] at opened
  have represents : Represents frame { nals := [[0x65, 0x88]], openFragments := 1 } :=
    opened.2.2
  refine not_appendsNAL_of_open represents (by decide) (by decide) ?_
    (carriesRun_runPackets 0x61 (by decide)) ?_ _
  · rw [represents.length]
    decide
  · rw [represents.counter]
    decide

end H264Frame

end DShowCapture
