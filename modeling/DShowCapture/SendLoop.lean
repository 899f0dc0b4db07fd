/-
When the loop of `SendH264Nalu` comes to its end.

The loop is left by the flag of the last packet.  Each call of `GetRTPFrame` on a frame
with NAL units left either finishes the current one or shortens what is left of it,
whatever the table of NAL units says, and the flag comes with the last of them.  A buffer
without a start code stages nothing, and the flag never comes.
-/
import DShowCapture.RTPSender
import DShowCapture.Encoding

namespace DShowCapture

open ByteMemory FixedWidth Logged AnnexB

theorem H264Frame.getMarker_fillFragment {rtp : RTPFrame} (plain : rtp.Plain)
    (header : UInt8 × UInt8) (source : Memory) (data len timestamp : Nat) (marker : Bool)
    (small : u32 (len + 2) < 65536) :
    (fillFragment rtp header source data len timestamp marker).getMarker = marker := by
  have lengthEq := frameLen_fillFragment plain header source data len timestamp marker small
  rw [fillFragment, RTPFrame.frameLen_setMarker] at lengthEq
  apply RTPFrame.getMarker_setMarker
  omega

namespace H264Frame

structure InRange (frame : H264Frame) : Prop where
  atLeastThree : 3 ≤ frame.maxPayloadSize
  limit : frame.maxPayloadSize < 65536
  count : frame.numberOfNALsInFrame < 4294967296
  lengths : ∀ index, index < frame.numberOfNALsInFrame →
    (frame.nals index).length < 4294967296

theorem InRange.of_same {frame next : H264Frame} (bounded : frame.InRange)
    (limitEq : next.maxPayloadSize = frame.maxPayloadSize)
    (countEq : next.numberOfNALsInFrame = frame.numberOfNALsInFrame)
    (nalsEq : next.nals = frame.nals) : next.InRange := by
  constructor
  · rw [limitEq]
    exact bounded.atLeastThree
  · rw [limitEq]
    exact bounded.limit
  · rw [countEq]
    exact bounded.count
  · rw [countEq, nalsEq]
    exact bounded.lengths

def nalsLeft (frame : H264Frame) : Nat := frame.numberOfNALsInFrame - frame.currentNAL

def unitLeft (frame : H264Frame) : Nat :=
  if frame.atFUStart then (frame.nals frame.currentNAL).length
  else frame.currentNALFURemainingLen

def Closer (later earlier : H264Frame) : Prop :=
  later.nalsLeft < earlier.nalsLeft ∨
    later.nalsLeft = earlier.nalsLeft ∧ later.unitLeft < earlier.unitLeft

theorem closer_induction {property : H264Frame → Prop}
    (step : ∀ frame, (∀ later, Closer later frame → property later) → property frame)
    (frame : H264Frame) : property frame := by
  induction nalsEq : frame.nalsLeft using Nat.strongRecOn generalizing frame with
  | ind nals ihNals =>
      induction unitEq : frame.unitLeft using Nat.strongRecOn generalizing frame with
      | ind unit ihUnit =>
          apply step
          rintro later (nalDone | ⟨sameNal, shorter⟩)
          · exact ihNals later.nalsLeft (by omega) later rfl
          · exact ihUnit later.unitLeft (by omega) later (by omega) rfl

structure Advances (frame : H264Frame) (result : Encapsulated) : Prop where
  bounded : result.self.InRange
  flagged : result.flags.lastFrame = !result.self.hasRTPFrames
  closer : result.self.Closer frame

theorem lastNAL_eq_not_lt {frame : H264Frame} (bounded : frame.InRange)
    (current : frame.currentNAL < frame.numberOfNALsInFrame) :
    u32 (frame.currentNAL + 1) = frame.currentNAL + 1 ∧
      frame.lastNAL = !decide (frame.currentNAL + 1 < frame.numberOfNALsInFrame) := by
  have countBound := bounded.count
  have nextNAL : u32 (frame.currentNAL + 1) = frame.currentNAL + 1 := by
    unfold u32
    omega
  rw [lastNAL, nextNAL]
  refine ⟨rfl, ?_⟩
  rw [← decide_not, decide_eq_decide]
  exact Nat.not_lt.symm

theorem advances_sendFragment {frame : H264Frame} (bounded : frame.InRange)
    (current : frame.currentNAL < frame.numberOfNALsInFrame)
    (positive : 0 < frame.currentNALFURemainingLen) (first : Bool) {rtp : RTPFrame}
    (plain : rtp.Plain) (flags : CoderFlags) (notYet : flags.lastFrame = false) :
    let result := frame.sendFragment first rtp flags
    result.self.InRange ∧ result.flags.lastFrame = (!result.self.hasRTPFrames) ∧
      (result.self.nalsLeft < frame.nalsLeft ∨
        result.self.nalsLeft = frame.nalsLeft ∧
          result.self.unitLeft < frame.currentNALFURemainingLen) := by
  have atLeastThree := bounded.atLeastThree
  have limit := bounded.limit
  obtain ⟨nextNAL, lastEq⟩ := lastNAL_eq_not_lt bounded current
  by_cases isLast : u32 (frame.currentNALFURemainingLen + 2) ≤ frame.maxPayloadSize
  · have drained : u32 ((frame.currentNALFURemainingLen : Int) -
        frame.currentNALFURemainingLen) = 0 := by
      unfold u32
      omega
    have marker := fun header => getMarker_fillFragment plain header frame.encodedFrame
      (frame.currentNALFURemainingDataPtr.getD 0) frame.currentNALFURemainingLen
      frame.timestamp frame.lastNAL (by omega)
    simp only [sendFragment, lastFragment, curFULen, fragmentHeader, if_pos positive,
      decide_eq_true isLast, if_true, Bool.true_and, drained, endFU, marker, notYet,
      Bool.false_or, nextNAL]
    refine ⟨?_, lastEq, Or.inl ?_⟩
    · exact bounded.of_same rfl rfl rfl
    · simp only [nalsLeft]
      omega
  · have sliceEq : u32 (frame.maxPayloadSize - 2) = frame.maxPayloadSize - 2 := by
      unfold u32
      omega
    have leftLen : 0 < u32 ((frame.currentNALFURemainingLen : Int) -
          (frame.maxPayloadSize - 2 : Nat)) ∧
        u32 ((frame.currentNALFURemainingLen : Int) - (frame.maxPayloadSize - 2 : Nat)) <
          frame.currentNALFURemainingLen := by
      unfold u32 at isLast ⊢
      omega
    have small : u32 ((frame.maxPayloadSize - 2 : Nat) + 2) < 65536 := by
      unfold u32
      omega
    have marker := fun header => getMarker_fillFragment plain header frame.encodedFrame
      (frame.currentNALFURemainingDataPtr.getD 0) (frame.maxPayloadSize - 2)
      frame.timestamp false small
    have notDrained := Nat.ne_of_gt leftLen.1
    simp only [sendFragment, lastFragment, curFULen, fragmentHeader, if_pos positive,
      decide_eq_false isLast, Bool.false_eq_true, if_false, Bool.false_and, sliceEq, endFU,
      notDrained, marker, notYet, Bool.false_or]
    refine ⟨?_, ?_, Or.inr ⟨rfl, ?_⟩⟩
    · exact bounded.of_same rfl rfl rfl
    · simp [hasRTPFrames, current]
    · simp only [unitLeft, atFUStart, Option.isNone_some, Bool.or_false,
        beq_eq_false_iff_ne.mpr notDrained, Bool.false_eq_true, if_false]
      exact leftLen.2

/-- Each call on a frame with NAL units left brings it closer to its end. -/
theorem advances_getRTPFrame {frame : H264Frame} (bounded : frame.InRange)
    (someLeft : frame.hasRTPFrames = true) {rtp : RTPFrame} (plain : rtp.Plain) :
    frame.Advances (frame.getRTPFrame rtp) := by
  have atLeastThree := bounded.atLeastThree
  have limit := bounded.limit
  have current : frame.currentNAL < frame.numberOfNALsInFrame := by
    simpa [hasRTPFrames] using someLeft
  by_cases long : (frame.nals frame.currentNAL).length > frame.maxPayloadSize
  · simp only [getRTPFrame, if_pos current, if_pos long, encapsulateFU]
    cases startEq : frame.atFUStart with
    | true =>
        have lengthBound := bounded.lengths _ current
        have restLen : frame.beginFU.currentNALFURemainingLen + 1 =
            (frame.nals frame.currentNAL).length := by
          rw [currentNALFURemainingLen_beginFU frame (by omega) (by omega)]
          omega
        have begun : frame.beginFU.InRange := bounded.of_same rfl rfl rfl
        have sent := advances_sendFragment begun current (by omega) true plain
          { CoderFlags.none with iFrame := frame.isSync } rfl
        simp only [if_true]
        refine { bounded := sent.1, flagged := sent.2.1, closer := ?_ }
        rcases sent.2.2 with nalDone | ⟨sameNal, shorter⟩
        · exact Or.inl nalDone
        · refine Or.inr ⟨sameNal, ?_⟩
          rw [unitLeft.eq_def frame, if_pos startEq, ← restLen]
          exact Nat.lt_succ_of_lt shorter
    | false =>
        have positive : 0 < frame.currentNALFURemainingLen := by
          rw [atFUStart, Bool.or_eq_false_iff] at startEq
          simpa [Nat.pos_iff_ne_zero] using startEq.1
        have sent := advances_sendFragment bounded current positive false plain
          { CoderFlags.none with iFrame := frame.isSync } rfl
        simp only [Bool.false_eq_true, if_false]
        refine { bounded := sent.1, flagged := sent.2.1, closer := ?_ }
        rcases sent.2.2 with nalDone | ⟨sameNal, shorter⟩
        · exact Or.inl nalDone
        · refine Or.inr ⟨sameNal, ?_⟩
          rw [unitLeft.eq_def frame, startEq]
          exact shorter
  · obtain ⟨nextNAL, lastEq⟩ := lastNAL_eq_not_lt bounded current
    have emits := emits_fillSingle plain frame.encodedFrame
      (frame.nals frame.currentNAL).offset (frame.nals frame.currentNAL).length
      frame.timestamp frame.lastNAL (by omega)
    simp only [getRTPFrame, if_pos current, if_neg long, nextNAL, emits.marked,
      CoderFlags.none, Bool.false_or]
    refine { bounded := bounded.of_same rfl rfl rfl, flagged := lastEq, closer := Or.inl ?_ }
    simp only [nalsLeft]
    omega

end H264Frame

/-! ### Staging -/

theorem H264Frame.bounded_addNALUs {frame : H264Frame} (bounded : frame.InRange)
    (calls : List NALUArgs) (few : frame.numberOfNALsInFrame + calls.length < 4294967296) :
    (frame.addNALUs calls).value.InRange ∧
      (frame.addNALUs calls).value.numberOfNALsInFrame =
        frame.numberOfNALsInFrame + calls.length ∧
      (frame.addNALUs calls).value.currentNAL = frame.currentNAL := by
  induction calls generalizing frame with
  | nil => exact ⟨bounded, rfl, rfl⟩
  | cons call rest ih =>
      rw [List.length_cons] at few
      have nextCount : u32 (frame.numberOfNALsInFrame + 1) =
          frame.numberOfNALsInFrame + 1 := by
        unfold u32
        omega
      have countEq : (frame.addNALU call.type call.length call.source
          call.payload).value.numberOfNALsInFrame = frame.numberOfNALsInFrame + 1 := nextCount
      have boundedNext : (frame.addNALU call.type call.length call.source
          call.payload).value.InRange := by
        refine
          { atLeastThree := bounded.atLeastThree
            limit := bounded.limit
            count := by rw [countEq]; omega
            lengths := ?_ }
        intro index inRange
        rw [countEq] at inRange
        by_cases isNew : index = frame.numberOfNALsInFrame
        · subst isNew
          simp only [addNALU, value_bind, value_pure, Function.update_self]
          exact u32_lt _
        · have earlier := bounded.lengths index (by omega)
          simp only [addNALU, value_bind, value_pure, Function.update_of_ne isNew]
          exact earlier
      obtain ⟨later, laterCount, laterCurrent⟩ := ih boundedNext (by rw [countEq]; omega)
      simp only [addNALUs, value_bind]
      refine ⟨later, ?_, laterCurrent⟩
      rw [laterCount, countEq, List.length_cons]
      omega

namespace CH264EncodeRtp

/-- A drained encoder has something to send exactly when the buffer holds a start code. -/
theorem bounded_stageFrame {self : CH264EncodeRtp}
    (drained : self.encapsulation.hasRTPFrames = false)
    (atLeastThree : 3 ≤ self.encapsulation.maxPayloadSize)
    (limit : self.encapsulation.maxPayloadSize < 65536) (src : Memory) (srcLen : Nat) :
    let frame := (self.stageFrame src srcLen).value
    frame.InRange ∧ (frame.hasRTPFrames = true ↔ [0, 0, 1] <:+: read src 0 srcLen) := by
  have scanned := (getNalSize_spec src maxNalSize 0 srcLen).1
  have sizes := (length_stagedUnits_le src srcLen).1
  rw [← afterStartCode_isSome_iff, value_stageFrame, drained]
  simp only [Bool.false_eq_true, if_false]
  generalize (getNalSize src maxNalSize 0 srcLen).value = nals at scanned ⊢
  have countEq := congrArg List.length scanned
  rw [List.length_map] at countEq
  change nals.length = (stagedUnits src srcLen).length at countEq
  unfold maxNalSize at sizes
  have begun : (self.encapsulation.beginNewFrame nals.length).InRange :=
    { atLeastThree := atLeastThree
      limit := limit
      count := Nat.zero_lt_succ _
      lengths := fun _ inRange => absurd inRange (Nat.not_lt_zero _) }
  obtain ⟨bounded, stagedCount, stagedCurrent⟩ := H264Frame.bounded_addNALUs begun
    (nals.map (naluArgs src)) (by
      rw [List.length_map, countEq]
      simp only [H264Frame.beginNewFrame]
      omega)
  refine ⟨bounded, ?_⟩
  rw [H264Frame.hasRTPFrames, stagedCount, stagedCurrent, List.length_map, countEq]
  simp only [H264Frame.beginNewFrame, Nat.zero_add, decide_eq_true_eq]
  rw [List.length_pos_iff, stagedUnits, Option.isSome_iff_ne_none, ne_eq, ne_eq,
    ← units_eq_nil_iff, List.take_eq_nil_iff]
  simp [maxNalSize]

end CH264EncodeRtp

/-! ### The loop -/

namespace RTPSender

theorem self_sendEncoded (clock : Nat → Int) (self : RTPSender)
    (encoded : CH264EncodeRtp.EncodeResult) :
    (self.sendEncoded clock encoded).self.h264Rtp = self.h264Rtp ∧
      (self.sendEncoded clock encoded).done = encoded.flags.lastFrame := by
  simp only [sendEncoded, getCurrentTime]
  refine ⟨?_, trivial⟩
  split <;> split <;> rfl

theorem value_sendRound (clock : Nat → Int) (self : RTPSender) (h264buf : Memory)
    (buflen : Nat) :
    let round := self.sendRound clock h264buf buflen
    let result := (self.h264Rtp.stageFrame h264buf buflen).value.getRTPFrame
      { frame := fun _ => 0, frameLen := i32 1212 }
    round.self.h264Rtp.encapsulation = result.self ∧
      round.done = result.flags.lastFrame := by
  have encodedEq := CH264EncodeRtp.value_encodeFrames self.h264Rtp h264buf buflen
    (fun _ => 0) 1212
  simp only at encodedEq ⊢
  simp only [sendRound, encodedEq, if_true]
  obtain ⟨selfEq, doneEq⟩ := self_sendEncoded clock
    { self with h264Rtp := (self.h264Rtp.encodeFrames h264buf buflen (fun _ => 0) 1212).value.self }
    (self.h264Rtp.encodeFrames h264buf buflen (fun _ => 0) 1212).value
  rw [encodedEq] at selfEq doneEq
  exact ⟨congrArg CH264EncodeRtp.encapsulation selfEq, doneEq⟩

theorem plain_byDest : ({ frame := fun _ => 0, frameLen := i32 1212 } : RTPFrame).Plain :=
  H264Frame.plain_of_zero (by decide) rfl

/-- With something to send, the loop sends all of it and leaves nothing. -/
theorem sendH264Nalu_of_hasRTPFrames (clock : Nat → Int) (h264buf : Memory) (buflen : Nat)
    (frame : H264Frame) (bounded : frame.InRange) (someLeft : frame.hasRTPFrames = true)
    (self : RTPSender) (staged : (self.h264Rtp.stageFrame h264buf buflen).value = frame) :
    ∃ rounds final sent, sendH264Nalu clock h264buf buflen rounds self = some (final, sent) ∧
      final.h264Rtp.encapsulation.hasRTPFrames = false ∧
      final.h264Rtp.encapsulation.maxPayloadSize = frame.maxPayloadSize := by
  induction frame using H264Frame.closer_induction generalizing self with
  | step frame ih =>
      have advances := H264Frame.advances_getRTPFrame bounded someLeft plain_byDest
      have flagged := advances.flagged
      obtain ⟨selfEq, doneEq⟩ := value_sendRound clock self h264buf buflen
      rw [staged] at selfEq doneEq
      rw [flagged, ← selfEq] at doneEq
      have limitEq : (self.sendRound clock h264buf buflen).self.h264Rtp.encapsulation.maxPayloadSize
          = frame.maxPayloadSize := by
        rw [selfEq]
        exact H264Frame.maxPayloadSize_getRTPFrame _ _
      cases leftEq :
        (self.sendRound clock h264buf buflen).self.h264Rtp.encapsulation.hasRTPFrames with
      | false =>
          rw [leftEq] at doneEq
          refine ⟨1, _, (self.sendRound clock h264buf buflen).sent, ?_, leftEq, limitEq⟩
          simp only [sendH264Nalu, doneEq, Bool.not_false, if_true]
      | true =>
          rw [leftEq] at doneEq
          have kept := CH264EncodeRtp.stageFrame_of_busy leftEq h264buf buflen
          obtain ⟨rounds, final, sent, run, nothingLeft, limitLater⟩ :=
            ih _ advances.closer advances.bounded
            (by rw [← selfEq]; exact leftEq) (self.sendRound clock h264buf buflen).self
            (kept.trans selfEq)
          rw [← selfEq, limitEq] at limitLater
          refine ⟨rounds + 1, final, (self.sendRound clock h264buf buflen).sent ++ sent, ?_,
            nothingLeft, limitLater⟩
          simp only [sendH264Nalu, doneEq, run, Bool.not_true, Bool.false_eq_true, if_false,
            Option.map_some]

/-- Without a start code in the buffer the loop goes on for ever. -/
theorem sendH264Nalu_of_no_startCode (clock : Nat → Int) {h264buf : Memory} {buflen : Nat}
    (absent : ¬ [0, 0, 1] <:+: read h264buf 0 buflen) (rounds : Nat) (self : RTPSender)
    (drained : self.h264Rtp.encapsulation.hasRTPFrames = false)
    (atLeastThree : 3 ≤ self.h264Rtp.encapsulation.maxPayloadSize)
    (limit : self.h264Rtp.encapsulation.maxPayloadSize < 65536) :
    sendH264Nalu clock h264buf buflen rounds self = none := by
  induction rounds generalizing self with
  | zero => rfl
  | succ rounds ih =>
      obtain ⟨bounded, someLeft⟩ := CH264EncodeRtp.bounded_stageFrame drained atLeastThree limit
        h264buf buflen
      rw [← not_iff_not, Bool.not_eq_true] at someLeft
      have nothing := someLeft.mpr absent
      obtain ⟨selfEq, doneEq⟩ := value_sendRound clock self h264buf buflen
      rw [H264Frame.getRTPFrame_of_drained _ nothing] at selfEq doneEq
      change _ = (self.h264Rtp.stageFrame h264buf buflen).value at selfEq
      have later := ih (self.sendRound clock h264buf buflen).self
        (by rw [selfEq]; exact nothing) (by rw [selfEq]; exact bounded.atLeastThree)
        (by rw [selfEq]; exact bounded.limit)
      simp only [sendH264Nalu, doneEq, later, CoderFlags.none, Bool.false_eq_true, if_false,
        Option.map_none]

end RTPSender

end DShowCapture
