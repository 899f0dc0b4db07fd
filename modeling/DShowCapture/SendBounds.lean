/-
Whether the loop of `SendH264Nalu` stays inside its buffers.

`AddNALU` takes a start code that it finds at the beginning of the block off the entry that it
adds, and the length of a NAL unit that is shorter wraps around.  The copies for such an entry
leave the block or the packet, and then the loop does not come to its end.
-/
import DShowCapture.Capacity
import DShowCapture.SendLoop

namespace DShowCapture

open ByteMemory FixedWidth Logged AnnexB

/-- The size of `byDest`, the packet of `SendH264Nalu`. -/
def destSize : Nat := 1500

/-! ### Copies into the packet -/

theorem RTPFrame.frame_setPayloadSize (rtp : RTPFrame) (size : Int) :
    (rtp.setPayloadSize size).frame = rtp.frame :=
  rfl

namespace H264Frame

structure PayloadCopy.InBounds (copied : PayloadCopy) : Prop where
  source : copied.source + copied.count ≤ maxFrameSize
  target : copied.target + copied.count ≤ destSize

def PayloadCopy.perform (copied : PayloadCopy) (source packet : Memory) : Memory :=
  copy packet copied.target source copied.source copied.count

theorem target_singleCopy {rtp : RTPFrame} (plain : rtp.Plain) (data : Nat) {len : Nat}
    (small : len < 65536) : (singleCopy rtp data len).target = 12 := by
  rw [singleCopy, i32_natCast len (by omega)]
  exact RTPFrame.getPayloadPtr_of_plain (RTPFrame.plain_setPayloadSize plain len).1

theorem target_fragmentCopy {rtp : RTPFrame} (plain : rtp.Plain) (header : UInt8 × UInt8)
    (data : Nat) {len : Nat} (small : u32 (len + 2) < 65536) :
    (fragmentCopy rtp header data len).target = 14 := by
  obtain ⟨sizedPlain, _⟩ := RTPFrame.plain_setPayloadSize plain (u32 (len + 2))
  have pointer := RTPFrame.getPayloadPtr_of_plain sizedPlain
  simp only [fragmentCopy, i32_natCast (u32 (len + 2)) (by omega), pointer, store]
  rw [RTPFrame.getPayloadPtr_of_plain (sizedPlain.overwrite (by decide) _ _ _)]

theorem frame_header_of_behind (rtp : RTPFrame) (timestamp : Nat) (marker : Bool)
    {address : Nat} (behind : 14 ≤ address) :
    ((rtp.setTimestamp timestamp).setMarker marker).frame address = rtp.frame address := by
  rw [RTPFrame.frame_setMarker_of_ne _ _ _ (by omega),
    RTPFrame.frame_setTimestamp_of_outside _ _ _ (Or.inr (by omega))]

theorem frame_fillFragment {rtp : RTPFrame} (plain : rtp.Plain) (header : UInt8 × UInt8)
    (source : Memory) (data : Nat) {len : Nat} (small : u32 (len + 2) < 65536)
    (timestamp : Nat) (marker : Bool) {address : Nat} (behind : 14 ≤ address) :
    (fillFragment rtp header source data len timestamp marker).frame address =
      (fragmentCopy rtp header data len).perform source rtp.frame address := by
  obtain ⟨sizedPlain, _⟩ := RTPFrame.plain_setPayloadSize plain (u32 (len + 2))
  have pointer := RTPFrame.getPayloadPtr_of_plain sizedPlain
  have target := target_fragmentCopy plain header data small
  rw [fillFragment, frame_header_of_behind _ _ _ behind, PayloadCopy.perform]
  simp only [fragmentCopy, i32_natCast (u32 (len + 2)) (by omega), pointer] at target ⊢
  rw [target]
  by_cases inside : 14 ≤ address ∧ address < 14 + len
  · rw [copy, copy, if_pos inside, if_pos inside]
  · rw [copy, copy, if_neg inside, if_neg inside, store]
    exact copy_of_ge _ _ _ _ _ _ (by simp only [List.length_cons, List.length_nil]; omega)

theorem small_curFULen {frame : H264Frame} (limit : frame.maxPayloadSize < 65536)
    (atLeastThree : 3 ≤ frame.maxPayloadSize) : u32 (frame.curFULen + 2) < 65536 := by
  rw [curFULen]
  cases isLast : frame.lastFragment with
  | true =>
      rw [lastFragment, decide_eq_true_iff] at isLast
      rw [if_pos rfl]
      exact Nat.lt_of_le_of_lt isLast limit
  | false =>
      rw [if_neg Bool.false_ne_true]
      unfold u32
      omega

theorem frame_sendFragment {frame : H264Frame} (limit : frame.maxPayloadSize < 65536)
    (atLeastThree : 3 ≤ frame.maxPayloadSize) (first : Bool) {rtp : RTPFrame}
    (plain : rtp.Plain) (flags : CoderFlags) {address : Nat} (behind : 14 ≤ address) :
    (frame.sendFragment first rtp flags).frame.frame address =
      (frame.fragmentCopies first rtp).foldl (fun packet copied =>
        copied.perform frame.encodedFrame packet) rtp.frame address := by
  by_cases positive : 0 < frame.currentNALFURemainingLen
  · have filled : (frame.sendFragment first rtp flags).frame =
        fillFragment rtp (frame.fragmentHeader first) frame.encodedFrame
          (frame.currentNALFURemainingDataPtr.getD 0) frame.curFULen frame.timestamp
          (frame.lastFragment && frame.lastNAL) := by
      rw [sendFragment, if_pos positive]
    have copied := frame_fillFragment plain (frame.fragmentHeader first) frame.encodedFrame
      (frame.currentNALFURemainingDataPtr.getD 0) (small_curFULen limit atLeastThree)
      frame.timestamp (frame.lastFragment && frame.lastNAL) behind
    rw [filled, fragmentCopies, if_pos positive, List.foldl_cons, List.foldl_nil]
    exact copied
  · rw [sendFragment, if_neg positive, fragmentCopies, if_neg positive, List.foldl_nil]

/-- Behind the headers the packet holds what the copies put there, and nothing else changes. -/
theorem frame_getRTPFrame {frame : H264Frame} (limit : frame.maxPayloadSize < 65536)
    (atLeastThree : 3 ≤ frame.maxPayloadSize) {rtp : RTPFrame} (plain : rtp.Plain)
    {address : Nat} (behind : 14 ≤ address) :
    (frame.getRTPFrame rtp).frame.frame address =
      (frame.payloadCopies rtp).foldl (fun packet copied =>
        copied.perform frame.encodedFrame packet) rtp.frame address := by
  by_cases current : frame.currentNAL < frame.numberOfNALsInFrame
  · by_cases long : (frame.nals frame.currentNAL).length > frame.maxPayloadSize
    · have filled : frame.getRTPFrame rtp =
          (if frame.atFUStart then frame.beginFU else frame).sendFragment frame.atFUStart rtp
            { CoderFlags.none with iFrame := frame.isSync } := by
        rw [getRTPFrame, if_pos current, if_pos long, encapsulateFU]
      have copies : frame.payloadCopies rtp =
          (if frame.atFUStart then frame.beginFU else frame).fragmentCopies frame.atFUStart
            rtp := by
        rw [payloadCopies, if_pos current, if_pos long]
      have limitEq : (if frame.atFUStart then frame.beginFU else frame).maxPayloadSize =
          frame.maxPayloadSize := by
        split <;> rfl
      have blockEq : (if frame.atFUStart then frame.beginFU else frame).encodedFrame =
          frame.encodedFrame := by
        split <;> rfl
      have sent := frame_sendFragment (by rw [limitEq]; exact limit)
        (by rw [limitEq]; exact atLeastThree) frame.atFUStart plain
        { CoderFlags.none with iFrame := frame.isSync } behind
      rw [filled, copies, sent, blockEq]
    · have filled : (frame.getRTPFrame rtp).frame =
          fillSingle rtp frame.encodedFrame (frame.nals frame.currentNAL).offset
            (frame.nals frame.currentNAL).length frame.timestamp frame.lastNAL := by
        rw [getRTPFrame, if_pos current, if_neg long]
      have copies : frame.payloadCopies rtp =
          [singleCopy rtp (frame.nals frame.currentNAL).offset
            (frame.nals frame.currentNAL).length] := by
        rw [payloadCopies, if_pos current, if_neg long]
      rw [filled, copies, fillSingle, frame_header_of_behind _ _ _ behind, List.foldl_cons,
        List.foldl_nil, PayloadCopy.perform, singleCopy]
      rw [RTPFrame.frame_setPayloadSize]
  · rw [getRTPFrame, if_neg current, payloadCopies, if_neg current, List.foldl_nil]

/-! ### What is left of a frame -/

def unitStart (frame : H264Frame) : Nat :=
  if frame.atFUStart then (frame.nals frame.currentNAL).offset
  else frame.currentNALFURemainingDataPtr.getD 0

def LaterInside (frame : H264Frame) : Prop :=
  ∀ index, frame.currentNAL < index → index < frame.numberOfNALsInFrame →
    (frame.nals index).offset + (frame.nals index).length ≤ maxFrameSize

structure EndsInside (frame : H264Frame) : Prop where
  current : frame.hasRTPFrames = true → frame.unitStart + frame.unitLeft ≤ maxFrameSize
  later : frame.LaterInside

structure Resumable (frame : H264Frame) : Prop extends InRange frame where
  small : frame.maxPayloadSize ≤ 1400
  remaining : frame.currentNALFURemainingLen < 4294967296
  fragmented : frame.atFUStart = false →
    frame.maxPayloadSize < (frame.nals frame.currentNAL).length

theorem endsInside_of_closed {frame next : H264Frame} (countEq :
      next.numberOfNALsInFrame = frame.numberOfNALsInFrame) (nalsEq : next.nals = frame.nals)
    (currentEq : next.currentNAL = frame.currentNAL + 1) (closed : next.atFUStart = true) :
    next.EndsInside ↔ frame.LaterInside := by
  have startEq : next.unitStart + next.unitLeft =
      (frame.nals (frame.currentNAL + 1)).offset + (frame.nals (frame.currentNAL + 1)).length := by
    rw [unitStart, unitLeft, if_pos closed, if_pos closed, nalsEq, currentEq]
  have someLeft : next.hasRTPFrames = true ↔ frame.currentNAL + 1 < frame.numberOfNALsInFrame := by
    rw [hasRTPFrames, countEq, currentEq, decide_eq_true_iff]
  constructor
  · rintro ⟨current, later⟩ index behind inRange
    by_cases isNext : index = frame.currentNAL + 1
    · rw [isNext] at inRange ⊢
      rw [← startEq]
      exact current (someLeft.mpr inRange)
    · have inside := later index (by omega) (by rw [countEq]; exact inRange)
      rw [nalsEq] at inside
      exact inside
  · intro inside
    constructor
    · intro left
      rw [startEq]
      exact inside _ (Nat.lt_succ_self _) (someLeft.mp left)
    · intro index behind inRange
      rw [nalsEq]
      exact inside index (by omega) (by rw [← countEq]; exact inRange)

theorem endsInside_iff {frame : H264Frame}
    (current : frame.currentNAL < frame.numberOfNALsInFrame) :
    frame.EndsInside ↔
      frame.unitStart + frame.unitLeft ≤ maxFrameSize ∧ frame.LaterInside := by
  constructor
  · rintro ⟨inside, later⟩
    exact ⟨inside (decide_eq_true current), later⟩
  · rintro ⟨inside, later⟩
    exact ⟨fun _ => inside, later⟩

theorem endsInside_of_open {frame next : H264Frame} (countEq :
      next.numberOfNALsInFrame = frame.numberOfNALsInFrame) (nalsEq : next.nals = frame.nals)
    (currentEq : next.currentNAL = frame.currentNAL) (isOpen : next.atFUStart = false)
    (current : frame.currentNAL < frame.numberOfNALsInFrame) :
    next.EndsInside ↔
      next.currentNALFURemainingDataPtr.getD 0 + next.currentNALFURemainingLen ≤
        maxFrameSize ∧ frame.LaterInside := by
  rw [endsInside_iff (by rw [countEq, currentEq]; exact current), unitStart, unitLeft, isOpen,
    if_neg Bool.false_ne_true, if_neg Bool.false_ne_true, LaterInside, LaterInside, countEq,
    nalsEq, currentEq]

theorem inBounds_fragmentCopy_iff {rtp : RTPFrame} (plain : rtp.Plain)
    (header : UInt8 × UInt8) (data : Nat) {len : Nat} (small : u32 (len + 2) < 65536) :
    (fragmentCopy rtp header data len).InBounds ↔
      data + len ≤ maxFrameSize ∧ 14 + len ≤ destSize := by
  have target := target_fragmentCopy plain header data small
  constructor
  · rintro ⟨source, inPacket⟩
    rw [target] at inPacket
    exact ⟨source, inPacket⟩
  · rintro ⟨source, inPacket⟩
    constructor
    · exact source
    · rw [target]
      exact inPacket

/-- What sending a fragment leaves of the frame lies in the block, and so does the fragment,
when what was left before does. -/
theorem endsInside_sendFragment {frame : H264Frame} (bounded : frame.InRange)
    (small : frame.maxPayloadSize ≤ 1400)
    (current : frame.currentNAL < frame.numberOfNALsInFrame)
    (long : frame.maxPayloadSize < (frame.nals frame.currentNAL).length)
    (positive : 0 < frame.currentNALFURemainingLen)
    (remaining : frame.currentNALFURemainingLen < 4294967296) (first : Bool) {rtp : RTPFrame}
    (plain : rtp.Plain) (flags : CoderFlags) :
    let next := (frame.sendFragment first rtp flags).self
    next.Resumable ∧
      (frame.currentNALFURemainingDataPtr.getD 0 + frame.currentNALFURemainingLen ≤
            maxFrameSize ∧ frame.LaterInside ↔
        (∀ copied, copied ∈ frame.fragmentCopies first rtp → copied.InBounds) ∧
          next.EndsInside) := by
  have limit := bounded.limit
  have atLeastThree := bounded.atLeastThree
  obtain ⟨nextNAL, _⟩ := lastNAL_eq_not_lt bounded current
  have copiedIff := inBounds_fragmentCopy_iff plain (frame.fragmentHeader first)
    (frame.currentNALFURemainingDataPtr.getD 0) (small_curFULen limit atLeastThree)
  rw [fragmentCopies, if_pos positive, List.forall_mem_singleton, copiedIff]
  cases isLast : frame.lastFragment with
  | true =>
      have lenEq : frame.curFULen = frame.currentNALFURemainingLen := by
        rw [curFULen, isLast, if_pos rfl]
      have drained : u32 ((frame.currentNALFURemainingLen : Int) -
          frame.currentNALFURemainingLen) = 0 := by
        unfold u32
        omega
      rw [lastFragment, decide_eq_true_iff] at isLast
      simp only [sendFragment, if_pos positive, lenEq, drained, endFU, if_true, nextNAL]
      have closedIff : ({ frame with
          currentNAL := frame.currentNAL + 1
          currentNALFURemainingLen := 0
          currentNALFURemainingDataPtr := none } : H264Frame).EndsInside ↔
          frame.LaterInside := endsInside_of_closed rfl rfl rfl rfl
      rw [closedIff]
      constructor
      · exact
          { toInRange := bounded.of_same rfl rfl rfl
            small := small
            remaining := Nat.zero_lt_succ _
            fragmented := fun isOpen => by cases isOpen }
      · have fits : frame.currentNALFURemainingDataPtr.getD 0 + frame.currentNALFURemainingLen ≤
            maxFrameSize → 14 + frame.currentNALFURemainingLen ≤ destSize := by
          unfold u32 at isLast
          unfold maxFrameSize destSize
          omega
        constructor
        · rintro ⟨inside, later⟩
          exact ⟨⟨inside, fits inside⟩, later⟩
        · rintro ⟨⟨inside, _⟩, later⟩
          exact ⟨inside, later⟩
  | false =>
      have sliceEq : frame.curFULen = frame.maxPayloadSize - 2 := by
        rw [curFULen, isLast, if_neg Bool.false_ne_true]
        unfold u32
        omega
      rw [lastFragment, decide_eq_false_iff_not] at isLast
      have leftEq : u32 ((frame.currentNALFURemainingLen : Int) -
            (frame.maxPayloadSize - 2 : Nat)) + (frame.maxPayloadSize - 2) =
          frame.currentNALFURemainingLen ∧
          0 < u32 ((frame.currentNALFURemainingLen : Int) - (frame.maxPayloadSize - 2 : Nat)) := by
        unfold u32 at isLast ⊢
        omega
      obtain ⟨restEq, restPositive⟩ := leftEq
      have notDrained := Nat.ne_of_gt restPositive
      simp only [sendFragment, if_pos positive, sliceEq, endFU, notDrained, if_false]
      generalize u32 ((frame.currentNALFURemainingLen : Int) -
        (frame.maxPayloadSize - 2 : Nat)) = rest at restEq restPositive notDrained
      have isOpen : ({ frame with
          currentNALFURemainingDataPtr :=
            some (frame.currentNALFURemainingDataPtr.getD 0 + (frame.maxPayloadSize - 2))
          currentNALFURemainingLen := rest } : H264Frame).atFUStart = false := by
        simp only [atFUStart, Option.isNone_some, Bool.or_false, beq_eq_false_iff_ne]
        exact notDrained
      have openIff : ({ frame with
          currentNALFURemainingDataPtr :=
            some (frame.currentNALFURemainingDataPtr.getD 0 + (frame.maxPayloadSize - 2))
          currentNALFURemainingLen := rest } : H264Frame).EndsInside ↔
          frame.currentNALFURemainingDataPtr.getD 0 + (frame.maxPayloadSize - 2) + rest ≤
            maxFrameSize ∧ frame.LaterInside := endsInside_of_open rfl rfl rfl isOpen current
      rw [openIff]
      constructor
      · exact
          { toInRange := bounded.of_same rfl rfl rfl
            small := small
            remaining := Nat.lt_of_le_of_lt (restEq ▸ Nat.le_add_right _ _) remaining
            fragmented := fun _ => long }
      · have fits : 14 + (frame.maxPayloadSize - 2) ≤ destSize := by
          unfold destSize
          omega
        rw [← restEq]
        constructor
        · rintro ⟨inside, later⟩
          exact ⟨⟨by omega, fits⟩, by omega, later⟩
        · rintro ⟨_, inside, later⟩
          exact ⟨by omega, later⟩

theorem inBounds_singleCopy_iff {rtp : RTPFrame} (plain : rtp.Plain) (data : Nat) {len : Nat}
    (small : len ≤ 1400) : (singleCopy rtp data len).InBounds ↔ data + len ≤ maxFrameSize := by
  have target := target_singleCopy plain data (Nat.lt_of_le_of_lt small (by decide))
  constructor
  · exact fun inside => inside.source
  · intro inside
    constructor
    · exact inside
    · rw [target]
      change 12 + len ≤ destSize
      unfold destSize
      omega

/-- What is left of a frame lies in the block exactly when the copies of the next call are in
bounds and what that call leaves lies in the block. -/
theorem endsInside_getRTPFrame {frame : H264Frame} (resumable : frame.Resumable)
    (someLeft : frame.hasRTPFrames = true) {rtp : RTPFrame} (plain : rtp.Plain) :
    (frame.getRTPFrame rtp).self.Resumable ∧
      (frame.EndsInside ↔
        (∀ copied, copied ∈ frame.payloadCopies rtp → copied.InBounds) ∧
          (frame.getRTPFrame rtp).self.EndsInside) := by
  have bounded := resumable.toInRange
  have small := resumable.small
  have current := of_decide_eq_true someLeft
  rw [endsInside_iff current, unitStart, unitLeft, payloadCopies, getRTPFrame, if_pos current,
    if_pos current]
  by_cases long : (frame.nals frame.currentNAL).length > frame.maxPayloadSize
  · simp only [if_pos long, encapsulateFU]
    cases isStart : frame.atFUStart with
    | true =>
        have atLeastThree := bounded.atLeastThree
        have lengthBound := bounded.lengths _ current
        have restLen := currentNALFURemainingLen_beginFU frame (by omega) lengthBound
        have begun : frame.beginFU.InRange := bounded.of_same rfl rfl rfl
        have sent := endsInside_sendFragment begun small current long (by omega) (by omega) true
          plain { CoderFlags.none with iFrame := frame.isSync }
        have whole : frame.beginFU.currentNALFURemainingDataPtr.getD 0 +
            frame.beginFU.currentNALFURemainingLen =
            (frame.nals frame.currentNAL).offset + (frame.nals frame.currentNAL).length := by
          rw [restLen, beginFU, Option.getD_some]
          omega
        rw [whole] at sent
        exact sent
    | false =>
        have positive : 0 < frame.currentNALFURemainingLen := by
          rw [atFUStart, Bool.or_eq_false_iff, beq_eq_false_iff_ne] at isStart
          exact Nat.pos_of_ne_zero isStart.1
        exact endsInside_sendFragment bounded small current long positive resumable.remaining
          false plain { CoderFlags.none with iFrame := frame.isSync }
  · obtain ⟨nextNAL, _⟩ := lastNAL_eq_not_lt bounded current
    have isStart : frame.atFUStart = true := by
      rw [← Bool.not_eq_false]
      exact fun isOpen => long (resumable.fragmented isOpen)
    have closedIff : ({ frame with currentNAL := frame.currentNAL + 1 } : H264Frame).EndsInside ↔
        frame.LaterInside := endsInside_of_closed rfl rfl rfl isStart
    simp only [if_neg long, isStart, if_true, nextNAL, List.forall_mem_singleton]
    rw [inBounds_singleCopy_iff plain _ (by omega), closedIff]
    refine ⟨?_, Iff.rfl⟩
    exact
      { toInRange := bounded.of_same rfl rfl rfl
        small := small
        remaining := resumable.remaining
        fragmented := fun isOpen => absurd (isStart.symm.trans isOpen) (by decide) }

/-! ### What staging leaves -/

/-- What `AddNALU` takes off an entry for the start code at the beginning of the block. -/
def startCodeLength (memory : Memory) : Nat :=
  if isStartCode memory 0 then (if memory 2 == 1 then 3 else 4) else 0

theorem startCodeLength_le (memory : Memory) : startCodeLength memory ≤ 4 := by
  rw [startCodeLength]
  split
  · split <;> decide
  · exact Nat.zero_le 4

/-- No NAL unit is shorter than the start code that stands at the beginning of the block once
it has been staged behind the others. -/
def StartsApart (leftover : Memory) (units : List (List UInt8)) : Prop :=
  ∀ front unit, front ++ [unit] <+: units →
    startCodeLength (store leftover 0 (front ++ [unit]).flatten) ≤ unit.length

theorem startsApart_concat_iff (leftover : Memory) (units : List (List UInt8))
    (unit : List UInt8) :
    StartsApart leftover (units ++ [unit]) ↔
      StartsApart leftover units ∧
        startCodeLength (store leftover 0 (units ++ [unit]).flatten) ≤ unit.length := by
  constructor
  · intro apart
    constructor
    · intro front earlier isPrefix
      exact apart front earlier (isPrefix.trans (List.prefix_append _ _))
    · exact apart units unit (List.prefix_refl _)
  · rintro ⟨apart, last⟩ front earlier isPrefix
    rcases List.prefix_concat_iff.mp isPrefix with whole | shorter
    · obtain ⟨rfl, same⟩ := List.append_inj' whole rfl
      obtain rfl := List.singleton_inj.mp same
      exact last
    · exact apart front earlier shorter

/-- The start code of the test is that of the first NAL unit, and most NAL units do not begin
with one. -/
theorem startsApart_of_guardsStart (leftover : Memory) {unit : List UInt8}
    (rest : List (List UInt8)) (guards : GuardsStart unit) :
    StartsApart leftover (unit :: rest) := by
  intro front last isPrefix
  obtain ⟨behind, shape⟩ : ∃ behind, front ++ [last] = unit :: behind := by
    obtain ⟨tail, whole⟩ := isPrefix
    cases front with
    | nil => exact ⟨[], by rw [List.nil_append, (List.cons.inj whole).1]⟩
    | cons first others =>
        exact ⟨others ++ [last], by rw [List.cons_append, (List.cons.inj whole).1]⟩
  have held := read_store_self leftover 0 (unit :: behind).flatten
  rw [List.flatten_cons] at held
  have noStartCode := guards _ (split_of_read_eq held).1
  rw [startCodeLength, shape, List.flatten_cons, noStartCode, if_neg Bool.false_ne_true]
  exact Nat.zero_le _

/-- Two zero bytes in front of a one that an earlier frame left in the block. -/
example : ¬ StartsApart (ofBytes [0xaa, 0xaa, 1]) [[0, 0]] :=
  fun apart => absurd (apart [] [0, 0] (List.prefix_refl _)) (by decide)

structure StagedOver (frame : H264Frame) (leftover : Memory) (units : List (List UInt8)) :
    Prop where
  count : frame.numberOfNALsInFrame = units.length
  length : frame.encodedFrameLen = units.flatten.length
  block : frame.encodedFrame = store leftover 0 units.flatten
  entries : (∀ index, index < units.length →
      (frame.nals index).offset + (frame.nals index).length ≤ maxFrameSize) ↔
    StartsApart leftover units

theorem stagedOver_beginNewFrame (frame : H264Frame) (numberOfNALs : Nat) :
    (frame.beginNewFrame numberOfNALs).StagedOver frame.encodedFrame [] := by
  refine { count := rfl, length := rfl, block := (store_nil _ _).symm, entries := ?_ }
  constructor
  · intro _ front unit isPrefix
    have empty := List.prefix_nil.mp isPrefix
    rw [List.append_eq_nil_iff] at empty
    cases empty.2
  · exact fun _ _ inRange => absurd inRange (Nat.not_lt_zero _)

theorem stagedOver_addNALU {frame : H264Frame} {leftover : Memory} {units : List (List UInt8)}
    (staged : frame.StagedOver leftover units) (call : NALUArgs)
    (total : (units ++ [call.bytes]).flatten.length ≤ maxFrameSize)
    (few : units.length < 4294967295) :
    (frame.addNALU call.type call.length call.source call.payload).value.StagedOver leftover
      (units ++ [call.bytes]) := by
  have countEq := staged.count
  have lengthEq := staged.length
  have callLength : call.bytes.length = call.length := length_read _ _ _
  have totalEq : (units ++ [call.bytes]).flatten.length =
      units.flatten.length + call.bytes.length := by
    rw [List.flatten_append, List.flatten_singleton, List.length_append]
  have blockEq : copy frame.encodedFrame frame.encodedFrameLen call.source call.payload
      call.length = store leftover 0 (units ++ [call.bytes]).flatten := by
    have appended := store_append leftover 0 units.flatten call.bytes
    rw [Nat.zero_add] at appended
    rw [copy_eq_store, staged.block, lengthEq, List.flatten_append, List.flatten_singleton]
    exact appended
  have nextCount : u32 (units.length + 1) = units.length + 1 := by
    unfold u32
    omega
  have nextLength : u32 (frame.encodedFrameLen + call.length) =
      (units ++ [call.bytes]).flatten.length := by
    unfold maxFrameSize at total
    unfold u32
    omega
  have headerBound := startCodeLength_le (store leftover 0 (units ++ [call.bytes]).flatten)
  simp only [addNALU, value_bind, value_pure, blockEq, countEq, nextCount, nextLength]
  rw [← startCodeLength.eq_def]
  generalize headerEq :
    startCodeLength (store leftover 0 (units ++ [call.bytes]).flatten) = header at headerBound
  have entryIff : u32 (frame.encodedFrameLen + header) + u32 (call.length - header) ≤
      maxFrameSize ↔ header ≤ call.bytes.length := by
    unfold maxFrameSize at total ⊢
    unfold u32
    omega
  refine { count := ?_, length := rfl, block := rfl, entries := ?_ }
  · rw [List.length_append, List.length_singleton]
  · rw [startsApart_concat_iff, headerEq, ← staged.entries, ← entryIff]
    constructor
    · intro inside
      constructor
      · intro index inRange
        have earlier := inside index (by rw [List.length_append]; omega)
        simp only [Function.update_of_ne (Nat.ne_of_lt inRange)] at earlier
        exact earlier
      · have last := inside units.length (by rw [List.length_append, List.length_singleton]; omega)
        simp only [Function.update_self] at last
        exact last
    · rintro ⟨inside, last⟩ index inRange
      rw [List.length_append, List.length_singleton] at inRange
      by_cases isNew : index = units.length
      · subst isNew
        simp only [Function.update_self]
        exact last
      · simp only [Function.update_of_ne isNew]
        exact inside index (by omega)

theorem stagedOver_addNALUs {frame : H264Frame} {leftover : Memory} {units : List (List UInt8)}
    (staged : frame.StagedOver leftover units) (calls : List NALUArgs)
    (total : (units ++ calls.map NALUArgs.bytes).flatten.length ≤ maxFrameSize)
    (few : units.length + calls.length < 4294967296) :
    (frame.addNALUs calls).value.StagedOver leftover (units ++ calls.map NALUArgs.bytes) := by
  induction calls generalizing frame units with
  | nil => simpa [addNALUs] using staged
  | cons call rest ih =>
      have split : units ++ (call :: rest).map NALUArgs.bytes =
          (units ++ [call.bytes]) ++ rest.map NALUArgs.bytes := by simp
      rw [List.length_cons] at few
      rw [split] at total ⊢
      have totalNext : (units ++ [call.bytes]).flatten.length ≤ maxFrameSize := by
        rw [List.flatten_append, List.length_append] at total
        omega
      have stagedNext := stagedOver_addNALU staged call totalNext (by omega)
      simp only [addNALUs, value_bind]
      apply ih stagedNext total
      rw [List.length_append, List.length_singleton]
      omega

theorem remaining_addNALUs (frame : H264Frame) (calls : List NALUArgs) :
    (frame.addNALUs calls).value.currentNALFURemainingLen = frame.currentNALFURemainingLen := by
  induction calls generalizing frame with
  | nil => rfl
  | cons call rest ih =>
      simp only [addNALUs, value_bind]
      exact (ih _).trans rfl

theorem endsInside_of_stagedOver {frame : H264Frame} {leftover : Memory}
    {units : List (List UInt8)} (staged : frame.StagedOver leftover units)
    (unsent : frame.Unsent) : frame.EndsInside ↔ StartsApart leftover units := by
  have startEq : frame.unitStart + frame.unitLeft =
      (frame.nals 0).offset + (frame.nals 0).length := by
    rw [unitStart, unitLeft, unsent.start, unsent.current, if_pos rfl, if_pos rfl]
  rw [← staged.entries, ← staged.count]
  constructor
  · rintro ⟨current, later⟩ index inRange
    rcases Nat.eq_zero_or_pos index with rfl | positive
    · rw [← startEq]
      apply current
      rw [hasRTPFrames, unsent.current]
      exact decide_eq_true inRange
    · apply later index _ inRange
      rw [unsent.current]
      exact positive
  · intro inside
    constructor
    · intro someLeft
      rw [hasRTPFrames, unsent.current] at someLeft
      rw [startEq]
      exact inside 0 (of_decide_eq_true someLeft)
    · exact fun index _ inRange => inside index inRange

theorem endsInside_of_drained {frame : H264Frame} (drained : frame.hasRTPFrames = false) :
    frame.EndsInside := by
  have atEnd := of_decide_eq_false drained
  constructor
  · intro someLeft
    rw [drained] at someLeft
    cases someLeft
  · intro index behind inRange
    omega

end H264Frame

namespace CH264EncodeRtp

theorem stagedOver_stageFrame {self : CH264EncodeRtp}
    (drained : self.encapsulation.hasRTPFrames = false) {src : Memory} {srcLen : Nat}
    (small : srcLen < 4294967296)
    (total : (stagedUnits src srcLen).flatten.length ≤ maxFrameSize) :
    let frame := (self.stageFrame src srcLen).value
    frame.StagedOver self.encapsulation.encodedFrame (stagedUnits src srcLen) ∧
      frame.Unsent ∧ frame.currentNALFURemainingLen = 0 := by
  have bytesEq := bytes_map_naluArgs src small
  have sizes := (length_stagedUnits_le src srcLen).1
  rw [value_stageFrame, drained]
  simp only [Bool.false_eq_true, if_false]
  generalize (getNalSize src maxNalSize 0 srcLen).value = nals at bytesEq ⊢
  have countEq := congrArg List.length bytesEq
  rw [List.length_map, List.length_map] at countEq
  unfold maxNalSize at sizes
  have begun := H264Frame.staged_beginNewFrame self.encapsulation nals.length
  have kept := H264Frame.frame_addNALUs (self.encapsulation.beginNewFrame nals.length)
    (nals.map (naluArgs src))
  have staged := H264Frame.stagedOver_addNALUs
    (H264Frame.stagedOver_beginNewFrame self.encapsulation nals.length)
    (nals.map (naluArgs src))
    (by rw [List.nil_append, bytesEq]; exact total)
    (by rw [List.length_map, List.length_nil]; omega)
  rw [List.nil_append, bytesEq] at staged
  exact ⟨staged, kept.2 begun.2, H264Frame.remaining_addNALUs _ _⟩

theorem safe_encodeFrames_of_busy {self : CH264EncodeRtp}
    (busy : self.encapsulation.hasRTPFrames = true) (src : Memory) (srcLen : Nat)
    (dst : Memory) (dstLen : Nat) :
    Safe RtpAccess.StoreInBounds (self.encodeFrames src srcLen dst dstLen) := by
  rw [encodeFrames, safe_bind, stageFrame, busy]
  simp only [if_true, safe_pure, and_true]

end CH264EncodeRtp

/-! ### The rounds of the loop -/

namespace RTPSender

structure RoundStaysInside (sender : RTPSender) (h264buf : Memory) (buflen : Nat) : Prop where
  stores : Safe RtpAccess.StoreInBounds
    (sender.h264Rtp.encodeFrames h264buf buflen (fun _ => 0) 1212)
  copies : ∀ copied, copied ∈ (sender.h264Rtp.stageFrame h264buf buflen).value.payloadCopies
    { frame := fun _ => 0, frameLen := i32 1212 } → copied.InBounds

def StaysInside (clock : Nat → Int) (h264buf : Memory) (buflen : Nat) :
    Nat → RTPSender → Prop
  | 0, _ => True
  | rounds + 1, self =>
      self.RoundStaysInside h264buf buflen ∧
        ((self.sendRound clock h264buf buflen).done = false →
          StaysInside clock h264buf buflen rounds (self.sendRound clock h264buf buflen).self)

/-- The rounds stay inside exactly when staging does and what it left lies in the block. -/
theorem staysInside_iff (clock : Nat → Int) {h264buf : Memory} {buflen : Nat} {rounds : Nat}
    {self final : RTPSender} {sent : List SentPacket}
    (run : sendH264Nalu clock h264buf buflen rounds self = some (final, sent))
    (resumable : (self.h264Rtp.stageFrame h264buf buflen).value.Resumable)
    (someLeft : (self.h264Rtp.stageFrame h264buf buflen).value.hasRTPFrames = true) :
    StaysInside clock h264buf buflen rounds self ↔
      Safe RtpAccess.StoreInBounds
          (self.h264Rtp.encodeFrames h264buf buflen (fun _ => 0) 1212) ∧
        (self.h264Rtp.stageFrame h264buf buflen).value.EndsInside := by
  induction rounds generalizing self final sent with
  | zero => cases run
  | succ rounds ih =>
      have advances := H264Frame.advances_getRTPFrame resumable.toInRange someLeft plain_byDest
      obtain ⟨nextResumable, insideIff⟩ :=
        H264Frame.endsInside_getRTPFrame resumable someLeft plain_byDest
      obtain ⟨selfEq, doneEq⟩ := value_sendRound clock self h264buf buflen
      rw [advances.flagged, ← selfEq] at doneEq
      rw [← selfEq] at nextResumable insideIff
      have laterIff : ((self.sendRound clock h264buf buflen).done = false →
            StaysInside clock h264buf buflen rounds
              (self.sendRound clock h264buf buflen).self) ↔
          (self.sendRound clock h264buf buflen).self.h264Rtp.encapsulation.EndsInside := by
        cases leftEq :
          (self.sendRound clock h264buf buflen).self.h264Rtp.encapsulation.hasRTPFrames with
        | false =>
            rw [leftEq] at doneEq
            rw [doneEq]
            exact ⟨fun _ => H264Frame.endsInside_of_drained leftEq, fun _ ended => by cases ended⟩
        | true =>
            rw [leftEq] at doneEq
            have kept := CH264EncodeRtp.stageFrame_of_busy leftEq h264buf buflen
            simp only [sendH264Nalu, doneEq, Bool.not_true, Bool.false_eq_true, if_false,
              Option.map_eq_some_iff] at run
            obtain ⟨⟨laterFinal, laterSent⟩, restRun, _⟩ := run
            have later := ih restRun (by rw [kept]; exact nextResumable)
              (by rw [kept]; exact leftEq)
            rw [kept] at later
            rw [doneEq, later]
            constructor
            · exact fun stays => (stays rfl).2
            · exact fun inside _ =>
                ⟨CH264EncodeRtp.safe_encodeFrames_of_busy leftEq _ _ _ _, inside⟩
      rw [StaysInside, laterIff, insideIff]
      constructor
      · rintro ⟨⟨stores, copies⟩, later⟩
        exact ⟨stores, copies, later⟩
      · rintro ⟨stores, copies, later⟩
        exact ⟨⟨stores, copies⟩, later⟩

/-- The buffer holds a start code, the block has room for its NAL units, and none of these is
shorter than a start code that the block begins with. -/
structure Sendable (sender : RTPSender) (h264buf : Memory) (buflen : Nat) : Prop where
  startCode : [0, 0, 1] <:+: read h264buf 0 buflen
  total : (stagedUnits h264buf buflen).flatten.length ≤ maxFrameSize
  apart : H264Frame.StartsApart sender.h264Rtp.encapsulation.encodedFrame
    (stagedUnits h264buf buflen)

/-- The loop of `SendH264Nalu` comes to its end, with nothing left to send and without leaving
its buffers on the way, exactly when the buffer can be sent. -/
theorem sendH264Nalu_returns_iff (clock : Nat → Int) (self : RTPSender)
    (drained : self.h264Rtp.encapsulation.hasRTPFrames = false)
    (limit : self.h264Rtp.encapsulation.maxPayloadSize = 1200) (h264buf : Memory)
    (buflen : Nat) (inRange : buflen < 2147483648) :
    (∃ rounds final sent, sendH264Nalu clock h264buf buflen rounds self = some (final, sent) ∧
        final.h264Rtp.encapsulation.hasRTPFrames = false ∧
        StaysInside clock h264buf buflen rounds self) ↔
      self.Sendable h264buf buflen := by
  have atLeastThree : 3 ≤ self.h264Rtp.encapsulation.maxPayloadSize := by omega
  have small : self.h264Rtp.encapsulation.maxPayloadSize < 65536 := by omega
  have wide : buflen < 4294967296 := by omega
  obtain ⟨bounded, someLeft⟩ := CH264EncodeRtp.bounded_stageFrame drained atLeastThree small
    h264buf buflen
  have storesIff : Safe RtpAccess.StoreInBounds
        (self.h264Rtp.encodeFrames h264buf buflen (fun _ => 0) 1212) ↔
      (stagedUnits h264buf buflen).flatten.length ≤ maxFrameSize :=
    CH264EncodeRtp.safe_encodeFrames_iff drained wide _ _
  have resumable : (stagedUnits h264buf buflen).flatten.length ≤ maxFrameSize →
      (self.h264Rtp.stageFrame h264buf buflen).value.Resumable ∧
        ((self.h264Rtp.stageFrame h264buf buflen).value.EndsInside ↔
          H264Frame.StartsApart self.h264Rtp.encapsulation.encodedFrame
            (stagedUnits h264buf buflen)) := by
    intro total
    obtain ⟨staged, unsent, remaining⟩ :=
      CH264EncodeRtp.stagedOver_stageFrame drained wide total
    refine ⟨?_, H264Frame.endsInside_of_stagedOver staged unsent⟩
    exact
      { toInRange := bounded
        small := by rw [CH264EncodeRtp.maxPayloadSize_stageFrame, limit]; decide
        remaining := by rw [remaining]; decide
        fragmented := fun isOpen => by
          rw [unsent.start] at isOpen
          cases isOpen }
  constructor
  · rintro ⟨rounds, final, sent, run, _, stays⟩
    have present : [0, 0, 1] <:+: read h264buf 0 buflen := by
      by_contra absent
      rw [sendH264Nalu_of_no_startCode clock absent rounds self drained atLeastThree small] at run
      cases run
    have total : (stagedUnits h264buf buflen).flatten.length ≤ maxFrameSize := by
      cases rounds with
      | zero => cases run
      | succ rounds => exact storesIff.mp stays.1.stores
    obtain ⟨ready, insideIff⟩ := resumable total
    have inside := ((staysInside_iff clock run ready (someLeft.mpr present)).mp stays).2
    exact { startCode := present, total := total, apart := insideIff.mp inside }
  · intro sendable
    have busy := someLeft.mpr sendable.startCode
    obtain ⟨ready, insideIff⟩ := resumable sendable.total
    obtain ⟨rounds, final, sent, run, nothingLeft, _⟩ :=
      sendH264Nalu_of_hasRTPFrames clock h264buf buflen _ bounded busy self rfl
    refine ⟨rounds, final, sent, run, nothingLeft, ?_⟩
    exact (staysInside_iff clock run ready busy).mpr
      ⟨storesIff.mpr sendable.total, insideIff.mpr sendable.apart⟩

private def newSender : RTPSender :=
  { h264Rtp :=
      CH264EncodeRtp.setMaxRTPFrameSize
        { encapsulation := H264Frame.new (fun _ => 0) fun _ => default } 1200
    lastTime := 0
    readings := 0 }

theorem sendH264Nalu_returns_iff_sliced :
    let h264buf := ofBytes (write slicedStream)
    let buflen := (write slicedStream).length
    ∃ rounds final sent,
      newSender.sendH264Nalu (fun _ => 1) h264buf buflen rounds = some (final, sent) ∧
        final.h264Rtp.encapsulation.hasRTPFrames = false ∧
        StaysInside (fun _ => 1) h264buf buflen rounds newSender := by
  intro h264buf buflen
  have stagedEq : stagedUnits h264buf buflen = [[0x67, 0x42], [0x68, 0xce], threeFragments] := by
    rw [stagedUnits, units_slicedStream]
    rfl
  apply (sendH264Nalu_returns_iff (fun _ => 1) newSender rfl rfl h264buf buflen
    (length_slicedStream.trans_lt (by decide))).mpr
  refine { startCode := ?_, total := ?_, apart := ?_ }
  · rw [read_ofBytes]
    exact ⟨[0], _, rfl⟩
  · rw [stagedEq, threeFragments]
    simp only [List.flatten_cons, List.flatten_nil, List.length_append, List.length_cons,
      List.length_replicate, List.length_nil]
    decide
  · rw [stagedEq]
    exact H264Frame.startsApart_of_guardsStart _ _ (guardsStart_of_head _ (by decide))

/-- The empty buffer keeps the sender in the loop. -/
theorem sendH264Nalu_never_returns :
    ¬ ∃ rounds final sent,
      sendH264Nalu (fun _ => 1) (fun _ => 0) 0 rounds newSender = some (final, sent) := by
  rintro ⟨rounds, final, sent, run⟩
  rw [sendH264Nalu_of_no_startCode _ (by decide) rounds newSender rfl (by decide) (by decide)]
    at run
  cases run

end RTPSender

end DShowCapture
