/-
The packetizer as a queue of payloads.

A frame object that is being sent stands for the payloads that are still to come: the
rest of the NAL unit under way, and the payloads of the NAL units behind it.  Each call
of `GetRTPFrame` takes the first of them.
-/
import DShowCapture.H264Frame.Encapsulate
import DShowCapture.Library.RFC6184

namespace DShowCapture

open ByteMemory FixedWidth Chunks RFC6184

namespace H264Frame

def unitAt (self : H264Frame) (index : Nat) : List UInt8 :=
  read self.encodedFrame (self.nals index).offset (self.nals index).length

def pendingFrom (self : H264Frame) (index : Nat) : List (List UInt8) :=
  (List.range' index (self.numberOfNALsInFrame - index)).flatMap fun later =>
    nalPayloads self.maxPayloadSize (self.unitAt later)

def currentPayloads (self : H264Frame) : List (List UInt8) :=
  let unit := self.unitAt self.currentNAL
  if self.atFUStart then nalPayloads self.maxPayloadSize unit
  else
    fuRun (unit.headD 0) false
      (chunks (self.maxPayloadSize - 2)
        (unit.drop (unit.length - self.currentNALFURemainingLen)))

def pending (self : H264Frame) : List (List UInt8) :=
  if self.currentNAL < self.numberOfNALsInFrame then
    self.currentPayloads ++ self.pendingFrom (self.currentNAL + 1)
  else []

structure Midway (frame : H264Frame) (sent : Nat) : Prop where
  current : frame.currentNAL < frame.numberOfNALsInFrame
  long : frame.maxPayloadSize < (frame.nals frame.currentNAL).length
  started : 0 < sent
  remaining : 0 < frame.currentNALFURemainingLen
  total : sent + frame.currentNALFURemainingLen = (frame.nals frame.currentNAL).length
  data : frame.currentNALFURemainingDataPtr =
    some ((frame.nals frame.currentNAL).offset + sent)
  header0 : frame.currentNALFUHeader0 =
    fuIndicator ((frame.unitAt frame.currentNAL).headD 0)
  header1 : frame.currentNALFUHeader1 =
    (frame.unitAt frame.currentNAL).headD 0 &&& 0x1f

structure Packetizing (frame : H264Frame) : Prop where
  atLeastThree : 3 ≤ frame.maxPayloadSize
  limit : frame.maxPayloadSize < 65536
  count : frame.numberOfNALsInFrame < 4294967296
  lengths : ∀ index, index < frame.numberOfNALsInFrame →
    (frame.nals index).length < 4294967295
  midway : frame.atFUStart = false → ∃ sent, frame.Midway sent

@[simp] theorem length_unitAt (self : H264Frame) (index : Nat) :
    (self.unitAt index).length = (self.nals index).length :=
  length_read _ _ _

theorem pendingFrom_of_lt {self : H264Frame} {index : Nat}
    (left : index < self.numberOfNALsInFrame) :
    self.pendingFrom index =
      nalPayloads self.maxPayloadSize (self.unitAt index) ++
        self.pendingFrom (index + 1) := by
  have countEq : self.numberOfNALsInFrame - index =
      self.numberOfNALsInFrame - (index + 1) + 1 := by omega
  rw [pendingFrom, countEq, List.range'_succ, List.flatMap_cons]
  rfl

theorem pendingFrom_of_ge {self : H264Frame} {index : Nat}
    (finished : self.numberOfNALsInFrame ≤ index) : self.pendingFrom index = [] := by
  have countEq : self.numberOfNALsInFrame - index = 0 := by omega
  rw [pendingFrom, countEq]
  rfl

theorem pending_of_atFUStart {self : H264Frame} (start : self.atFUStart = true) :
    self.pending = self.pendingFrom self.currentNAL := by
  unfold pending
  split
  · rename_i left
    rw [pendingFrom_of_lt left, currentPayloads, if_pos start]
  · rename_i finished
    rw [pendingFrom_of_ge (by omega)]

theorem lastNAL_eq {self : H264Frame} (packetizing : self.Packetizing)
    (current : self.currentNAL < self.numberOfNALsInFrame) :
    self.lastNAL = (self.pendingFrom (self.currentNAL + 1)).isEmpty := by
  have countBound := packetizing.count
  have noWrap : u32 (self.currentNAL + 1) = self.currentNAL + 1 := by
    unfold u32
    omega
  rw [lastNAL, noWrap]
  by_cases more : self.currentNAL + 1 < self.numberOfNALsInFrame
  · have someLeft : self.pendingFrom (self.currentNAL + 1) ≠ [] := by
      rw [pendingFrom_of_lt more]
      exact List.append_ne_nil_of_left_ne_nil (nalPayloads_ne_nil packetizing.atLeastThree _) _
    have notLast : ¬ self.currentNAL + 1 ≥ self.numberOfNALsInFrame := by omega
    simp [notLast, someLeft]
  · have isLast : self.currentNAL + 1 ≥ self.numberOfNALsInFrame := by omega
    simp [isLast, pendingFrom_of_ge isLast]

theorem Midway.atFUStart {frame : H264Frame} {sent : Nat} (midway : frame.Midway sent) :
    frame.atFUStart = false := by
  have remaining := midway.remaining
  simp [H264Frame.atFUStart, midway.data]
  omega

theorem Midway.pending {frame : H264Frame} {sent : Nat} (midway : frame.Midway sent) :
    frame.pending =
      fuRun ((frame.unitAt frame.currentNAL).headD 0) false
          (chunks (frame.maxPayloadSize - 2) ((frame.unitAt frame.currentNAL).drop sent)) ++
        frame.pendingFrom (frame.currentNAL + 1) := by
  have total := midway.total
  have sentEq : (frame.nals frame.currentNAL).length - frame.currentNALFURemainingLen =
      sent := by omega
  rw [H264Frame.pending, if_pos midway.current, currentPayloads, midway.atFUStart,
    length_unitAt, sentEq]
  rfl

/-! ### One call of `GetRTPFrame` -/

structure Sends (result : Encapsulated) (payload : List UInt8) (rest : List (List UInt8)) :
    Prop where
  returned : result.returned = true
  emits : result.frame.Emits payload rest.isEmpty
  flagged : result.flags.lastFrame = rest.isEmpty
  packetizing : result.self.Packetizing
  pending : result.self.pending = rest

theorem sends_of_emits {next : H264Frame} {rtp : RTPFrame} (flags : CoderFlags)
    {payload : List UInt8} {rest : List (List UInt8)}
    (emits : rtp.Emits payload rest.isEmpty) (packetizing : next.Packetizing)
    (pendingEq : next.pending = rest) :
    Sends
      { returned := true
        self := next
        frame := rtp
        flags := { flags with lastFrame := rtp.getMarker } } payload rest :=
  { returned := rfl
    emits := emits
    flagged := emits.marked
    packetizing := packetizing
    pending := pendingEq }

theorem emits_fillSingle {rtp : RTPFrame} (plain : rtp.Plain) (source : Memory)
    (data len timestamp : Nat) (marker : Bool) (small : len < 65536) :
    (fillSingle rtp source data len timestamp marker).Emits (read source data len)
      marker := by
  obtain ⟨sizedPlain, sizedLen⟩ := RTPFrame.plain_setPayloadSize plain len
  have pointer := RTPFrame.getPayloadPtr_of_plain sizedPlain
  simp only [fillSingle, i32_natCast len (by omega), pointer]
  apply RTPFrame.emits_of_filled
  · exact sizedPlain.overwrite (by decide) source data len
  · rw [length_read]
    exact sizedLen
  · rw [length_read, read_copy_self]

theorem emits_fillFragment {rtp : RTPFrame} (plain : rtp.Plain) (header : UInt8 × UInt8)
    (source : Memory) (data len timestamp : Nat) (marker : Bool) (small : len + 2 < 65536) :
    (fillFragment rtp header source data len timestamp marker).Emits
      (header.1 :: header.2 :: read source data len) marker := by
  have sizeEq : i32 (u32 (len + 2)) = ((len + 2 : Nat) : Int) := by
    unfold i32 u32
    omega
  obtain ⟨sizedPlain, sizedLen⟩ := RTPFrame.plain_setPayloadSize plain (len + 2)
  have headedPlain := sizedPlain.overwrite (Nat.le_refl 12)
    (ofBytes [header.1, header.2]) 0 2
  have pointer := RTPFrame.getPayloadPtr_of_plain sizedPlain
  have headedPointer := RTPFrame.getPayloadPtr_of_plain headedPlain
  have countEq : (header.1 :: header.2 :: read source data len).length = 2 + len := by
    simp only [List.length_cons, length_read]
    omega
  have headerBytes :
      read (copy (rtp.setPayloadSize (len + 2 : Nat)).frame 12
        (ofBytes [header.1, header.2]) 0 2) 12 2 = [header.1, header.2] :=
    read_store_self _ 12 [header.1, header.2]
  simp only [fillFragment, sizeEq, pointer, store, List.length_cons, List.length_nil,
    Nat.zero_add, Nat.reduceAdd, headedPointer]
  apply RTPFrame.emits_of_filled
  · exact headedPlain.overwrite (by decide) source data len
  · rw [countEq, Nat.add_comm 2 len]
    exact sizedLen
  · rw [countEq, read_append, read_copy_before _ _ _ _ _ _ _ (by decide), headerBytes,
      read_copy_self]
    rfl

theorem frameLen_fillFragment {rtp : RTPFrame} (plain : rtp.Plain) (header : UInt8 × UInt8)
    (source : Memory) (data len timestamp : Nat) (marker : Bool)
    (small : u32 (len + 2) < 65536) :
    (fillFragment rtp header source data len timestamp marker).frameLen =
      12 + u32 (len + 2) := by
  have sized := (RTPFrame.plain_setPayloadSize plain (u32 (len + 2))).2
  have sizeEq := i32_natCast (u32 (len + 2)) (by omega)
  simp only [fillFragment, sizeEq, RTPFrame.frameLen_setMarker,
    RTPFrame.frameLen_setTimestamp]
  exact sized

theorem emits_fuPayload {rtp : RTPFrame} (plain : rtp.Plain) (first : UInt8)
    (start last : Bool) (source : Memory) (data len timestamp : Nat) (marker : Bool)
    (small : len + 2 < 65536) :
    (fillFragment rtp (fuIndicator first, fuHeader first start last) source data len
        timestamp marker).Emits (fuPayload first start last (read source data len)) marker := by
  rw [fuPayload]
  exact emits_fillFragment plain (fuIndicator first, fuHeader first start last) source data
    len timestamp marker small

private theorem header1_eq (first : UInt8) (start last : Bool) :
    (if last then (if start then 0x80 ||| (first &&& 0x1f) else first &&& 0x1f) ||| 0x40
      else if start then 0x80 ||| (first &&& 0x1f) else first &&& 0x1f) =
      fuHeader first start last := by
  cases start <;> cases last <;> simp [fuHeader]

theorem Midway.rest {frame : H264Frame} {sent : Nat} (midway : frame.Midway sent) :
    (frame.unitAt frame.currentNAL).drop sent =
      read frame.encodedFrame ((frame.nals frame.currentNAL).offset + sent)
        frame.currentNALFURemainingLen := by
  have total := midway.total
  rw [unitAt, drop_read _ _ _ _ (by omega)]
  congr 1
  omega

def afterSlice (self : H264Frame) (sent size : Nat) : H264Frame :=
  { self with
    currentNALFURemainingDataPtr := some ((self.nals self.currentNAL).offset + sent + size)
    currentNALFURemainingLen := self.currentNALFURemainingLen - size }

theorem Midway.afterSlice {frame : H264Frame} {sent size : Nat} (midway : frame.Midway sent)
    (less : size < frame.currentNALFURemainingLen) :
    (frame.afterSlice sent size).Midway (sent + size) := by
  have total := midway.total
  have started := midway.started
  exact
    { current := midway.current
      long := midway.long
      started := by omega
      remaining := by simp only [H264Frame.afterSlice]; omega
      total := by simp only [H264Frame.afterSlice]; omega
      data := by simp only [H264Frame.afterSlice, Nat.add_assoc]
      header0 := midway.header0
      header1 := midway.header1 }

theorem sends_lastFragment {frame : H264Frame} {sent : Nat}
    (packetizing : frame.Packetizing) (midway : frame.Midway sent) (start : Bool)
    (isLast : frame.currentNALFURemainingLen + 2 ≤ frame.maxPayloadSize)
    {rtp : RTPFrame} (plain : rtp.Plain) {flags : CoderFlags}
    (notYet : flags.lastFrame = false) :
    Sends (frame.sendFragment start rtp flags)
      (fuPayload ((frame.unitAt frame.currentNAL).headD 0) start true
        (read frame.encodedFrame ((frame.nals frame.currentNAL).offset + sent)
          frame.currentNALFURemainingLen))
      (frame.pendingFrom (frame.currentNAL + 1)) := by
  have limit := packetizing.limit
  have countBound := packetizing.count
  have current := midway.current
  have noWrap : u32 (frame.currentNALFURemainingLen + 2) =
      frame.currentNALFURemainingLen + 2 := by
    unfold u32
    omega
  have nextNAL : u32 (frame.currentNAL + 1) = frame.currentNAL + 1 := by
    unfold u32
    omega
  have drained : u32 ((frame.currentNALFURemainingLen : Int) -
      frame.currentNALFURemainingLen) = 0 := by
    unfold u32
    omega
  have lastEq := lastNAL_eq packetizing midway.current
  have emits := emits_fuPayload plain ((frame.unitAt frame.currentNAL).headD 0) start true
    frame.encodedFrame ((frame.nals frame.currentNAL).offset + sent)
    frame.currentNALFURemainingLen frame.timestamp
    (frame.pendingFrom (frame.currentNAL + 1)).isEmpty (by omega)
  have header1 := header1_eq ((frame.unitAt frame.currentNAL).headD 0) start true
  rw [← midway.header1] at header1
  simp only [if_true] at header1
  simp only [sendFragment, lastFragment, curFULen, fragmentHeader, if_pos midway.remaining,
    noWrap, decide_eq_true isLast, if_true, midway.header0, header1, midway.data,
    Option.getD_some, notYet, Bool.false_or, Bool.true_and, drained, endFU, nextNAL, lastEq]
  exact sends_of_emits flags emits
    { atLeastThree := packetizing.atLeastThree
      limit := limit
      count := countBound
      lengths := packetizing.lengths
      midway := fun started => by simp [atFUStart] at started }
    (pending_of_atFUStart (by simp [atFUStart]))

theorem sends_slice {frame : H264Frame} {sent : Nat}
    (packetizing : frame.Packetizing) (midway : frame.Midway sent) (start : Bool)
    (isLast : ¬ frame.currentNALFURemainingLen + 2 ≤ frame.maxPayloadSize)
    {rtp : RTPFrame} (plain : rtp.Plain) {flags : CoderFlags}
    (notYet : flags.lastFrame = false) :
    Sends (frame.sendFragment start rtp flags)
      (fuPayload ((frame.unitAt frame.currentNAL).headD 0) start false
        (read frame.encodedFrame ((frame.nals frame.currentNAL).offset + sent)
          (frame.maxPayloadSize - 2)))
      (frame.afterSlice sent (frame.maxPayloadSize - 2)).pending := by
  have limit := packetizing.limit
  have atLeastThree := packetizing.atLeastThree
  have lengthBound := packetizing.lengths _ midway.current
  have total := midway.total
  have started := midway.started
  have longer : frame.maxPayloadSize - 2 < frame.currentNALFURemainingLen := by omega
  have noWrap : u32 (frame.currentNALFURemainingLen + 2) =
      frame.currentNALFURemainingLen + 2 := by
    unfold u32
    omega
  have sliceEq : u32 (frame.maxPayloadSize - 2) = frame.maxPayloadSize - 2 := by
    unfold u32
    omega
  have leftLen : u32 ((frame.currentNALFURemainingLen : Int) -
      (frame.maxPayloadSize - 2 : Nat)) =
      frame.currentNALFURemainingLen - (frame.maxPayloadSize - 2) := by
    unfold u32
    omega
  have notDrained : ¬ frame.currentNALFURemainingLen - (frame.maxPayloadSize - 2) = 0 := by
    omega
  have midwayNext := midway.afterSlice longer
  have someLeft : (frame.afterSlice sent (frame.maxPayloadSize - 2)).pending.isEmpty =
      false := by
    rw [List.isEmpty_eq_false_iff, midwayNext.pending]
    exact List.append_ne_nil_of_left_ne_nil (fuRun_ne_nil _ _ (chunks_ne_nil _ _)) _
  have emits := emits_fuPayload plain ((frame.unitAt frame.currentNAL).headD 0) start false
    frame.encodedFrame ((frame.nals frame.currentNAL).offset + sent)
    (frame.maxPayloadSize - 2) frame.timestamp false (by omega)
  have header1 := header1_eq ((frame.unitAt frame.currentNAL).headD 0) start false
  rw [← midway.header1] at header1
  simp only [Bool.false_eq_true, if_false] at header1
  simp only [sendFragment, lastFragment, curFULen, fragmentHeader, if_pos midway.remaining,
    noWrap, decide_eq_false isLast, Bool.false_eq_true, if_false, header1, midway.data,
    Option.getD_some, notYet, Bool.false_or, Bool.false_and, sliceEq, leftLen, endFU, notDrained]
  rw [← midway.header0] at emits
  refine sends_of_emits flags ?_
    { atLeastThree := atLeastThree
      limit := limit
      count := packetizing.count
      lengths := packetizing.lengths
      midway := fun _ => ⟨_, midwayNext⟩ }
    rfl
  rw [someLeft]
  exact emits

theorem sends_sendFragment {frame : H264Frame} {sent : Nat}
    (packetizing : frame.Packetizing) (midway : frame.Midway sent) (start : Bool)
    {rtp : RTPFrame} (plain : rtp.Plain) {flags : CoderFlags}
    (notYet : flags.lastFrame = false) {payload : List UInt8} {rest : List (List UInt8)}
    (shape : fuRun ((frame.unitAt frame.currentNAL).headD 0) start
          (chunks (frame.maxPayloadSize - 2) ((frame.unitAt frame.currentNAL).drop sent)) ++
        frame.pendingFrom (frame.currentNAL + 1) = payload :: rest) :
    Sends (frame.sendFragment start rtp flags) payload rest := by
  have atLeastThree := packetizing.atLeastThree
  rw [midway.rest] at shape
  by_cases isLast : frame.currentNALFURemainingLen + 2 ≤ frame.maxPayloadSize
  · rw [chunks_of_le (by rw [length_read]; omega), fuRun, List.cons_append,
      List.nil_append] at shape
    obtain ⟨rfl, rfl⟩ := List.cons.inj shape
    exact sends_lastFragment packetizing midway start isLast plain notYet
  · have longer : frame.maxPayloadSize - 2 < frame.currentNALFURemainingLen := by omega
    rw [chunks_of_lt (by omega) (by rw [length_read]; exact longer),
      fuRun_cons _ _ _ (chunks_ne_nil _ _), take_read _ _ _ _ (by omega),
      drop_read _ _ _ _ (by omega), List.cons_append] at shape
    obtain ⟨rfl, rfl⟩ := List.cons.inj shape
    have midwayNext := midway.afterSlice longer
    have pendingNext := midwayNext.pending
    rw [midwayNext.rest] at pendingNext
    have sends := sends_slice packetizing midway start isLast plain notYet
    rw [pendingNext, ← Nat.add_assoc] at sends
    exact sends

theorem currentNALFURemainingLen_beginFU (frame : H264Frame)
    (positive : 0 < (frame.nals frame.currentNAL).length)
    (inRange : (frame.nals frame.currentNAL).length < 4294967296) :
    frame.beginFU.currentNALFURemainingLen = (frame.nals frame.currentNAL).length - 1 := by
  simp only [beginFU]
  unfold u32
  omega

theorem midway_beginFU {frame : H264Frame} (packetizing : frame.Packetizing)
    (current : frame.currentNAL < frame.numberOfNALsInFrame)
    (long : frame.maxPayloadSize < (frame.nals frame.currentNAL).length) :
    frame.beginFU.Midway 1 := by
  have atLeastThree := packetizing.atLeastThree
  have lengthBound := packetizing.lengths _ current
  have restLen := currentNALFURemainingLen_beginFU frame (by omega) (by omega)
  have firstByte : (frame.unitAt frame.currentNAL).headD 0 =
      frame.encodedFrame (frame.nals frame.currentNAL).offset := by
    have positive : (frame.nals frame.currentNAL).length =
        (frame.nals frame.currentNAL).length - 1 + 1 := by omega
    rw [unitAt, positive, read_succ]
    rfl
  exact
    { current := current
      long := long
      started := Nat.one_pos
      remaining := by rw [restLen]; omega
      total := by rw [restLen]; simp only [beginFU]; omega
      data := rfl
      header0 := by
        change frame.encodedFrame (frame.nals frame.currentNAL).offset &&& 0xe0 ||| 28 = _
        rw [← firstByte]
        rfl
      header1 := by
        change frame.encodedFrame (frame.nals frame.currentNAL).offset &&& 0x1f = _
        rw [← firstByte]
        rfl }

/-- Each call of `GetRTPFrame` sends the first of the payloads to come. -/
theorem sends_getRTPFrame {frame : H264Frame} (packetizing : frame.Packetizing)
    {rtp : RTPFrame} (plain : rtp.Plain) {payload : List UInt8} {rest : List (List UInt8)}
    (shape : frame.pending = payload :: rest) : Sends (frame.getRTPFrame rtp) payload rest := by
  have limit := packetizing.limit
  have countBound := packetizing.count
  have current : frame.currentNAL < frame.numberOfNALsInFrame := by
    by_contra finished
    rw [pending, if_neg finished] at shape
    cases shape
  have nextNAL : u32 (frame.currentNAL + 1) = frame.currentNAL + 1 := by
    unfold u32
    omega
  by_cases long : (frame.nals frame.currentNAL).length > frame.maxPayloadSize
  · simp only [getRTPFrame, if_pos current, if_pos long, encapsulateFU]
    cases startEq : frame.atFUStart with
    | true =>
        have midway := midway_beginFU packetizing current long
        have packetizingBegun : frame.beginFU.Packetizing :=
          { atLeastThree := packetizing.atLeastThree
            limit := limit
            count := countBound
            lengths := packetizing.lengths
            midway := fun _ => ⟨1, midway⟩ }
        simp only [if_true]
        apply sends_sendFragment packetizingBegun midway true plain rfl
        rw [← shape, pending_of_atFUStart startEq, pendingFrom_of_lt current]
        change fuRun ((frame.unitAt frame.currentNAL).headD 0) true
            (chunks (frame.maxPayloadSize - 2) ((frame.unitAt frame.currentNAL).drop 1)) ++
          frame.pendingFrom (frame.currentNAL + 1) = _
        rw [nalPayloads_of_long (by rw [length_unitAt]; exact long)]
    | false =>
        obtain ⟨sent, midway⟩ := packetizing.midway startEq
        simp only [Bool.false_eq_true, if_false]
        apply sends_sendFragment packetizing midway false plain rfl
        rw [← shape, midway.pending]
  · have start : frame.atFUStart = true := by
      by_contra started
      rw [Bool.not_eq_true] at started
      obtain ⟨sent, midway⟩ := packetizing.midway started
      exact long midway.long
    have short : (frame.unitAt frame.currentNAL).length ≤ frame.maxPayloadSize := by
      rw [length_unitAt]
      omega
    rw [pending_of_atFUStart start, pendingFrom_of_lt current, nalPayloads_of_le short,
      List.singleton_append] at shape
    obtain ⟨rfl, rfl⟩ := List.cons.inj shape
    have emits := emits_fillSingle plain frame.encodedFrame
      (frame.nals frame.currentNAL).offset (frame.nals frame.currentNAL).length
      frame.timestamp (frame.pendingFrom (frame.currentNAL + 1)).isEmpty (by omega)
    simp only [getRTPFrame, if_pos current, if_neg long, nextNAL, CoderFlags.none,
      Bool.false_or, lastNAL_eq packetizing current]
    exact sends_of_emits { lastFrame := false, iFrame := frame.isSync, requestIFrame := false }
      emits
      { atLeastThree := packetizing.atLeastThree
        limit := limit
        count := countBound
        lengths := packetizing.lengths
        midway := fun started => absurd (start.symm.trans started) (by decide) }
      (pending_of_atFUStart start)

theorem maxPayloadSize_getRTPFrame (frame : H264Frame) (rtp : RTPFrame) :
    (frame.getRTPFrame rtp).self.maxPayloadSize = frame.maxPayloadSize := by
  simp only [getRTPFrame, encapsulateFU, sendFragment, endFU, beginFU]
  repeat' split
  all_goals rfl

theorem pending_eq_nil_iff {frame : H264Frame} (packetizing : frame.Packetizing) :
    frame.pending = [] ↔ frame.hasRTPFrames = false := by
  rw [hasRTPFrames, decide_eq_false_iff_not]
  constructor
  · intro drained current
    have someCurrent : frame.currentPayloads ≠ [] := by
      rw [currentPayloads]
      cases frame.atFUStart with
      | true => exact nalPayloads_ne_nil packetizing.atLeastThree _
      | false => exact fuRun_ne_nil _ _ (chunks_ne_nil _ _)
    rw [pending, if_pos current] at drained
    exact List.append_ne_nil_of_left_ne_nil someCurrent _ drained
  · intro finished
    exact if_neg finished

theorem getRTPFrame_of_drained {frame : H264Frame} (rtp : RTPFrame)
    (drained : frame.hasRTPFrames = false) :
    frame.getRTPFrame rtp =
      { returned := false
        self := frame
        frame := rtp
        flags := { CoderFlags.none with iFrame := frame.isSync } } := by
  rw [hasRTPFrames, decide_eq_false_iff_not] at drained
  exact if_neg drained

end H264Frame

end DShowCapture
