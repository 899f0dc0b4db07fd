/-
The decoder object does not depend on what earlier frames left in its buffer.

Two decoder objects that differ behind the bytes in use, and in the fields of the sender,
behave alike on the same packets, as long as the key-frame scanner stays within the frames
that they complete.
-/
import DShowCapture.KeyFrame.Locality
import DShowCapture.KeyGate

namespace DShowCapture

open ByteMemory FixedWidth Logged

/-! ### Frame objects -/

namespace H264Frame

/-- The frame objects agree on what a receiver keeps: the NAL table, the open fragments, and
the bytes below a bound. -/
structure AgreeTo (bound : Nat) (first second : H264Frame) : Prop where
  nals : first.nals = second.nals
  allocated : first.nalsAllocated = second.nalsAllocated
  count : first.numberOfNALsInFrame = second.numberOfNALsInFrame
  reserved : first.numberOfNALsReserved = second.numberOfNALsReserved
  counter : first.currentFU = second.currentFU
  length : first.encodedFrameLen = second.encodedFrameLen
  bytes : AgreeBelow bound first.encodedFrame second.encodedFrame

def Agree (first second : H264Frame) : Prop := AgreeTo first.encodedFrameLen first second

section Agree

variable {bound : Nat} {first second : H264Frame}

theorem AgreeTo.beginNewFrame (agree : AgreeTo bound first second) :
    Agree (first.beginNewFrame 0) (second.beginNewFrame 0) :=
  { nals := agree.nals
    allocated := agree.allocated
    count := rfl
    reserved := agree.reserved
    counter := rfl
    length := rfl
    bytes := fun address below => absurd below (Nat.not_lt_zero address) }

theorem Agree.withCounter (agree : Agree first second) (counter : Nat) :
    Agree { first with currentFU := counter } { second with currentFU := counter } :=
  { nals := agree.nals
    allocated := agree.allocated
    count := agree.count
    reserved := agree.reserved
    counter := rfl
    length := agree.length
    bytes := agree.bytes }

theorem AgreeTo.reserveNAL (agree : AgreeTo bound first second) :
    AgreeTo bound first.reserveNAL second.reserveNAL := by
  have same : u32 (first.numberOfNALsInFrame + 1) > first.numberOfNALsReserved ↔
      u32 (second.numberOfNALsInFrame + 1) > second.numberOfNALsReserved := by
    rw [agree.count, agree.reserved]
  by_cases full : u32 (first.numberOfNALsInFrame + 1) > first.numberOfNALsReserved
  · rw [H264Frame.reserveNAL, if_pos full, H264Frame.reserveNAL, if_pos (same.mp full)]
    exact
      { nals := agree.nals
        allocated := congrArg (fun reserved : Nat => u32 (reserved + 1)) agree.reserved
        count := agree.count
        reserved := congrArg (fun reserved : Nat => u32 (reserved + 1)) agree.reserved
        counter := agree.counter
        length := agree.length
        bytes := agree.bytes }
  · rw [H264Frame.reserveNAL, if_neg full, H264Frame.reserveNAL, if_neg (mt same.mpr full)]
    exact agree

theorem AgreeTo.write (agree : AgreeTo bound first second) {left right : Nat}
    (leftEq : left = bound) (rightEq : right = bound) (source : Memory) (data count : Nat) :
    AgreeTo (bound + count)
      { first with encodedFrame := copy first.encodedFrame left source data count }
      { second with encodedFrame := copy second.encodedFrame right source data count } := by
  subst leftEq rightEq
  exact
    { nals := agree.nals
      allocated := agree.allocated
      count := agree.count
      reserved := agree.reserved
      counter := agree.counter
      length := agree.length
      bytes := agree.bytes.copy (Nat.le_refl _) source data count }

theorem AgreeTo.withLength (agree : AgreeTo bound first second) {left right : Nat}
    (same : left = right) (inside : left ≤ bound) :
    Agree { first with encodedFrameLen := left } { second with encodedFrameLen := right } :=
  { nals := agree.nals
    allocated := agree.allocated
    count := agree.count
    reserved := agree.reserved
    counter := agree.counter
    length := same
    bytes := fun address below => agree.bytes address (Nat.lt_of_lt_of_le below inside) }

theorem AgreeTo.withEntry (agree : AgreeTo bound first second) {left right : Nat}
    {entry entry' : NALU} {count count' : Nat} (sameIndex : left = right)
    (sameEntry : entry = entry') (sameCount : count = count') :
    AgreeTo bound
      { first with nals := Function.update first.nals left entry, numberOfNALsInFrame := count }
      { second with
        nals := Function.update second.nals right entry'
        numberOfNALsInFrame := count' } := by
  subst sameIndex sameEntry sameCount
  exact
    { nals := congrArg (Function.update · left entry) agree.nals
      allocated := agree.allocated
      count := rfl
      reserved := agree.reserved
      counter := agree.counter
      length := agree.length
      bytes := agree.bytes }

theorem Agree.addHeaderToEncodedFrame (agree : Agree first second) (dataLen : Nat)
    (header : UInt8) :
    AgreeTo (first.encodedFrameLen + 5) (first.addHeaderToEncodedFrame dataLen header).value
      (second.addHeaderToEncodedFrame dataLen header).value := by
  have written := (AgreeTo.write agree rfl agree.length.symm
    (ofBytes [0, 0, 0, 1, header]) 0 5).reserveNAL
  simp only [H264Frame.addHeaderToEncodedFrame, value_bind, value_ite, value_pure, store,
    List.length_cons, List.length_nil, Nat.zero_add, Nat.reduceAdd]
  generalize H264Frame.reserveNAL { first with encodedFrame := _ } = left at written ⊢
  generalize H264Frame.reserveNAL { second with encodedFrame := _ } = right at written ⊢
  have sameNull : left.nalsAllocated = 0 ↔ right.nalsAllocated = 0 := by rw [written.allocated]
  by_cases isNull : left.nalsAllocated = 0
  · rw [if_pos isNull, if_pos (sameNull.mp isNull)]
    exact written
  · rw [if_neg isNull, if_neg (mt sameNull.mpr isNull)]
    apply AgreeTo.withEntry written written.count
    · rw [written.length]
    · rw [written.count]

theorem AgreeTo.extendLastNAL (agree : AgreeTo bound first second) (dataLen : Nat) :
    AgreeTo bound (first.extendLastNAL dataLen).value (second.extendLastNAL dataLen).value := by
  have sameNull : first.nalsAllocated = 0 ↔ second.nalsAllocated = 0 := by rw [agree.allocated]
  simp only [H264Frame.extendLastNAL, value_bind, value_ite, value_pure]
  by_cases isNull : first.nalsAllocated = 0
  · rw [if_pos isNull, if_pos (sameNull.mp isNull)]
    exact agree
  · rw [if_neg isNull, if_neg (mt sameNull.mpr isNull)]
    refine AgreeTo.withEntry agree ?_ ?_ agree.count
    · rw [agree.count]
    · rw [agree.count, agree.nals]

theorem encodedFrameLen_addHeaderToEncodedFrame (frame : H264Frame) (dataLen : Nat)
    (header : UInt8) :
    (frame.addHeaderToEncodedFrame dataLen header).value.encodedFrameLen =
      frame.encodedFrameLen := by
  simp only [H264Frame.addHeaderToEncodedFrame, H264Frame.reserveNAL, value_bind, value_ite,
    value_pure]
  split <;> split <;> rfl

theorem encodedFrameLen_extendLastNAL (frame : H264Frame) (dataLen : Nat) :
    (frame.extendLastNAL dataLen).value.encodedFrameLen = frame.encodedFrameLen := by
  simp only [H264Frame.extendLastNAL, value_bind, value_ite, value_pure]
  split <;> rfl

theorem Agree.addDataToEncodedFrame (agree : Agree first second) (source : Memory)
    (data dataLen : Nat) (header : UInt8) (addHeader : Bool) :
    Agree (first.addDataToEncodedFrame source data dataLen header addHeader).value
      (second.addDataToEncodedFrame source data dataLen header addHeader).value := by
  have shorter : ∀ total : Nat, u32 total ≤ total := by
    intro total
    unfold u32
    omega
  have lengthEq : first.encodedFrameLen = second.encodedFrameLen := agree.length
  cases addHeader with
  | true =>
      have opened := Agree.addHeaderToEncodedFrame agree dataLen header
      have sameLength := encodedFrameLen_addHeaderToEncodedFrame first dataLen header
      simp only [H264Frame.addDataToEncodedFrame, value_bind, value_ite, value_pure, if_true,
        ← lengthEq]
      generalize (first.addHeaderToEncodedFrame dataLen header).value = left at *
      generalize (second.addHeaderToEncodedFrame dataLen header).value = right at *
      split
      · exact agree
      · apply (opened.write rfl rfl source data dataLen).withLength
        · rw [opened.length]
        · rw [sameLength]
          apply Nat.le_trans (shorter (first.encodedFrameLen + dataLen + 5))
          omega
  | false =>
      have grown := AgreeTo.extendLastNAL agree dataLen
      have sameLength := encodedFrameLen_extendLastNAL first dataLen
      simp only [H264Frame.addDataToEncodedFrame, value_bind, value_ite, value_pure,
        Bool.false_eq_true, if_false, Nat.add_zero, ← lengthEq]
      generalize (first.extendLastNAL dataLen).value = left at *
      generalize (second.extendLastNAL dataLen).value = right at *
      split
      · exact agree
      · apply (grown.write rfl rfl source data dataLen).withLength
        · rw [grown.length]
        · rw [sameLength]
          exact shorter (first.encodedFrameLen + dataLen)

theorem Agree.deencapsulateSTAPLoop (agree : Agree first second) (source : Memory)
    (curSTAP curSTAPLen : Nat) :
    let left := (first.deencapsulateSTAPLoop source curSTAP curSTAPLen).value
    let right := (second.deencapsulateSTAPLoop source curSTAP curSTAPLen).value
    left.1 = right.1 ∧ Agree left.2 right.2 := by
  induction curSTAPLen using Nat.strongRecOn generalizing first second curSTAP with
  | ind curSTAPLen ih =>
      rw [H264Frame.deencapsulateSTAPLoop, H264Frame.deencapsulateSTAPLoop.eq_def second]
      by_cases finished : curSTAPLen = 0
      · rw [if_pos finished, if_pos finished]
        exact ⟨rfl, agree⟩
      · rw [if_neg finished, if_neg finished]
        simp only [value_bind, value_ite, value_pure]
        generalize bigEndian16 (source curSTAP) (source (curSTAP + 1)) = len
        have added := agree.addDataToEncodedFrame source (curSTAP + 3) (u32 (len - 1))
          (source (curSTAP + 2)) true
        generalize (first.addDataToEncodedFrame source (curSTAP + 3) (u32 (len - 1))
          (source (curSTAP + 2)) true).value = left at *
        generalize (second.addDataToEncodedFrame source (curSTAP + 3) (u32 (len - 1))
          (source (curSTAP + 2)) true).value = right at *
        split
        · exact ⟨rfl, added⟩
        · exact ih _ (by omega) added _

theorem Agree.deencapsulateSTAP (agree : Agree first second) (rtp : RTPFrame) :
    let left := (first.deencapsulateSTAP rtp).value
    let right := (second.deencapsulateSTAP rtp).value
    left.1 = right.1 ∧ Agree left.2 right.2 := by
  simp only [H264Frame.deencapsulateSTAP, value_ite, value_pure]
  split
  · exact ⟨rfl, agree⟩
  · exact agree.deencapsulateSTAPLoop _ _ _

theorem Agree.deencapsulateFU (agree : Agree first second) (rtp : RTPFrame) :
    let left := (first.deencapsulateFU rtp).value
    let right := (second.deencapsulateFU rtp).value
    left.1 = right.1 ∧ Agree left.2 right.2 := by
  have counterEq : first.currentFU = second.currentFU := agree.counter
  have added : ∀ counter header addHeader,
      Agree
        (H264Frame.addDataToEncodedFrame { first with currentFU := counter } rtp.frame
          (rtp.getPayloadPtr + 2) (u32 (rtp.getPayloadSize - 2)) header addHeader).value
        (H264Frame.addDataToEncodedFrame { second with currentFU := counter } rtp.frame
          (rtp.getPayloadPtr + 2) (u32 (rtp.getPayloadSize - 2)) header addHeader).value :=
    fun counter header addHeader =>
      (agree.withCounter counter).addDataToEncodedFrame _ _ _ header addHeader
  simp only [H264Frame.deencapsulateFU, value_bind, value_ite, value_pure, ← counterEq]
  split
  · split
    · exact ⟨rfl, agree.withCounter _⟩
    · exact ⟨rfl, added _ _ _⟩
  · split
    · split
      · exact ⟨rfl, added _ _ _⟩
      · exact ⟨rfl, agree.withCounter _⟩
    · split
      · split
        · exact ⟨rfl, added _ _ _⟩
        · exact ⟨rfl, agree.withCounter _⟩
      · exact ⟨rfl, agree.withCounter _⟩

structure AgreeReceived (left right : Received) : Prop where
  returned : left.returned = right.returned
  frame : Agree left.self right.self
  flags : left.flags = right.flags

theorem Agree.rejectFrame (agree : Agree first second) (flags : CoderFlags) :
    AgreeReceived (first.rejectFrame flags) (second.rejectFrame flags) :=
  { returned := rfl, frame := agree.beginNewFrame, flags := rfl }

theorem Agree.finish {left right : Bool × H264Frame}
    (agree : left.1 = right.1 ∧ Agree left.2 right.2) (flags : CoderFlags) :
    AgreeReceived
      (if left.1 then { returned := true, self := left.2, flags := flags }
        else left.2.rejectFrame flags)
      (if right.1 then { returned := true, self := right.2, flags := flags }
        else right.2.rejectFrame flags) := by
  rw [agree.1]
  split
  · exact { returned := rfl, frame := agree.2, flags := rfl }
  · exact agree.2.rejectFrame flags

theorem Agree.setFromRTPFrame (agree : Agree first second) (rtp : RTPFrame)
    (flags : CoderFlags) :
    AgreeReceived (first.setFromRTPFrame rtp flags).value
      (second.setFromRTPFrame rtp flags).value := by
  simp only [H264Frame.setFromRTPFrame, value_bind, value_ite, value_pure]
  split
  · exact { returned := rfl, frame := agree, flags := rfl }
  · split
    · exact
        { returned := rfl
          frame := agree.addDataToEncodedFrame _ _ _ _ _
          flags := rfl }
    · split
      · exact Agree.finish (agree.deencapsulateSTAP rtp) flags
      · split
        · exact Agree.finish (agree.deencapsulateFU rtp) flags
        · exact agree.rejectFrame flags

end Agree

/-- The key-frame scanner does not look behind the frame that this packet completes. -/
def Received.StaysInFrame (received : Received) (rtp : RTPFrame) : Prop :=
  received.returned = true → rtp.getMarker = true → ¬ RunsOver received.self.assembled

end H264Frame

/-! ### Decoder objects -/

def DecodeResult.seen (self : DecodeResult) : Bool × DecodeArgs := (self.returned, self.args)

namespace CH264DecodeRtp

structure Agree (first second : CH264DecodeRtp) : Prop where
  key : first.haveGetKeyFrame = second.haveGetKeyFrame
  width : first.width = second.width
  height : first.height = second.height
  frame : first.fullFrame.Agree second.fullFrame

structure SameCall (first second : DecodeResult) : Prop where
  seen : first.seen = second.seen
  agree : Agree first.self second.self

theorem Agree.passGate {first second : CH264DecodeRtp} (agree : Agree first second)
    (report : KeyFrameReport) (args : DecodeArgs) :
    SameCall (first.passGate report args) (second.passGate report args) := by
  have frame := agree.frame.beginNewFrame
  have lengthEq : first.fullFrame.encodedFrameLen = second.fullFrame.encodedFrameLen :=
    agree.frame.length
  unfold CH264DecodeRtp.passGate
  rw [agree.key]
  split
  · exact
      { seen := rfl
        agree := { key := agree.key, width := rfl, height := rfl, frame := frame } }
  · refine { seen := ?_, agree := ?_ }
    · simp only [DecodeResult.seen, deliver, ← lengthEq, agree.frame.bytes.copy_eq, agree.width,
        agree.height]
    · refine { key := ?_, width := ?_, height := ?_, frame := frame }
      · simp only [deliver, agree.key]
      · simp only [deliver, agree.width]
      · simp only [deliver, agree.height]

theorem Agree.decodeReceived {first second : CH264DecodeRtp} (agree : Agree first second)
    {rtp : RTPFrame} {left right : H264Frame.Received}
    (received : H264Frame.AgreeReceived left right) (args : DecodeArgs)
    (stays : left.StaysInFrame rtp) :
    SameCall (first.decodeReceived rtp left args).value
      (second.decodeReceived rtp right args).value := by
  have lengthEq : left.self.encodedFrameLen = right.self.encodedFrameLen := received.frame.length
  have there : Agree { first with fullFrame := left.self }
      { second with fullFrame := right.self } :=
    { key := agree.key
      width := agree.width
      height := agree.height
      frame := received.frame }
  have refused : ∀ argsThere, SameCall
      { returned := false, self := { first with fullFrame := left.self }, args := argsThere }
      { returned := false, self := { second with fullFrame := right.self }, args := argsThere } :=
    fun argsThere => { seen := rfl, agree := there }
  simp only [CH264DecodeRtp.decodeReceived, value_bind, value_ite, value_pure,
    ← received.returned, ← received.flags]
  split
  · exact refused _
  · rename_i accepted
    split
    · exact refused _
    · rename_i marked
      simp only [completeFrame, value_bind, value_ite, value_pure, value_mapLog, ← lengthEq]
      split
      · exact
          { seen := rfl
            agree :=
              { key := agree.key
                width := agree.width
                height := agree.height
                frame := received.frame.beginNewFrame } }
      · have sameReport := isH264KeyFrame_congr received.frame.bytes
          (stays (by simpa using accepted) (by simpa using marked))
        rw [← sameReport]
        exact there.passGate _ _

/-! ### Runs -/

/-- The key-frame scanner does not look behind the frame that the call completes. -/
def StaysInFrame (self : CH264DecodeRtp) (call : DecodeCall) : Prop :=
  (self.fullFrame.setFromRTPFrame call.rtp call.args.flags).value.StaysInFrame call.rtp

theorem Agree.decode {first second : CH264DecodeRtp} (agree : Agree first second)
    {call : DecodeCall} (stays : first.StaysInFrame call) :
    SameCall (call.decode first) (call.decode second) := by
  rw [← decodeReceived_eq_decode, ← decodeReceived_eq_decode]
  exact agree.decodeReceived (agree.frame.setFromRTPFrame call.rtp call.args.flags) call.args stays

end CH264DecodeRtp

end DShowCapture
