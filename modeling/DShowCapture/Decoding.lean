/-
The decoder object refines the receiver of access units.
-/
import DShowCapture.Datagram
import DShowCapture.H264Rtp
import DShowCapture.Receiver

namespace DShowCapture

open ByteMemory FixedWidth Logged AnnexB

/-! ### Key frames -/

/-- A sequence parameter set behind a start code at the beginning of the buffer makes the
scanner report a key frame. -/
theorem isH264KeyFrame_of_sps {memory : Memory} {nSize : Nat} (long : 4 < nSize)
    (startCode : memory 0 = 0 ∧ memory 1 = 0 ∧ memory 2 = 0 ∧ memory 3 = 1)
    (sps : memory 4 &&& 0x1f = 7) :
    (isH264KeyFrame memory 0 nSize).value.returned = true := by
  have notShort : ¬ nSize ≤ 4 := by omega
  have found : (skipToStartCode memory (min nSize 1024) 0 0).value = (0, 0) := by
    rw [skipToStartCode]
    simp [startCode]
  have left : 0 < min nSize 1024 := by omega
  have inRange : 0 < min nSize 1024 - 3 := by omega
  rw [isH264KeyFrame, if_neg notShort, keyFrameLoop, if_pos left]
  simp only [value_bind, found, if_pos inRange, Nat.zero_add, sps, if_true]
  rfl

/-! ### One packet -/

structure DecodeCall where
  src : Memory
  srcLen : Nat
  args : DecodeArgs

namespace DecodeCall

structure Passes (call : DecodeCall) (datagram : Datagram) : Prop where
  length : call.srcLen = datagram.bytes.length
  held : read call.src 0 datagram.bytes.length = datagram.bytes

def ofDatagram (args : DecodeArgs) (datagram : Datagram) : DecodeCall :=
  { src := ofBytes datagram.bytes, srcLen := datagram.bytes.length, args := args }

theorem passes_ofDatagram (args : DecodeArgs) (datagram : Datagram) :
    (ofDatagram args datagram).Passes datagram :=
  { length := rfl, held := read_ofBytes datagram.bytes }

def rtp (self : DecodeCall) : RTPFrame := { frame := self.src, frameLen := i32 self.srcLen }

def decode (self : DecodeCall) (decoder : CH264DecodeRtp) : DecodeResult :=
  (decoder.decodeFrames self.src self.srcLen self.args).value

end DecodeCall

def DecodeResult.output (self : DecodeResult) : List UInt8 :=
  read self.args.dst 0 self.args.dstLen

/-- What the caller of `DecodeFrames` sees for each outcome. -/
def Outcome.Shows (args : DecodeArgs) (result : DecodeResult) : Outcome → Prop
  | .rejected =>
      result.returned = false ∧ result.args.flags = { args.flags with requestIFrame := true }
  | .waiting => result.returned = false ∧ result.args.flags = args.flags
  | .nothing => result.returned = false ∧ result.args.flags = args.flags
  | .withheld =>
      result.returned = true ∧ result.args.flags = { args.flags with requestIFrame := true } ∧
        result.output = []
  | .delivered nals =>
      result.returned = true ∧ result.args.flags.lastFrame = true ∧
        result.args.flags.requestIFrame = args.flags.requestIFrame ∧
        result.output = byteStream nals

def Outcome.returned : Outcome → Bool
  | .withheld | .delivered _ => true
  | .rejected | .waiting | .nothing => false

def Outcome.output : Outcome → Option (List UInt8)
  | .withheld => some []
  | .delivered nals => some (byteStream nals)
  | .rejected | .waiting | .nothing => none

theorem Outcome.Shows.returned {args : DecodeArgs} {result : DecodeResult} {outcome : Outcome}
    (shows : outcome.Shows args result) : result.returned = outcome.returned := by
  cases outcome <;> exact shows.1

theorem Outcome.Shows.output {args : DecodeArgs} {result : DecodeResult} {outcome : Outcome}
    (shows : outcome.Shows args result) :
    (if result.returned then some result.output else none) = outcome.output := by
  cases outcome with
  | rejected => simp [shows.1, Outcome.output]
  | waiting => simp [shows.1, Outcome.output]
  | nothing => simp [shows.1, Outcome.output]
  | withheld => simp [shows.1, Outcome.output, shows.2.2]
  | delivered nals => simp [shows.1, Outcome.output, shows.2.2.2]

theorem Outcome.Shows.of_flags {first second : DecodeArgs} {result : DecodeResult}
    {outcome : Outcome} (flags : first.flags = second.flags)
    (shows : outcome.Shows first result) : outcome.Shows second result := by
  cases outcome <;> simpa only [Outcome.Shows, flags] using shows

namespace CH264DecodeRtp

structure Represents (decoder : CH264DecodeRtp) (receiver : Receiver) : Prop where
  frame : decoder.fullFrame.Represents receiver.assembly
  key : decoder.haveGetKeyFrame = receiver.haveKey

theorem represents_new (encodedFrame : Memory) (nals : Nat → NALU) (width height : Int) :
    (new encodedFrame nals width height).Represents Receiver.new :=
  { frame := H264Frame.represents_beginNewFrame (H264Frame.new encodedFrame nals) id
    key := rfl }

theorem size_eq_zero_iff (assembly : Assembly) : assembly.size = 0 ↔ assembly.nals = [] := by
  have bound := assembly.four_mul_length_le_size
  constructor
  · intro isEmpty
    apply List.eq_nil_of_length_eq_zero
    omega
  · intro isEmpty
    rw [Assembly.size, Assembly.stream, isEmpty]
    rfl

theorem keyFrame_of_represents {frame : H264Frame} {assembly : Assembly}
    (represents : frame.Represents assembly) {nal : List UInt8} {rest : List (List UInt8)}
    (nalsEq : assembly.nals = nal :: rest) (sps : nal.headD 0 &&& 0x1f = 7) :
    (isH264KeyFrame frame.encodedFrame 0 frame.encodedFrameLen).value.returned = true := by
  cases nal with
  | nil => exact absurd sps (by decide)
  | cons first body =>
      have held := represents.bytes
      have lengthEq := represents.length
      rw [H264Frame.assembled, lengthEq, Assembly.size] at held
      have streamEq : assembly.stream =
          0 :: 0 :: 0 :: 1 :: first :: (body ++ byteStream rest) := by
        rw [Assembly.stream, nalsEq, byteStream_cons]
        rfl
      have long : 4 < frame.encodedFrameLen := by
        rw [lengthEq, Assembly.size, streamEq]
        simp only [List.length_cons]
        omega
      rw [streamEq] at held
      have byteAt : ∀ index (inRange : index < 5),
          frame.encodedFrame index = [0, 0, 0, 1, first][index] := by
        intro index inRange
        have isByte := getElem_of_read_eq held index (by
          simp only [List.length_cons]
          omega)
        rw [Nat.zero_add] at isByte
        rw [isByte]
        rcases (by omega : index = 0 ∨ index = 1 ∨ index = 2 ∨ index = 3 ∨ index = 4) with
          rfl | rfl | rfl | rfl | rfl
        all_goals rfl
      refine isH264KeyFrame_of_sps long
        ⟨byteAt 0 (by decide), byteAt 1 (by decide), byteAt 2 (by decide), byteAt 3 (by decide)⟩
        ?_
      rw [byteAt 4 (by decide)]
      exact sps

theorem completeFrame_refines {decoder : CH264DecodeRtp} {receiver : Receiver}
    (represents : decoder.Represents receiver) (args : DecodeArgs) (cleared : args.dstLen = 0) :
    let result := (decoder.completeFrame args).value
    ∃ key,
      let completed := receiver.complete receiver.assembly.nals key
      result.self.Represents completed.1 ∧ completed.2.Shows args result ∧
        ∀ nal rest, receiver.assembly.nals = nal :: rest → nal.headD 0 &&& 0x1f = 7 →
          key = true := by
  have frame := represents.frame
  have reset := H264Frame.represents_beginNewFrame decoder.fullFrame frame.allocated
  have sizeEq := size_eq_zero_iff receiver.assembly
  rw [← frame.length] at sizeEq
  have keyOfSps : ∀ nal rest, receiver.assembly.nals = nal :: rest →
      nal.headD 0 &&& 0x1f = 7 →
        (isH264KeyFrame decoder.fullFrame.encodedFrame 0
          decoder.fullFrame.encodedFrameLen).value.returned = true :=
    fun nal rest nalsEq sps => keyFrame_of_represents frame nalsEq sps
  refine ⟨(isH264KeyFrame decoder.fullFrame.encodedFrame 0
    decoder.fullFrame.encodedFrameLen).value.returned, ?_⟩
  by_cases isEmpty : receiver.assembly.nals = []
  · have noBytes := sizeEq.mpr isEmpty
    simp only [completeFrame, if_pos noBytes, value_pure, Receiver.complete, if_pos isEmpty]
    exact ⟨{ frame := reset, key := represents.key }, ⟨rfl, rfl⟩, keyOfSps⟩
  · have someBytes : ¬ decoder.fullFrame.encodedFrameLen = 0 := fun noBytes =>
      isEmpty (sizeEq.mp noBytes)
    simp only [completeFrame, if_neg someBytes, value_bind, value_mapLog, value_pure]
    generalize (isH264KeyFrame decoder.fullFrame.encodedFrame 0
      decoder.fullFrame.encodedFrameLen).value = report at keyOfSps ⊢
    simp only [passGate, Receiver.complete, if_neg isEmpty, ← represents.key]
    by_cases closed : (!report.returned && !decoder.haveGetKeyFrame) = true
    · rw [if_pos closed, if_pos closed]
      refine ⟨{ frame := reset, key := rfl }, ⟨rfl, rfl, ?_⟩, keyOfSps⟩
      simp [DecodeResult.output, withhold, cleared]
    · rw [if_neg closed, if_neg closed]
      refine ⟨{ frame := reset, key := rfl }, ⟨rfl, rfl, rfl, ?_⟩, keyOfSps⟩
      simp only [DecodeResult.output, deliver, read_copy_self]
      exact frame.bytes

theorem decodeReceived_refines {decoder : CH264DecodeRtp} {receiver : Receiver}
    (key : decoder.haveGetKeyFrame = receiver.haveKey) {packet : Packet} {rtp : RTPFrame}
    (markerEq : rtp.getMarker = packet.marker) (received : H264Frame.Received)
    (args : DecodeArgs)
    (refines : match receiver.assembly.receive packet.payload with
      | some next =>
          received.returned = true ∧ received.flags = args.flags ∧
            received.self.Represents next
      | none =>
          received.returned = false ∧
            received.flags = { args.flags with requestIFrame := true } ∧
            received.self.Represents Assembly.empty) :
    let result := (decoder.decodeReceived rtp received args).value
    ∃ isKey,
      let stepped := receiver.step packet isKey
      result.self.Represents stepped.1 ∧ stepped.2.Shows args result ∧
        receiver.KeyRule packet isKey := by
  unfold Receiver.step Receiver.KeyRule
  cases receivedEq : receiver.assembly.receive packet.payload with
  | none =>
      rw [receivedEq] at refines
      rcases refines with ⟨returned, flags, frame⟩
      refine ⟨false, ?_⟩
      simp only [decodeReceived, returned, Bool.not_false, if_true, value_pure]
      refine ⟨{ frame := frame, key := key }, ⟨rfl, flags⟩, ?_⟩
      intro next nal rest impossible
      cases impossible
  | some next =>
      rw [receivedEq] at refines
      rcases refines with ⟨returned, flags, frame⟩
      simp only [decodeReceived, returned, Bool.not_true, Bool.false_eq_true, if_false,
        value_bind, markerEq]
      cases packet.marker with
      | false =>
          refine ⟨true, ?_⟩
          simp only [Bool.not_false, if_true, value_pure, Bool.false_eq_true, if_false]
          exact ⟨{ frame := frame, key := key }, ⟨rfl, flags⟩, fun _ _ _ _ _ _ => trivial⟩
      | true =>
          have held : Represents { decoder with fullFrame := received.self }
              { receiver with assembly := next } := { frame := frame, key := key }
          obtain ⟨isKey, completed, shows, keyOfSps⟩ := completeFrame_refines held
            { args with dstLen := 0, flags := received.flags } rfl
          refine ⟨isKey, ?_⟩
          simp only [Bool.not_true, Bool.false_eq_true, if_false, if_true]
          refine ⟨completed, Outcome.Shows.of_flags flags shows, ?_⟩
          intro other nal rest isNext nalsEq sps
          cases isNext
          exact keyOfSps nal rest nalsEq sps

/-- The call receives this packet: the datagram passed on carries its payload and its
marker, and the payload is well formed. -/
structure Receives (call : DecodeCall) (packet : Packet) : Prop where
  passed : ∃ datagram : Datagram, call.Passes datagram ∧ datagram.Short ∧
    datagram.payload = packet.payload.bytes ∧ datagram.header.marker = packet.marker
  wellFormed : packet.payload.WellFormed
  short : packet.payload.Short

theorem Receives.carries {call : DecodeCall} {packet : Packet} (receives : Receives call packet) :
    H264Frame.Carries call.rtp packet.payload.bytes ∧
      call.rtp.getMarker = packet.marker := by
  rcases receives.passed with ⟨datagram, passes, small, payloadEq, markerEq⟩
  have holds : RTPFrame.Holds call.rtp datagram.bytes :=
    { length := by
        have lengthEq := passes.length
        rw [DecodeCall.rtp, lengthEq]
        exact i32_natCast _ small
      held := passes.held }
  rw [← payloadEq]
  exact ⟨holds.carries small, holds.getMarker.trans markerEq⟩

/-- `DecodeFrames` performs one step of the receiver. -/
theorem decodeFrames_refines {decoder : CH264DecodeRtp} {receiver : Receiver}
    (represents : decoder.Represents receiver) {call : DecodeCall} {packet : Packet}
    (receives : Receives call packet) :
    ∃ key,
      let stepped := receiver.step packet key
      (call.decode decoder).self.Represents stepped.1 ∧
        stepped.2.Shows call.args (call.decode decoder) ∧ receiver.KeyRule packet key := by
  rcases receives.carries with ⟨carries, markerEq⟩
  have refines := H264Frame.setFromRTPFrame_refines represents.frame receives.wellFormed
    receives.short carries call.args.flags
  rw [DecodeCall.decode, value_decodeFrames]
  exact decodeReceived_refines represents.key markerEq _ call.args refines

/-! ### Runs -/

def decodeAll (self : CH264DecodeRtp) : List DecodeCall → List DecodeResult × CH264DecodeRtp
  | [] => ([], self)
  | call :: rest =>
      let result := call.decode self
      let later := result.self.decodeAll rest
      (result :: later.1, later.2)

def ShowsAll : List DecodeCall → List DecodeResult → List Outcome → Prop
  | [], [], [] => True
  | call :: calls, result :: results, outcome :: outcomes =>
      outcome.Shows call.args result ∧ ShowsAll calls results outcomes
  | _, _, _ => False

theorem ShowsAll.returned {calls : List DecodeCall} {results : List DecodeResult}
    {outcomes : List Outcome} (shows : ShowsAll calls results outcomes) :
    results.map DecodeResult.returned = outcomes.map Outcome.returned := by
  fun_induction ShowsAll calls results outcomes with
  | case1 => rfl
  | case2 call calls result results outcome outcomes ih =>
      rw [List.map_cons, List.map_cons, shows.1.returned, ih shows.2]
  | case3 => exact shows.elim

theorem ShowsAll.outputs {calls : List DecodeCall} {results : List DecodeResult}
    {outcomes : List Outcome} (shows : ShowsAll calls results outcomes) :
    (results.filter DecodeResult.returned).map DecodeResult.output =
      outcomes.filterMap Outcome.output := by
  fun_induction ShowsAll calls results outcomes with
  | case1 => rfl
  | case2 call calls result results outcome outcomes ih =>
      rw [List.filterMap_cons, ← shows.1.output, ← ih shows.2]
      cases returned : result.returned <;> simp [returned]
  | case3 => exact shows.elim

theorem decodeAll_refines {decoder : CH264DecodeRtp} {receiver : Receiver}
    (represents : decoder.Represents receiver) {calls : List DecodeCall}
    {packets : List Packet} (receives : List.Forall₂ Receives calls packets) :
    ∃ outcomes final, receiver.Runs packets outcomes final ∧
      (decoder.decodeAll calls).2.Represents final ∧
      ShowsAll calls (decoder.decodeAll calls).1 outcomes := by
  induction receives generalizing decoder receiver with
  | nil => exact ⟨[], receiver, .nil receiver, represents, trivial⟩
  | @cons call packet calls packets here later ih =>
      obtain ⟨key, stepped, shows, rule⟩ := decodeFrames_refines represents here
      obtain ⟨outcomes, final, runs, last, showsLater⟩ := ih stepped
      refine ⟨_, final, .cons key rule runs, ?_⟩
      rw [decodeAll]
      exact ⟨last, shows, showsLater⟩

end CH264DecodeRtp

end DShowCapture
