/-
The two codec objects of `jrtp/h264-rtp.cpp`: one turns an access unit into RTP
frames, the other turns RTP frames back into access units.
-/
import DShowCapture.H264Frame.Encapsulate
import DShowCapture.H264Frame.Deencapsulate
import DShowCapture.KeyFrame.Detect

namespace DShowCapture

open ByteMemory FixedWidth Logged

/-- `MAX_NAL_SIZE`: the room of the NAL array of `EncodeFrames`. -/
def maxNalSize : Nat := 128

abbrev RtpAccess := FrameAccess ⊕ ScanAccess

structure CH264EncodeRtp where
  encapsulation : H264Frame

namespace CH264EncodeRtp

def setMaxRTPFrameSize (self : CH264EncodeRtp) (size : Nat) : CH264EncodeRtp :=
  { self with encapsulation := self.encapsulation.setMaxPayloadSize size }

def naluArgs (src : Memory) (nal : H264Nal) : H264Frame.NALUArgs :=
  { type := nal.type, length := u32 nal.len, source := src, payload := nal.pdata }

/-- The first half of `EncodeFrames`: a drained frame object takes in the next access
unit. -/
def stageFrame (self : CH264EncodeRtp) (src : Memory) (srcLen : Nat) :
    Logged RtpAccess H264Frame := do
  if self.encapsulation.hasRTPFrames then pure self.encapsulation
  else do
    let nals ← (getNalSize src maxNalSize 0 srcLen).mapLog .inr
    ((self.encapsulation.beginNewFrame nals.length).addNALUs
      (nals.map (naluArgs src))).mapLog .inl

structure EncodeResult where
  returned : Bool
  self : CH264EncodeRtp
  dst : Memory
  dstLen : Nat
  flags : CoderFlags

def encodeFrames (self : CH264EncodeRtp) (src : Memory) (srcLen : Nat) (dst : Memory)
    (dstLen : Nat) : Logged RtpAccess EncodeResult := do
  let frame ← self.stageFrame src srcLen
  let dstRTP : RTPFrame := { frame := dst, frameLen := i32 dstLen }
  let result := frame.getRTPFrame dstRTP
  pure
    { returned := true
      self := { encapsulation := result.self }
      dst := result.frame.frame
      dstLen := u32 result.frame.getFrameLen
      flags := result.flags }

end CH264EncodeRtp

structure CH264DecodeRtp where
  fullFrame : H264Frame
  haveGetKeyFrame : Bool
  width : Int
  height : Int

structure DecodeArgs where
  dst : Memory
  dstLen : Nat
  flags : CoderFlags
  nWidth : Int
  nHeight : Int

structure DecodeResult where
  returned : Bool
  self : CH264DecodeRtp
  args : DecodeArgs

namespace CH264DecodeRtp

/-- The constructor.  Only `m_bHaveGetKeyFrame` is initialized. -/
def new (encodedFrame : Memory) (nals : Nat → NALU) (width height : Int) :
    CH264DecodeRtp :=
  { fullFrame := H264Frame.new encodedFrame nals
    haveGetKeyFrame := false
    width := width
    height := height }

/-- The end of `DecodeFrames` behind the key-frame gate: the frame is delivered. -/
def deliver (self : CH264DecodeRtp) (report : KeyFrameReport) (args : DecodeArgs) :
    DecodeResult :=
  let width := if report.returned then report.width else self.width
  let height := if report.returned then report.height else self.height
  { returned := true
    self :=
      { fullFrame := self.fullFrame.beginNewFrame 0
        haveGetKeyFrame := self.haveGetKeyFrame || report.returned
        width := width
        height := height }
    args :=
      { dst := copy args.dst 0 self.fullFrame.encodedFrame 0 self.fullFrame.encodedFrameLen
        dstLen := self.fullFrame.encodedFrameLen
        flags :=
          { args.flags with
            iFrame := args.flags.iFrame || report.returned
            lastFrame := true }
        nWidth := width
        nHeight := height } }

def withhold (self : CH264DecodeRtp) (report : KeyFrameReport) (args : DecodeArgs) :
    DecodeResult :=
  { returned := true
    self :=
      { self with fullFrame := self.fullFrame.beginNewFrame 0, width := 0, height := 0 }
    args :=
      { args with
        flags := { args.flags with requestIFrame := true }
        nWidth := report.width
        nHeight := report.height } }

/-- The key-frame gate of `DecodeFrames`. -/
def passGate (self : CH264DecodeRtp) (report : KeyFrameReport) (args : DecodeArgs) :
    DecodeResult :=
  if !report.returned && !self.haveGetKeyFrame then self.withhold report args
  else self.deliver report args

/-- `DecodeFrames` after an accepted packet with the marker bit. -/
def completeFrame (self : CH264DecodeRtp) (args : DecodeArgs) :
    Logged RtpAccess DecodeResult := do
  let bytesToDecode := self.fullFrame.encodedFrameLen
  if bytesToDecode = 0 then
    pure
      { returned := false
        self := { self with fullFrame := self.fullFrame.beginNewFrame 0 }
        args := args }
  else do
    let report ← (isH264KeyFrame self.fullFrame.encodedFrame 0 bytesToDecode).mapLog .inr
    pure (self.passGate report args)

def readMarker (frame : RTPFrame) : Logged RtpAccess Unit :=
  if frame.frameLen < 2 then pure () else emit (.inl (.packet 1 1))

/-- `DecodeFrames` behind the call of `SetFromRTPFrame`. -/
def decodeReceived (self : CH264DecodeRtp) (srcRTP : RTPFrame) (received : H264Frame.Received)
    (args : DecodeArgs) : Logged RtpAccess DecodeResult :=
  let self := { self with fullFrame := received.self }
  let args := { args with dstLen := 0, flags := received.flags }
  if !received.returned then pure { returned := false, self := self, args := args }
  else do
    readMarker srcRTP
    if !srcRTP.getMarker then pure { returned := false, self := self, args := args }
    else self.completeFrame args

def decodeFrames (self : CH264DecodeRtp) (src : Memory) (srcLen : Nat) (args : DecodeArgs) :
    Logged RtpAccess DecodeResult := do
  let srcRTP : RTPFrame := { frame := src, frameLen := i32 srcLen }
  let received ← (self.fullFrame.setFromRTPFrame srcRTP args.flags).mapLog .inl
  self.decodeReceived srcRTP received args

theorem value_decodeFrames (decoder : CH264DecodeRtp) (src : Memory) (srcLen : Nat)
    (args : DecodeArgs) :
    (decoder.decodeFrames src srcLen args).value =
      (decoder.decodeReceived { frame := src, frameLen := i32 srcLen }
        (decoder.fullFrame.setFromRTPFrame { frame := src, frameLen := i32 srcLen }
          args.flags).value args).value := by
  simp only [decodeFrames, value_bind, value_mapLog]

end CH264DecodeRtp

end DShowCapture
