/-
The sending half of `jrtp/h264frame.cpp`: staging the NAL units of a frame and
handing them out one RTP frame at a time, whole or as FU-A fragments.

The position of the packetizer is part of the frame object and survives from call
to call; aggregation packets are compiled out (`SEND_STAP_PACKETS`).
-/
import DShowCapture.H264Frame.State

namespace DShowCapture

open ByteMemory FixedWidth Logged

namespace H264Frame

/-- `AddNALU`.  The start-code test looks at the beginning of `m_encodedFrame`, whichever
NAL unit is being added. -/
def addNALU (self : H264Frame) (type : UInt8) (length : Nat) (source : Memory)
    (payload : Nat) : Logged FrameAccess H264Frame := do
  emit (.nal self.numberOfNALsInFrame self.nalsAllocated)
  emit (.frame self.encodedFrameLen length)
  let encodedFrame :=
    copy self.encodedFrame self.encodedFrameLen source payload length
  let header : Nat :=
    if isStartCode encodedFrame 0 then (if encodedFrame 2 == 1 then 3 else 4) else 0
  let nal : NALU :=
    { type := type
      offset := u32 (self.encodedFrameLen + header)
      length := u32 (length - header) }
  pure
    { self with
      encodedFrame := encodedFrame
      nals := Function.update self.nals self.numberOfNALsInFrame nal
      numberOfNALsInFrame := u32 (self.numberOfNALsInFrame + 1)
      encodedFrameLen := u32 (self.encodedFrameLen + length) }

structure NALUArgs where
  type : UInt8
  length : Nat
  source : Memory
  payload : Nat

def NALUArgs.bytes (self : NALUArgs) : List UInt8 :=
  read self.source self.payload self.length

def addNALUs : H264Frame → List NALUArgs → Logged FrameAccess H264Frame
  | self, [] => pure self
  | self, call :: rest => do
      let self ← self.addNALU call.type call.length call.source call.payload
      addNALUs self rest

structure Encapsulated where
  returned : Bool
  self : H264Frame
  frame : RTPFrame
  flags : CoderFlags

def fillSingle (frame : RTPFrame) (source : Memory) (data curNALLen timestamp : Nat)
    (marker : Bool) : RTPFrame :=
  let frame := frame.setPayloadSize (i32 curNALLen)
  let frame :=
    { frame with frame := copy frame.frame frame.getPayloadPtr source data curNALLen }
  (frame.setTimestamp timestamp).setMarker marker

def fillFragment (frame : RTPFrame) (header : UInt8 × UInt8) (source : Memory)
    (data curFULen timestamp : Nat) (marker : Bool) : RTPFrame :=
  let frame := frame.setPayloadSize (i32 (u32 (curFULen + 2)))
  let frame :=
    { frame with frame := store frame.frame frame.getPayloadPtr [header.1, header.2] }
  let frame :=
    { frame with
      frame := copy frame.frame (frame.getPayloadPtr + 2) source data curFULen }
  (frame.setTimestamp timestamp).setMarker marker

/-- The first branch of `EncapsulateFU`: take up the current NAL unit and strip its
header byte. -/
def beginFU (self : H264Frame) : H264Frame :=
  let nal := self.nals self.currentNAL
  let first := self.encodedFrame nal.offset
  { self with
    currentNALFURemainingLen := u32 (nal.length - 1)
    currentNALFURemainingDataPtr := some (nal.offset + 1)
    currentNALFUHeader0 := first &&& 0xe0 ||| 28
    currentNALFUHeader1 := first &&& 0x1f }

def atFUStart (self : H264Frame) : Bool :=
  self.currentNALFURemainingLen == 0 || self.currentNALFURemainingDataPtr.isNone

def lastNAL (self : H264Frame) : Bool :=
  u32 (self.currentNAL + 1) ≥ self.numberOfNALsInFrame

def lastFragment (self : H264Frame) : Bool :=
  u32 (self.currentNALFURemainingLen + 2) ≤ self.maxPayloadSize

def curFULen (self : H264Frame) : Nat :=
  if self.lastFragment then self.currentNALFURemainingLen else u32 (self.maxPayloadSize - 2)

def fragmentHeader (self : H264Frame) (first : Bool) : UInt8 × UInt8 :=
  let header1 :=
    if first then 0x80 ||| self.currentNALFUHeader1 else self.currentNALFUHeader1
  (self.currentNALFUHeader0, if self.lastFragment then header1 ||| 0x40 else header1)

/-- The last branch of `EncapsulateFU`: a NAL unit with nothing left is finished. -/
def endFU (self : H264Frame) : H264Frame :=
  if self.currentNALFURemainingLen = 0 then
    { self with
      currentNAL := u32 (self.currentNAL + 1)
      currentNALFURemainingDataPtr := none }
  else self

/-- The middle branch of `EncapsulateFU`: what is left of the NAL unit, or as much of it as
fits. -/
def sendFragment (self : H264Frame) (first : Bool) (frame : RTPFrame) (flags : CoderFlags) :
    Encapsulated :=
  if 0 < self.currentNALFURemainingLen then
    let curFULen := self.curFULen
    let data := self.currentNALFURemainingDataPtr.getD 0
    let frame :=
      fillFragment frame (self.fragmentHeader first) self.encodedFrame data curFULen
        self.timestamp (self.lastFragment && self.lastNAL)
    let flags := { flags with lastFrame := flags.lastFrame || frame.getMarker }
    let self :=
      { self with
        currentNALFURemainingDataPtr := some (data + curFULen)
        currentNALFURemainingLen := u32 (self.currentNALFURemainingLen - curFULen) }
    { returned := true, self := self.endFU, frame := frame, flags := flags }
  else
    { returned := true, self := self.endFU, frame := frame, flags := flags }

def encapsulateFU (self : H264Frame) (frame : RTPFrame) (flags : CoderFlags) :
    Encapsulated :=
  let first := self.atFUStart
  (if first then self.beginFU else self).sendFragment first frame flags

def getRTPFrame (self : H264Frame) (frame : RTPFrame) : Encapsulated :=
  let flags := { CoderFlags.none with iFrame := self.isSync }
  if self.currentNAL < self.numberOfNALsInFrame then
    let curNAL := self.nals self.currentNAL
    if curNAL.length > self.maxPayloadSize then
      self.encapsulateFU frame flags
    else
      let frame :=
        fillSingle frame self.encodedFrame curNAL.offset curNAL.length self.timestamp
          self.lastNAL
      let flags := { flags with lastFrame := flags.lastFrame || frame.getMarker }
      { returned := true
        self := { self with currentNAL := u32 (self.currentNAL + 1) }
        frame := frame
        flags := flags }
  else
    { returned := false, self := self, frame := frame, flags := flags }

/-- A `memcpy` out of `m_encodedFrame` into the packet. -/
structure PayloadCopy where
  source : Nat
  target : Nat
  count : Nat

/-- The `memcpy` of `fillSingle`. -/
def singleCopy (frame : RTPFrame) (data curNALLen : Nat) : PayloadCopy :=
  { source := data
    target := (frame.setPayloadSize (i32 curNALLen)).getPayloadPtr
    count := curNALLen }

/-- The second `memcpy` of `fillFragment`; the first one writes the two bytes in front. -/
def fragmentCopy (frame : RTPFrame) (header : UInt8 × UInt8) (data curFULen : Nat) :
    PayloadCopy :=
  let frame := frame.setPayloadSize (i32 (u32 (curFULen + 2)))
  let frame :=
    { frame with frame := store frame.frame frame.getPayloadPtr [header.1, header.2] }
  { source := data, target := frame.getPayloadPtr + 2, count := curFULen }

def fragmentCopies (self : H264Frame) (first : Bool) (frame : RTPFrame) : List PayloadCopy :=
  if 0 < self.currentNALFURemainingLen then
    [fragmentCopy frame (self.fragmentHeader first)
      (self.currentNALFURemainingDataPtr.getD 0) self.curFULen]
  else []

/-- The copies of a call of `GetRTPFrame`. -/
def payloadCopies (self : H264Frame) (frame : RTPFrame) : List PayloadCopy :=
  if self.currentNAL < self.numberOfNALsInFrame then
    let curNAL := self.nals self.currentNAL
    if curNAL.length > self.maxPayloadSize then
      let first := self.atFUStart
      (if first then self.beginFU else self).fragmentCopies first frame
    else [singleCopy frame curNAL.offset curNAL.length]
  else []

/-- `GetRTPFrame` called until it returns false, each time with a buffer of its own: what the
other calls left behind, and the frame object at the end.  Nothing when this takes more
than `calls` calls. -/
def getRTPFrames :
    Nat → (Nat → RTPFrame) → H264Frame → Option (List Encapsulated × H264Frame)
  | 0, _, _ => none
  | calls + 1, buffers, self =>
      let result := self.getRTPFrame (buffers 0)
      if result.returned then
        (getRTPFrames calls (fun call => buffers (call + 1)) result.self).map fun later =>
          (result :: later.1, later.2)
      else some ([], result.self)

end H264Frame

end DShowCapture
