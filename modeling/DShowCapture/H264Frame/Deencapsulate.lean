/-
The receiving half of `jrtp/h264frame.cpp`: taking the payload of an RTP frame apart
(single NAL unit, STAP-A, FU-A) and appending its NAL bytes to the frame under
assembly.

Lengths are 32-bit and are computed before they are checked, as in the source, so a
subtraction below zero wraps.  Every access that a length decides is logged.
-/
import DShowCapture.H264Frame.State

namespace DShowCapture

open ByteMemory FixedWidth Logged

namespace H264Frame

def reserveNAL (self : H264Frame) : H264Frame :=
  if u32 (self.numberOfNALsInFrame + 1) > self.numberOfNALsReserved then
    { self with
      nalsAllocated := u32 (self.numberOfNALsReserved + 1)
      numberOfNALsReserved := u32 (self.numberOfNALsReserved + 1) }
  else self

/-- The branch of `AddDataToEncodedFrame` that opens a NAL unit: the start code, the
table entry and the header byte. -/
def addHeaderToEncodedFrame (self : H264Frame) (dataLen : Nat) (header : UInt8) :
    Logged FrameAccess H264Frame := do
  emit (.frame self.encodedFrameLen 5)
  let self :=
    { self with
      encodedFrame := store self.encodedFrame self.encodedFrameLen [0, 0, 0, 1, header] }
  let self := self.reserveNAL
  if self.nalsAllocated = 0 then pure self
  else do
    emit (.nal self.numberOfNALsInFrame self.nalsAllocated)
    let nal : NALU :=
      { type := header &&& 0x1f
        offset := u32 (self.encodedFrameLen + 4)
        length := u32 (dataLen + 1) }
    pure
      { self with
        nals := Function.update self.nals self.numberOfNALsInFrame nal
        numberOfNALsInFrame := u32 (self.numberOfNALsInFrame + 1) }

/-- The other branch: the last table entry grows. -/
def extendLastNAL (self : H264Frame) (dataLen : Nat) : Logged FrameAccess H264Frame := do
  if self.nalsAllocated = 0 then pure self
  else do
    let index := u32 (self.numberOfNALsInFrame - 1)
    emit (.nal index self.nalsAllocated)
    let nal := self.nals index
    pure
      { self with
        nals := Function.update self.nals index
          { nal with length := u32 (nal.length + dataLen) } }

/-- `AddDataToEncodedFrame`.  A unit that does not fit is dropped without a report. -/
def addDataToEncodedFrame (self : H264Frame) (source : Memory) (data dataLen : Nat)
    (header : UInt8) (addHeader : Bool) : Logged FrameAccess H264Frame := do
  let headerLen : Nat := if addHeader then 5 else 0
  if u32 (self.encodedFrameLen + dataLen + headerLen) > maxFrameSize then pure self
  else do
    let position := self.encodedFrameLen + headerLen
    let self ←
      if addHeader then self.addHeaderToEncodedFrame dataLen header
      else self.extendLastNAL dataLen
    emit (.packet data dataLen)
    emit (.frame position dataLen)
    pure
      { self with
        encodedFrame := copy self.encodedFrame position source data dataLen
        encodedFrameLen := u32 (self.encodedFrameLen + dataLen + headerLen) }

/-- The `while` loop of `DeencapsulateSTAP` from address `curSTAP` on.  The unit is copied
before its size is compared with what is left. -/
def deencapsulateSTAPLoop (self : H264Frame) (source : Memory) (curSTAP curSTAPLen : Nat) :
    Logged FrameAccess (Bool × H264Frame) :=
  if curSTAPLen = 0 then pure (true, self)
  else do
    emit (.packet curSTAP 2)
    let len := bigEndian16 (source curSTAP) (source (curSTAP + 1))
    emit (.packet (curSTAP + 2) 1)
    let self ← self.addDataToEncodedFrame source (curSTAP + 3) (u32 (len - 1))
      (source (curSTAP + 2)) true
    if len + 2 > curSTAPLen then pure (false, self)
    else deencapsulateSTAPLoop self source (curSTAP + 2 + len) (curSTAPLen - (len + 2))
termination_by curSTAPLen

def deencapsulateSTAP (self : H264Frame) (frame : RTPFrame) :
    Logged FrameAccess (Bool × H264Frame) :=
  let curSTAPLen := u32 (frame.getPayloadSize - 1)
  if curSTAPLen ≤ 2 then pure (true, self)
  else self.deencapsulateSTAPLoop frame.frame (frame.getPayloadPtr + 1) curSTAPLen

/-- `DeencapsulateFU`.  A first fragment that arrives while a NAL unit is open only
resets the counter; its bytes are not added. -/
def deencapsulateFU (self : H264Frame) (frame : RTPFrame) :
    Logged FrameAccess (Bool × H264Frame) := do
  let curFUPtr := frame.getPayloadPtr
  let curFULen := frame.getPayloadSize
  emit (.packet (curFUPtr + 1) 1)
  let startBit : Bool := frame.frame (curFUPtr + 1) &&& 0x80 != 0
  let endBit : Bool := frame.frame (curFUPtr + 1) &&& 0x40 != 0
  if startBit && !endBit then
    if self.currentFU ≠ 0 then pure (true, { self with currentFU := 1 })
    else do
      let self := { self with currentFU := u16 (self.currentFU + 1) }
      emit (.packet curFUPtr 2)
      let header :=
        frame.frame curFUPtr &&& 0xe0 ||| frame.frame (curFUPtr + 1) &&& 0x1f
      let self ← self.addDataToEncodedFrame frame.frame (curFUPtr + 2)
        (u32 (curFULen - 2)) header true
      pure (true, self)
  else if !startBit && !endBit then
    if self.currentFU ≠ 0 then do
      let self := { self with currentFU := u16 (self.currentFU + 1) }
      let self ← self.addDataToEncodedFrame frame.frame (curFUPtr + 2)
        (u32 (curFULen - 2)) 0 false
      pure (true, self)
    else pure (false, { self with currentFU := 0 })
  else if !startBit && endBit then
    if self.currentFU ≠ 0 then do
      let self := { self with currentFU := 0 }
      let self ← self.addDataToEncodedFrame frame.frame (curFUPtr + 2)
        (u32 (curFULen - 2)) 0 false
      pure (true, self)
    else pure (false, { self with currentFU := 0 })
  else pure (false, { self with currentFU := 0 })

structure Received where
  returned : Bool
  self : H264Frame
  flags : CoderFlags

def rejectFrame (self : H264Frame) (flags : CoderFlags) : Received :=
  { returned := false
    self := self.beginNewFrame 0
    flags := { flags with requestIFrame := true } }

def readHeaderSize (frame : RTPFrame) : Logged FrameAccess Unit :=
  if frame.frameLen < 12 then pure ()
  else do
    emit (.packet 0 1)
    let size := 12 + (frame.frame 0 &&& 0x0f).toNat * 4
    if frame.frame 0 &&& 0x10 ≠ 0 ∧ ((size + 4 : Nat) : Int) < frame.frameLen then
      emit (.packet (size + 2) 2)
    else pure ()

def setFromRTPFrame (self : H264Frame) (frame : RTPFrame) (flags : CoderFlags) :
    Logged FrameAccess Received := do
  readHeaderSize frame
  if frame.getPayloadSize = 0 then
    pure { returned := true, self := self, flags := flags }
  else do
    emit (.packet frame.getPayloadPtr 1)
    let curNALType := frame.frame frame.getPayloadPtr &&& 0x1f
    if nalTypeNonIdrSlice ≤ curNALType ∧ curNALType ≤ nalTypeFillerData then do
      let self ← self.addDataToEncodedFrame frame.frame (frame.getPayloadPtr + 1)
        (u32 (frame.getPayloadSize - 1)) (frame.frame frame.getPayloadPtr) true
      pure { returned := true, self := self, flags := flags }
    else if curNALType = 24 then do
      let (accepted, self) ← self.deencapsulateSTAP frame
      if accepted then pure { returned := true, self := self, flags := flags }
      else pure (self.rejectFrame flags)
    else if curNALType = 28 then do
      let (accepted, self) ← self.deencapsulateFU frame
      if accepted then pure { returned := true, self := self, flags := flags }
      else pure (self.rejectFrame flags)
    else pure (self.rejectFrame flags)

end H264Frame

end DShowCapture
