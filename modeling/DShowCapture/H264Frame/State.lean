/-
The frame object of `jrtp/h264frame.h`, shared by the sender and the receiver, and
the events by which its memory accesses are recorded.

`m_encodedFrame` is a memory block of `MAX_FRAME_SIZE` bytes and `m_NALs` a table of
`nalsAllocated` entries, with zero entries for the null pointer.  Both are kept as
total functions: bytes left over from earlier frames stay in place, as they do in
the program, and an access outside the allocated range is visible in the log.
-/
import DShowCapture.RTPFrame
import DShowCapture.Library.Logged

namespace DShowCapture

open ByteMemory FixedWidth

def maxFrameSize : Nat := 768 * 1024

/-- The NAL unit types with a name in the header that the code tests for. -/
def nalTypeNonIdrSlice : UInt8 := 1
def nalTypeIdrSlice : UInt8 := 5
def nalTypeSeqParam : UInt8 := 7
def nalTypePicParam : UInt8 := 8
def nalTypeFillerData : UInt8 := 12

structure NALU where
  type : UInt8
  offset : Nat
  length : Nat
  deriving DecidableEq, Inhabited, Repr

structure H264Frame where
  timestamp : Nat
  maxPayloadSize : Nat
  encodedFrame : Memory
  encodedFrameLen : Nat
  nals : Nat → NALU
  nalsAllocated : Nat
  numberOfNALsInFrame : Nat
  currentNAL : Nat
  numberOfNALsReserved : Nat
  currentNALFURemainingLen : Nat
  currentNALFURemainingDataPtr : Option Nat
  currentNALFUHeader0 : UInt8
  currentNALFUHeader1 : UInt8
  currentFU : Nat

/-- One access to memory that the size of an input could push out of range. -/
inductive FrameAccess
  /-- A read of `count` bytes of the received packet from `start` on. -/
  | packet (start count : Nat)
  /-- A write of `count` bytes of `m_encodedFrame` from `start` on. -/
  | frame (start count : Nat)
  /-- A write of entry `index` of the NAL table, which has `entries` entries. -/
  | nal (index entries : Nat)
  deriving DecidableEq, Repr

namespace H264Frame

/-- `BeginNewFrame`.  A new table holds arbitrary entries; the old ones stand for them. -/
def beginNewFrame (self : H264Frame) (numberOfNALs : Nat) : H264Frame :=
  { self with
    encodedFrameLen := 0
    numberOfNALsInFrame := 0
    currentNAL := 0
    currentNALFURemainingLen := 0
    currentNALFURemainingDataPtr := none
    currentNALFUHeader0 := 0
    currentNALFUHeader1 := 0
    currentFU := 0
    nalsAllocated := if 0 < numberOfNALs then numberOfNALs else self.nalsAllocated }

/-- The constructor.  The block from `malloc` holds arbitrary bytes. -/
def new (encodedFrame : Memory) (nals : Nat → NALU) : H264Frame :=
  { timestamp := 0
    maxPayloadSize := 1400
    encodedFrame := encodedFrame
    encodedFrameLen := 0
    nals := nals
    nalsAllocated := 0
    numberOfNALsInFrame := 0
    currentNAL := 0
    numberOfNALsReserved := 0
    currentNALFURemainingLen := 0
    currentNALFURemainingDataPtr := none
    currentNALFUHeader0 := 0
    currentNALFUHeader1 := 0
    currentFU := 0 }

def setMaxPayloadSize (self : H264Frame) (maxPayloadSize : Nat) : H264Frame :=
  { self with maxPayloadSize := u16 maxPayloadSize }

def hasRTPFrames (self : H264Frame) : Bool :=
  self.currentNAL < self.numberOfNALsInFrame

def nalTable (self : H264Frame) : List NALU :=
  (List.range self.numberOfNALsInFrame).map self.nals

def assembled (self : H264Frame) : List UInt8 :=
  read self.encodedFrame 0 self.encodedFrameLen

def isSync (self : H264Frame) : Bool :=
  self.nalTable.any fun nal =>
    nal.type == nalTypeIdrSlice || nal.type == nalTypeSeqParam ||
      nal.type == nalTypePicParam

end H264Frame

def isStartCode (memory : Memory) (position : Nat) : Bool :=
  memory position == 0 && memory (position + 1) == 0 &&
    (memory (position + 2) == 1 ||
      (memory (position + 2) == 0 && memory (position + 3) == 1))

end DShowCapture
