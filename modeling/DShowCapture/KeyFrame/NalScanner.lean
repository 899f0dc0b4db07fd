/-
The NAL unit scanner of `jrtp/Is_H264KeyFrame.cpp`: recognizing start codes and
cutting a byte buffer into NAL units.

Sizes are natural numbers: every caller passes a length that is not negative.
-/
import DShowCapture.Library.ByteMemory
import DShowCapture.Library.Logged

namespace DShowCapture

open ByteMemory Logged

/-- One event of the byte scanners of this source file. -/
inductive ScanAccess
  /-- A read of `count` bytes of the scanned buffer from `start` on. -/
  | read (start count : Nat)
  /-- The beginning of a round of the loop over the reference frames, with this `*pSize`. -/
  | refFrameRound (size : Int)
  /-- A write of `sps->offset_for_ref_frame[index]`. -/
  | offsetForRefFrame (index : Nat)
  /-- The exact value of a C expression of type `int`. -/
  | arithmetic (value : Int)
  deriving DecidableEq, Repr

/-- `isNalHead`: the length of the start code at `data`, or zero. -/
def isNalHead (memory : Memory) (data size : Nat) : Logged ScanAccess Nat := do
  emitIf (size ≥ 4) (.read data 4)
  if size ≥ 4 ∧ memory data = 0 ∧ memory (data + 1) = 0 ∧ memory (data + 2) = 0 ∧
      memory (data + 3) = 1 then pure 4
  else do
    emitIf (size ≥ 3) (.read data 3)
    if size ≥ 3 ∧ memory data = 0 ∧ memory (data + 1) = 0 ∧ memory (data + 2) = 1 then
      pure 3
    else pure 0

/-- `isNalTail`: as `isNalHead`, but three zero bytes count too. -/
def isNalTail (memory : Memory) (data size : Nat) : Logged ScanAccess Nat := do
  let head ← isNalHead memory data size
  if head ≠ 0 then pure head
  else if size ≥ 3 ∧ memory data = 0 ∧ memory (data + 1) = 0 ∧ memory (data + 2) = 0 then
    pure 3
  else pure 0

/-- The `while` loop of `GetNALSize` from index `i` on: the index where it stops and the
length of the sign found there. -/
def getNALSizeLoop (memory : Memory) (data nSize i : Nat) :
    Logged ScanAccess (Nat × Nat) :=
  if i < nSize then do
    let endSignLen ← isNalTail memory (data + i) (nSize - i)
    if endSignLen = 0 then getNALSizeLoop memory data nSize (i + 1)
    else pure (i, endSignLen)
  else pure (i, 0)
termination_by nSize - i

/-- `GetNALSize`: the length of the start code at `data`, and the size of the NAL unit
behind it. -/
def getNALSize (memory : Memory) (data nSize : Nat) : Logged ScanAccess (Nat × Nat) := do
  let signLen ← isNalHead memory data nSize
  let (i, endSignLen) ← getNALSizeLoop memory data nSize signLen
  pure (signLen, if endSignLen = 0 then nSize - signLen else i - signLen)

structure H264Nal where
  type : UInt8
  pdata : Nat
  len : Nat
  deriving DecidableEq, Repr

/-- The inner loop of `GetNalSize`: the start-code length (zero when there is none), the
address and the bytes left there. -/
def searchNalHead (memory : Memory) : Nat → Nat → Logged ScanAccess (Nat × Nat × Nat)
  | data, 0 => pure (0, data, 0)
  | data, dataSize + 1 => do
      let signLen ← isNalHead memory data (dataSize + 1)
      if signLen ≠ 0 then pure (signLen, data, dataSize + 1)
      else searchNalHead memory (data + 1) dataSize

/-- `GetNalSize`: at most `maxNal` NAL units of the buffer.  The recursion is on the room
left in the result array. -/
def getNalSize (memory : Memory) : Nat → Nat → Nat → Logged ScanAccess (List H264Nal)
  | 0, _, _ => pure []
  | room + 1, data, dataSize =>
      if dataSize = 0 then pure []
      else do
        let (signLen, data, dataSize) ← searchNalHead memory data dataSize
        if signLen = 0 then pure []
        else do
          let (signLen, size) ← getNALSize memory data dataSize
          emit (.read (data + signLen) 1)
          let nal : H264Nal :=
            { type := memory (data + signLen) &&& 0x1f
              pdata := data + signLen
              len := size }
          let rest ← getNalSize memory room (data + (signLen + size))
            (dataSize - (signLen + size))
          pure (nal :: rest)

end DShowCapture
