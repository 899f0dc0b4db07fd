/-
The bit reader of `jrtp/Is_H264KeyFrame.cpp`: single bits and Exp-Golomb codes.

`(bit[n++] & byte) >> (7 - n)` is read with the shift count before the increment.
Readers that run out of data return zero, and leave the bit offset at the value it
had when they were called.
-/
import DShowCapture.KeyFrame.NalScanner
import DShowCapture.Library.FixedWidth

namespace DShowCapture

open ByteMemory FixedWidth Logged

def bitMask : Nat → UInt8
  | 0 => 0x80
  | 1 => 0x40
  | 2 => 0x20
  | 3 => 0x10
  | 4 => 0x08
  | 5 => 0x04
  | 6 => 0x02
  | _ => 0x01

def extractBit (byte : UInt8) (n : Nat) : Nat :=
  (bitMask n &&& byte).toNat >>> (7 - n)

/-- The three reference arguments of the readers: `*pFrameData`, `*pSize` and
`*pFromByteBits`. -/
structure BitCursor where
  frameData : Nat
  size : Int
  fromByteBits : Nat
  deriving DecidableEq, Repr

namespace BitCursor

def nextByte (self : BitCursor) : BitCursor :=
  { frameData := self.frameData + 1, size := self.size - 1, fromByteBits := 0 }

end BitCursor

def getBits1 (memory : Memory) (cursor : BitCursor) :
    Logged ScanAccess (Int × BitCursor) := do
  if cursor.size < 0 then pure (0, cursor)
  else do
    emit (.read cursor.frameData 1)
    let value := extractBit (memory cursor.frameData) cursor.fromByteBits
    let byteBits := cursor.fromByteBits + 1
    if byteBits = 8 then
      let next := cursor.nextByte
      if next.size ≤ 0 then pure (0, { next with fromByteBits := cursor.fromByteBits })
      else pure (value, next)
    else pure (value, { cursor with fromByteBits := byteBits })

/-- The conversion of a `double` that holds an integer to `int`; values out of range give
the value that the processor's conversion instruction gives. -/
def truncateToInt (value : Int) : Int :=
  if -2147483648 ≤ value ∧ value < 2147483648 then value else -2147483648

/-- The loop over the leading zero bits of a code: their number and the cursor behind the
marker bit, whose offset may be eight. -/
def golombPrefix (memory : Memory) (cursor : BitCursor) (golombBits : Nat) :
    Logged ScanAccess (Option Nat × BitCursor) := do
  emit (.read cursor.frameData 1)
  if bitMask cursor.fromByteBits &&& memory cursor.frameData ≠ 0 then
    pure (some golombBits, { cursor with fromByteBits := cursor.fromByteBits + 1 })
  else if 8 ≤ cursor.fromByteBits + 1 then
    if cursor.nextByte.size ≤ 0 then pure (none, cursor.nextByte)
    else golombPrefix memory cursor.nextByte (golombBits + 1)
  else
    golombPrefix memory { cursor with fromByteBits := cursor.fromByteBits + 1 }
      (golombBits + 1)
termination_by (cursor.size.toNat, 8 - cursor.fromByteBits)
decreasing_by
  · simp only [BitCursor.nextByte] at *
    exact Prod.Lex.left _ _ (by omega)
  · exact Prod.Lex.right _ (by omega)

/-- The loop over the suffix bits of a code. -/
def golombSuffix (memory : Memory) :
    Nat → BitCursor → Int → Logged ScanAccess (Option Int × BitCursor)
  | 0, cursor, golombInfo => pure (some golombInfo, cursor)
  | remaining + 1, cursor, golombInfo => do
      let next := if cursor.fromByteBits = 8 then cursor.nextByte else cursor
      if cursor.fromByteBits = 8 ∧ next.size ≤ 0 then pure (none, next)
      else do
        emit (.read next.frameData 1)
        let value := golombInfo * 2 + extractBit (memory next.frameData) next.fromByteBits
        emit (.arithmetic value)
        golombSuffix memory remaining { next with fromByteBits := next.fromByteBits + 1 }
          (i32 value)

/-- The common body of `get_ue_golomb` and `get_se_golomb` behind their first test: the
code number, or nothing when the data runs out. -/
def golombCode (memory : Memory) (cursor : BitCursor) :
    Logged ScanAccess (Option Int × BitCursor) := do
  let (golombBits, afterPrefix) ← golombPrefix memory cursor 0
  match golombBits with
  | none => pure (none, { afterPrefix with fromByteBits := cursor.fromByteBits })
  | some golombBits => do
      emit (.arithmetic (2 ^ golombBits))
      let (golombInfo, afterSuffix) ← golombSuffix memory golombBits afterPrefix 0
      match golombInfo with
      | none => pure (none, { afterSuffix with fromByteBits := cursor.fromByteBits })
      | some golombInfo => do
          let codeNum := truncateToInt (2 ^ golombBits) + golombInfo - 1
          emit (.arithmetic codeNum)
          if afterSuffix.fromByteBits = 8 then
            let next := afterSuffix.nextByte
            if next.size ≤ 0 then
              pure (none, { next with fromByteBits := cursor.fromByteBits })
            else pure (some (i32 codeNum), next)
          else pure (some (i32 codeNum), afterSuffix)

def getUeGolomb (memory : Memory) (cursor : BitCursor) :
    Logged ScanAccess (Int × BitCursor) := do
  if cursor.size ≤ 0 then pure (0, cursor)
  else do
    let (codeNum, cursor) ← golombCode memory cursor
    pure (codeNum.getD 0, cursor)

/-- `(I_INT)pow(-1.0f, code_num + 1) * ((I_INT)(code_num / 2 + 0.5))`, with the division
of the integers and the truncations toward zero of C. -/
def signedCode (codeNum : Int) : Int :=
  let half := codeNum.tdiv 2
  let rounded := if half < 0 then half + 1 else half
  if (codeNum + 1) % 2 = 0 then rounded else -rounded

def getSeGolomb (memory : Memory) (cursor : BitCursor) :
    Logged ScanAccess (Int × BitCursor) := do
  if cursor.size < 0 then pure (0, cursor)
  else do
    let (codeNum, cursor) ← golombCode memory cursor
    match codeNum with
    | none => pure (0, cursor)
    | some codeNum => do
        emit (.arithmetic (codeNum + 1))
        pure (signedCode codeNum, cursor)

end DShowCapture
