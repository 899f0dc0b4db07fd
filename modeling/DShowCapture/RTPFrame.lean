/-
The RTP frame accessor of `jrtp/rtpframe.h`, and the result flags of the plug-in
codec interface that the packetizer and the depacketizer report with it.

A frame is a view of memory: an address range that begins at zero, and whatever
lies behind it.  The accessor never checks the range of the bytes it reads beyond
the tests written here.
-/
import DShowCapture.Library.ByteMemory
import DShowCapture.Library.FixedWidth

namespace DShowCapture

open ByteMemory FixedWidth

/-- `PluginCodec_ReturnCoderFlags`: one field for each bit that the modelled code sets. -/
structure CoderFlags where
  lastFrame : Bool
  iFrame : Bool
  requestIFrame : Bool
  deriving DecidableEq, Repr

def CoderFlags.none : CoderFlags :=
  { lastFrame := false, iFrame := false, requestIFrame := false }

structure RTPFrame where
  frame : Memory
  frameLen : Int

namespace RTPFrame

/-- `GetHeaderSize`.  The extension length is added as bytes, as the source has it. -/
def getHeaderSize (self : RTPFrame) : Nat :=
  if self.frameLen < 12 then 0
  else
    let size := 12 + (self.frame 0 &&& 0x0f).toNat * 4
    if self.frame 0 &&& 0x10 = 0 then size
    else if ((size + 4 : Nat) : Int) < self.frameLen then
      size + 4 + ((self.frame (size + 2)).toNat <<< 8) + (self.frame (size + 3)).toNat
    else 0

def getPayloadSize (self : RTPFrame) : Nat :=
  u32 (self.frameLen - self.getHeaderSize)

def setPayloadSize (self : RTPFrame) (size : Int) : RTPFrame :=
  { self with frameLen := size + self.getHeaderSize }

def getFrameLen (self : RTPFrame) : Int := self.frameLen

/-- `GetPayloadPtr`, as an address in the memory of the frame. -/
def getPayloadPtr (self : RTPFrame) : Nat := self.getHeaderSize

def getMarker (self : RTPFrame) : Bool :=
  if self.frameLen < 2 then false else self.frame 1 &&& 0x80 != 0

def setMarker (self : RTPFrame) (set : Bool) : RTPFrame :=
  if self.frameLen < 2 then self
  else
    let cleared := self.frame 1 &&& 0x7f
    { self with
      frame := Function.update self.frame 1 (if set then cleared ||| 0x80 else cleared) }

def setTimestamp (self : RTPFrame) (timestamp : Nat) : RTPFrame :=
  if self.frameLen < 8 then self
  else
    { self with
      frame := store self.frame 4
        [UInt8.ofNat (timestamp >>> 24), UInt8.ofNat (timestamp >>> 16),
          UInt8.ofNat (timestamp >>> 8), UInt8.ofNat timestamp] }

def payload (self : RTPFrame) : List UInt8 :=
  read self.frame self.getPayloadPtr self.getPayloadSize

/-- The first byte announces neither contributing sources nor an extension, and the
twelve header bytes are there. -/
def Plain (self : RTPFrame) : Prop :=
  12 ≤ self.frameLen ∧ self.frame 0 &&& 0x1f = 0

private theorem plain_bits :
    ∀ byte : UInt8, byte &&& 0x1f = 0 → (byte &&& 0x0f).toNat = 0 ∧ byte &&& 0x10 = 0 :=
  forall_byte (by decide +kernel)

theorem Plain.noExtension {rtp : RTPFrame} (plain : rtp.Plain) : rtp.frame 0 &&& 0x10 = 0 :=
  (plain_bits (rtp.frame 0) plain.2).2

theorem getHeaderSize_of_plain {self : RTPFrame} (plain : self.Plain) :
    self.getHeaderSize = 12 := by
  have bits := plain_bits (self.frame 0) plain.2
  have long : ¬ self.frameLen < 12 := by
    have atLeast := plain.1
    omega
  simp only [getHeaderSize, if_neg long, if_pos bits.2, bits.1]

theorem getHeaderSize_of_no_extension {self : RTPFrame} (long : 12 ≤ self.frameLen)
    (noExtension : self.frame 0 &&& 0x10 = 0) :
    self.getHeaderSize = 12 + (self.frame 0 &&& 0x0f).toNat * 4 := by
  have notShort : ¬ self.frameLen < 12 := by omega
  simp only [getHeaderSize, if_neg notShort, if_pos noExtension]

theorem getPayloadPtr_of_plain {self : RTPFrame} (plain : self.Plain) :
    self.getPayloadPtr = 12 :=
  getHeaderSize_of_plain plain

theorem getPayloadSize_of_plain {self : RTPFrame} (plain : self.Plain)
    (short : self.frameLen < 2147483648) :
    (self.getPayloadSize : Int) = self.frameLen - 12 := by
  have atLeast := plain.1
  rw [getPayloadSize, getHeaderSize_of_plain plain]
  unfold u32
  omega

@[simp] theorem frameLen_setMarker (self : RTPFrame) (set : Bool) :
    (self.setMarker set).frameLen = self.frameLen := by
  unfold setMarker
  split <;> rfl

@[simp] theorem frameLen_setTimestamp (self : RTPFrame) (timestamp : Nat) :
    (self.setTimestamp timestamp).frameLen = self.frameLen := by
  unfold setTimestamp
  split <;> rfl

/-- The setters of the header leave every byte behind byte seven alone. -/
theorem frame_setMarker_of_ne (self : RTPFrame) (set : Bool) (address : Nat)
    (other : address ≠ 1) : (self.setMarker set).frame address = self.frame address := by
  unfold setMarker
  split
  · rfl
  · exact Function.update_of_ne other _ _

theorem frame_setTimestamp_of_outside (self : RTPFrame) (timestamp address : Nat)
    (outside : address < 4 ∨ 8 ≤ address) :
    (self.setTimestamp timestamp).frame address = self.frame address := by
  unfold setTimestamp
  split
  · rfl
  · have notInside : ¬ (4 ≤ address ∧ address < 4 + 4) := by omega
    simp only [store, copy, List.length_cons, List.length_nil, Nat.zero_add,
      Nat.reduceAdd, if_neg notInside]

private theorem marker_bits :
    ∀ byte : UInt8, ((byte &&& 0x7f ||| 0x80) &&& 0x80 != 0) = true ∧
      (byte &&& 0x7f &&& 0x80 != 0) = false :=
  forall_byte (by decide +kernel)

@[simp] theorem getMarker_setMarker (self : RTPFrame) (set : Bool)
    (long : 2 ≤ self.frameLen) : (self.setMarker set).getMarker = set := by
  have notShort : ¬ self.frameLen < 2 := by omega
  have bits := marker_bits (self.frame 1)
  cases set <;>
    simp only [getMarker, setMarker, if_neg notShort, Function.update_self, bits.1, bits.2,
      if_true, Bool.false_eq_true, if_false]

/-! ### Filling a frame -/

theorem plain_setPayloadSize {self : RTPFrame} (plain : self.Plain) (size : Nat) :
    (self.setPayloadSize size).Plain ∧ (self.setPayloadSize size).frameLen = 12 + size := by
  have lengthEq : (self.setPayloadSize size).frameLen = 12 + size := by
    simp only [setPayloadSize, getHeaderSize_of_plain plain]
    omega
  refine ⟨⟨?_, plain.2⟩, lengthEq⟩
  omega

theorem Plain.overwrite {self : RTPFrame} (plain : self.Plain) {start : Nat}
    (behind : 12 ≤ start) (source : Memory) (data count : Nat) :
    ({ self with frame := copy self.frame start source data count } : RTPFrame).Plain := by
  refine ⟨plain.1, ?_⟩
  have untouched : copy self.frame start source data count 0 = self.frame 0 :=
    copy_of_lt _ _ _ _ _ _ (by omega)
  simp only [untouched]
  exact plain.2

structure Filled (rtp : RTPFrame) (payload : List UInt8) : Prop where
  plain : rtp.Plain
  length : rtp.frameLen = 12 + payload.length
  held : read rtp.frame 12 payload.length = payload

theorem Filled.getPayloadSize {rtp : RTPFrame} {payload : List UInt8}
    (filled : rtp.Filled payload) (small : payload.length < 1073741824) :
    rtp.getPayloadSize = payload.length := by
  have lengthEq := filled.length
  have sizeEq := getPayloadSize_of_plain filled.plain (by omega)
  omega

structure Emits (rtp : RTPFrame) (payload : List UInt8) (marker : Bool) : Prop where
  length : rtp.frameLen = 12 + payload.length
  plain : rtp.Plain
  held : read rtp.frame 12 payload.length = payload
  marked : rtp.getMarker = marker

theorem emits_of_filled {self : RTPFrame} {payload : List UInt8} (plain : self.Plain)
    (length : self.frameLen = 12 + payload.length)
    (held : read self.frame 12 payload.length = payload) (timestamp : Nat) (marker : Bool) :
    ((self.setTimestamp timestamp).setMarker marker).Emits payload marker := by
  have untouched : ∀ address, address = 0 ∨ 12 ≤ address →
      ((self.setTimestamp timestamp).setMarker marker).frame address =
        self.frame address := by
    intro address outside
    rw [frame_setMarker_of_ne _ _ _ (by omega),
      frame_setTimestamp_of_outside _ _ _ (by omega)]
  refine
    { length := by simpa using length
      plain := ?_
      held := ?_
      marked := getMarker_setMarker _ _ (by simp; omega) }
  · refine ⟨by simpa using plain.1, ?_⟩
    rw [untouched 0 (Or.inl rfl)]
    exact plain.2
  · refine Eq.trans (read_congr _ _ _ _ _ ?_) held
    intro index _
    exact untouched (12 + index) (Or.inr (by omega))

theorem Emits.payload {self : RTPFrame} {payload : List UInt8} {marker : Bool}
    (emits : self.Emits payload marker) (small : payload.length < 1073741824) :
    self.payload = payload := by
  have lengthEq := emits.length
  have sizeEq := getPayloadSize_of_plain emits.plain (by omega)
  have countEq : self.getPayloadSize = payload.length := by omega
  rw [RTPFrame.payload, getPayloadPtr_of_plain emits.plain, countEq]
  exact emits.held

end RTPFrame

end DShowCapture
