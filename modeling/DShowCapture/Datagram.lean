/-
RTP datagrams as byte lists, and frames that view them.

A datagram is a header without padding and extension, with any contributing sources,
followed by a payload.  The accessor finds the payload and the marker of such a datagram
wherever in memory its bytes lie and whatever lies behind them.
-/
import DShowCapture.H264Frame.Reassembly
import DShowCapture.Library.RFC3550

namespace DShowCapture

open ByteMemory FixedWidth

structure Datagram where
  header : RFC3550.Header
  payload : List UInt8

def Datagram.bytes (self : Datagram) : List UInt8 := self.header.bytes ++ self.payload

def Datagram.Short (self : Datagram) : Prop := self.bytes.length < 2147483648

theorem Datagram.length_bytes (self : Datagram) :
    self.bytes.length = 12 + self.header.csrc.length * 4 + self.payload.length := by
  rw [bytes, List.length_append, RFC3550.Header.length_bytes]

theorem Datagram.short_of_payload {self : Datagram}
    (small : self.payload.length ≤ 1073741824) : self.Short := by
  have sources := self.header.csrcCount
  rw [Short, length_bytes]
  omega

namespace RTPFrame

structure Holds (rtp : RTPFrame) (bytes : List UInt8) : Prop where
  length : rtp.frameLen = bytes.length
  held : read rtp.frame 0 bytes.length = bytes

def view (bytes : List UInt8) : RTPFrame :=
  { frame := ofBytes bytes, frameLen := bytes.length }

theorem holds_view (bytes : List UInt8) : (view bytes).Holds bytes :=
  { length := rfl, held := read_ofBytes bytes }

theorem Holds.firstBytes {rtp : RTPFrame} {datagram : Datagram}
    (holds : rtp.Holds datagram.bytes) :
    rtp.frame 0 = datagram.header.firstByte ∧ rtp.frame 1 = datagram.header.secondByte := by
  have isLong : 12 ≤ datagram.bytes.length := by
    rw [Datagram.length_bytes]
    omega
  have first := getElem_of_read_eq holds.held 0 (by omega)
  have second := getElem_of_read_eq holds.held 1 (by omega)
  exact ⟨first, second⟩

theorem Holds.getHeaderSize {rtp : RTPFrame} {datagram : Datagram}
    (holds : rtp.Holds datagram.bytes) :
    rtp.getHeaderSize = datagram.header.bytes.length := by
  have lengthEq := holds.length
  rw [Datagram.length_bytes] at lengthEq
  have noExtension : rtp.frame 0 &&& 0x10 = 0 := by
    rw [holds.firstBytes.1]
    exact datagram.header.firstByte_extension
  rw [getHeaderSize_of_no_extension (by omega) noExtension, holds.firstBytes.1,
    RFC3550.Header.firstByte_count, RFC3550.Header.length_bytes]

theorem Holds.carries {rtp : RTPFrame} {datagram : Datagram}
    (holds : rtp.Holds datagram.bytes) (short : datagram.Short) :
    H264Frame.Carries rtp datagram.payload := by
  have lengthEq := holds.length
  have split := split_of_read_eq holds.held
  have total : datagram.bytes.length =
      datagram.header.bytes.length + datagram.payload.length := List.length_append
  unfold Datagram.Short at short
  refine { size := ?_, held := ?_ }
  · rw [getPayloadSize, holds.getHeaderSize]
    unfold u32
    omega
  · rw [getPayloadPtr, holds.getHeaderSize]
    simpa using split.2

theorem Holds.getMarker {rtp : RTPFrame} {datagram : Datagram}
    (holds : rtp.Holds datagram.bytes) : rtp.getMarker = datagram.header.marker := by
  have lengthEq := holds.length
  rw [Datagram.length_bytes] at lengthEq
  have isLong : ¬ rtp.frameLen < 2 := by omega
  rw [RTPFrame.getMarker, if_neg isLong, holds.firstBytes.2]
  exact datagram.header.secondByte_marker

end RTPFrame

end DShowCapture
