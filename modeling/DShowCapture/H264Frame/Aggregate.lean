/-
Which aggregates the frame object accepts.

Beyond the guard for payloads of at most three bytes, the walk over an aggregate accepts
the grammar of the format: units behind their sizes that fill the payload exactly.
-/
import DShowCapture.H264Frame.Tiling

namespace DShowCapture

open ByteMemory FixedWidth Logged AnnexB

namespace H264Frame

section Payload

variable {frame : H264Frame} {rtp : RTPFrame} {header : UInt8} {rest : List UInt8}

theorem deencapsulateSTAP_appends {assembly : Assembly} (represents : Represents frame assembly)
    {nals : List (List UInt8)} (aggregable : RFC6184.Aggregable nals)
    (carries : Carries rtp (RFC6184.stapPayload header nals))
    (room : frame.encodedFrameLen + streamSize nals ≤ maxFrameSize) :
    Appends frame (frame.deencapsulateSTAP rtp).value.2 nals := by
  have stepped := (represents_deencapsulateSTAP represents aggregable carries).2
  rw [represents.length, Assembly.size_eq] at room
  have grown : nals.foldl Assembly.addNAL assembly =
      { nals := assembly.nals ++ nals, openFragments := assembly.openFragments } :=
    Assembly.foldl_addNAL_eq room
  rw [grown] at stepped
  exact represents.appends stepped

end Payload

end H264Frame

end DShowCapture
