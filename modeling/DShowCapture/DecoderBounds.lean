/-
Where the decoder object reads and writes, whatever packets it is given.
-/
import DShowCapture.H264Frame.Bounds
import DShowCapture.H264Rtp

namespace DShowCapture

open ByteMemory FixedWidth Logged

def RtpAccess.InBounds (srcLen : Nat) : RtpAccess → Prop
  | .inl access => access.InBounds srcLen
  | .inr _ => True

namespace CH264DecodeRtp

variable {decoder : CH264DecodeRtp} {src : Memory} {srcLen : Nat} {args : DecodeArgs}

/-- Beyond `SetFromRTPFrame` the decoder object reads only the marker of the packet. -/
theorem safe_decodeFrames_iff (short : srcLen ≤ 65535) :
    Safe (RtpAccess.InBounds srcLen) (decoder.decodeFrames src srcLen args) ↔
      Safe (FrameAccess.InBounds srcLen)
        (decoder.fullFrame.setFromRTPFrame { frame := src, frameLen := i32 srcLen }
          args.flags) := by
  have lengthEq : i32 srcLen = srcLen := i32_natCast srcLen (by omega)
  have scanSafe : ∀ {α : Type} (scan : Logged ScanAccess α),
      Safe (RtpAccess.InBounds srcLen) (scan.mapLog .inr) := by
    intro α scan
    rw [safe_mapLog]
    exact fun _ _ => trivial
  have markerSafe : Safe (RtpAccess.InBounds srcLen)
      (readMarker { frame := src, frameLen := i32 srcLen }) := by
    rw [readMarker, safe_ite]
    refine ⟨fun _ => safe_pure _ _, fun isLong => ?_⟩
    rw [safe_emit]
    intro _
    change ¬ i32 srcLen < 2 at isLong
    omega
  have behind : ∀ received : H264Frame.Received, Safe (RtpAccess.InBounds srcLen)
      (decoder.decodeReceived { frame := src, frameLen := i32 srcLen } received args) := by
    intro received
    simp only [decodeReceived, completeFrame, safe_ite, safe_bind, safe_pure, markerSafe,
      scanSafe, implies_true, and_self]
  rw [decodeFrames, safe_bind, safe_mapLog]
  exact and_iff_left (behind _)

theorem receiving_decodeReceived {rtp : RTPFrame} {received : H264Frame.Received}
    (receiving : received.self.Receiving) :
    (decoder.decodeReceived rtp received args).value.self.fullFrame.Receiving := by
  have reset := receiving.bounded.reset
  simp only [decodeReceived, completeFrame, passGate, withhold, deliver, value_ite, value_bind,
    value_pure]
  repeat' split
  all_goals first
    | exact receiving
    | exact reset

/-! ### Runs -/

/-- The decoder objects of a program run.  A call that leaves the buffers has no defined
outcome, so a run goes on only behind calls that stay in bounds. -/
inductive Reachable : CH264DecodeRtp → Prop
  | new (encodedFrame : Memory) (nals : Nat → NALU) (width height : Int) :
      Reachable (new encodedFrame nals width height)
  | decodeFrames {decoder : CH264DecodeRtp} {src : Memory} {srcLen : Nat}
      {args : DecodeArgs} (reached : Reachable decoder) (short : srcLen ≤ 65535)
      (safe : Safe (RtpAccess.InBounds srcLen) (decoder.decodeFrames src srcLen args)) :
      Reachable (decoder.decodeFrames src srcLen args).value.self

theorem reaches_of_first {rtp : RTPFrame} (lengthEq : rtp.frameLen = srcLen)
    (short : srcLen ≤ 65535) (first : rtp.getPayloadPtr + 1 ≤ srcLen) :
    H264Frame.Reaches srcLen rtp := by
  have sizeEq : rtp.getPayloadSize = srcLen - rtp.getPayloadPtr := by
    rw [RTPFrame.getPayloadPtr] at first
    rw [RTPFrame.getPayloadSize, RTPFrame.getPayloadPtr, lengthEq]
    unfold u32
    omega
  exact { inside := by omega, positive := by omega, small := short }

theorem receiving_setFromRTPFrame {frame : H264Frame} (receiving : frame.Receiving)
    {rtp : RTPFrame} (lengthEq : rtp.frameLen = srcLen) (short : srcLen ≤ 65535)
    {flags : CoderFlags}
    (safe : Safe (FrameAccess.InBounds srcLen) (frame.setFromRTPFrame rtp flags)) :
    (frame.setFromRTPFrame rtp flags).value.self.Receiving := by
  by_cases isEmpty : rtp.getPayloadSize = 0
  · simp only [H264Frame.setFromRTPFrame, isEmpty, if_true, value_bind, value_pure]
    exact receiving
  · have parts := safe
    rw [H264Frame.setFromRTPFrame, safe_bind, if_neg isEmpty, safe_bind, safe_emit] at parts
    have reaches := reaches_of_first lengthEq short (parts.2.1 (by decide))
    exact (H264Frame.safe_setFromRTPFrame receiving reaches parts.1 flags).2 safe

theorem Reachable.receiving (reached : Reachable decoder) : decoder.fullFrame.Receiving := by
  induction reached with
  | new encodedFrame nals width height =>
      exact (H264Frame.receiving_new encodedFrame nals).bounded.reset
  | @decodeFrames decoder src srcLen args reached short safe ih =>
      rw [safe_decodeFrames_iff short] at safe
      have lengthEq : RTPFrame.frameLen { frame := src, frameLen := i32 srcLen } = srcLen :=
        i32_natCast srcLen (by omega)
      have after := receiving_setFromRTPFrame ih lengthEq short safe
      rw [value_decodeFrames]
      exact receiving_decodeReceived after

theorem safe_setFromRTPFrame_of_plain {frame : H264Frame} (receiving : frame.Receiving)
    {rtp : RTPFrame} (plain : rtp.Plain) (lengthEq : rtp.frameLen = srcLen)
    (short : srcLen ≤ 65535) (flags : CoderFlags) :
    Safe (FrameAccess.InBounds srcLen) (frame.setFromRTPFrame rtp flags) ↔
      H264Frame.PayloadInBounds frame.encodedFrameLen (read rtp.frame 12 (srcLen - 12)) := by
  have long := plain.1
  have ptrEq := RTPFrame.getPayloadPtr_of_plain plain
  have sizeEq := RTPFrame.getPayloadSize_of_plain plain (by omega)
  have headerSafe : Safe (FrameAccess.InBounds srcLen) (H264Frame.readHeaderSize rtp) := by
    have notShort : ¬ rtp.frameLen < 12 := by omega
    have noExtension := plain.noExtension
    simp only [H264Frame.readHeaderSize, if_neg notShort, noExtension, ne_eq, not_true_eq_false,
      false_and, if_false, safe_bind, safe_emit, safe_pure, and_true]
    intro _
    omega
  by_cases isEmpty : rtp.getPayloadSize = 0
  · have countEq : srcLen - 12 = 0 := by omega
    rw [countEq, read_zero, H264Frame.PayloadInBounds, H264Frame.setFromRTPFrame]
    simp only [isEmpty, if_true, safe_bind, safe_pure, headerSafe, and_self]
  · have reaches := reaches_of_first lengthEq short (by omega)
    have payloadEq : rtp.payload = read rtp.frame 12 (srcLen - 12) := by
      rw [RTPFrame.payload, ptrEq]
      congr 1
      omega
    rw [(H264Frame.safe_setFromRTPFrame receiving reaches headerSafe flags).1, payloadEq]

theorem safe_decodeFrames_of_plain (receiving : decoder.fullFrame.Receiving)
    (long : 12 ≤ srcLen) (short : srcLen ≤ 65535) (plain : src 0 &&& 0x1f = 0) :
    Safe (RtpAccess.InBounds srcLen) (decoder.decodeFrames src srcLen args) ↔
      H264Frame.PayloadInBounds decoder.fullFrame.encodedFrameLen
        (read src 12 (srcLen - 12)) := by
  have lengthEq : i32 srcLen = srcLen := i32_natCast srcLen (by omega)
  have isPlain : RTPFrame.Plain { frame := src, frameLen := i32 srcLen } := by
    refine ⟨?_, plain⟩
    show 12 ≤ i32 srcLen
    omega
  rw [safe_decodeFrames_iff short]
  exact safe_setFromRTPFrame_of_plain receiving isPlain lengthEq short args.flags

/-- Whatever was received before, a packet with a plain header stays within the packet, the
reassembly buffer and the NAL table if and only if its payload grants it. -/
theorem decodeFrames_inBounds_iff (reached : Reachable decoder) (long : 12 ≤ srcLen)
    (short : srcLen ≤ 65535) (plain : src 0 &&& 0x1f = 0) :
    Safe (RtpAccess.InBounds srcLen) (decoder.decodeFrames src srcLen args) ↔
      H264Frame.PayloadInBounds decoder.fullFrame.encodedFrameLen
        (read src 12 (srcLen - 12)) :=
  safe_decodeFrames_of_plain reached.receiving long short plain

theorem decodeFrames_inBounds_mixed :
    let args : DecodeArgs :=
      { dst := fun _ => 0, dstLen := 0, flags := CoderFlags.none, nWidth := 0, nHeight := 0 }
    let header : List UInt8 := [0x80, 0x60, 0, 1, 0, 0, 0, 0, 0, 0, 0, 7]
    let aggregate := ofBytes (header ++ [0x18, 0, 2, 0x67, 0x42, 0, 3, 0x68, 0xce, 0x38])
    let fragment := ofBytes (header ++ [0x7c, 0x85, 0x88])
    let start := new (fun _ => 0) default 0 0
    Safe (RtpAccess.InBounds 22) (start.decodeFrames aggregate 22 args) ∧
      Safe (RtpAccess.InBounds 15)
        ((start.decodeFrames aggregate 22 args).value.self.decodeFrames fragment 15 args) := by
  intro args header aggregate fragment start
  have fresh : Reachable start := .new (fun _ => 0) default 0 0
  have aggregateEq : read aggregate 12 (22 - 12) =
      [0x18, 0, 2, 0x67, 0x42, 0, 3, 0x68, 0xce, 0x38] := by decide
  have fragmentEq : read fragment 12 (15 - 12) = [0x7c, 0x85, 0x88] := by decide
  have first : Safe (RtpAccess.InBounds 22) (start.decodeFrames aggregate 22 args) := by
    rw [decodeFrames_inBounds_iff fresh (by decide) (by decide) (by decide), aggregateEq,
      H264Frame.PayloadInBounds]
    refine ⟨fun _ => Or.inr ?_, fun isFU => absurd isFU (by decide)⟩
    have sizeEq : start.fullFrame.encodedFrameLen = 0 := rfl
    rw [sizeEq, H264Frame.UnitsInBounds, if_pos (by decide)]
    refine ⟨by decide, ?_⟩
    change H264Frame.UnitsInBounds 6 [0, 3, 0x68, 0xce, 0x38]
    rw [H264Frame.UnitsInBounds, if_pos (by decide)]
    refine ⟨by decide, ?_⟩
    change H264Frame.UnitsInBounds 13 []
    rw [H264Frame.UnitsInBounds]
    trivial
  refine ⟨first, ?_⟩
  rw [decodeFrames_inBounds_iff (fresh.decodeFrames (by decide) first) (by decide) (by decide)
    (by decide), fragmentEq, H264Frame.PayloadInBounds]
  exact ⟨fun isStap => absurd isStap (by decide), fun _ => List.cons_ne_nil _ _⟩

/-- A fragment without its header byte makes the decoder object read behind the packet. -/
theorem decodeFrames_outOfBounds :
    let args : DecodeArgs :=
      { dst := fun _ => 0, dstLen := 0, flags := CoderFlags.none, nWidth := 0, nHeight := 0 }
    let packet : List UInt8 := [0x80, 0x60, 0, 1, 0, 0, 0, 0, 0, 0, 0, 7, 28]
    ¬ Safe (RtpAccess.InBounds 13)
      ((new (fun _ => 0) default 0 0).decodeFrames (ofBytes packet) 13 args) := by
  intro args packet
  rw [safe_decodeFrames_of_plain (Reachable.new (fun _ => 0) default 0 0).receiving (by decide)
    (by decide) (by decide)]
  have payloadEq : read (ofBytes packet) 12 (13 - 12) = [28] := by decide
  rw [payloadEq, H264Frame.PayloadInBounds]
  exact fun granted => granted.2 (by decide) rfl

end CH264DecodeRtp

end DShowCapture
