/-
The encoder object takes in an access unit and hands out its payloads.
-/
import DShowCapture.H264Frame.Transmission
import DShowCapture.H264Rtp
import DShowCapture.KeyFrame.NalUnits

namespace DShowCapture

open ByteMemory FixedWidth Logged AnnexB RFC6184

/-! ### Staging -/

def stagedUnits (src : Memory) (srcLen : Nat) : List (List UInt8) :=
  (units (read src 0 srcLen)).take maxNalSize

theorem length_stagedUnits_le (src : Memory) (srcLen : Nat) :
    (stagedUnits src srcLen).length ≤ maxNalSize ∧
      (stagedUnits src srcLen).flatten.length ≤ srcLen := by
  refine ⟨List.length_take_le _ _, ?_⟩
  have bound := length_flatten_units_le (read src 0 srcLen)
  rw [length_read, ← List.take_append_drop maxNalSize (units (read src 0 srcLen)),
    List.flatten_append, List.length_append] at bound
  exact Nat.le_trans (Nat.le_add_right _ _) bound

namespace CH264EncodeRtp

theorem bytes_naluArgs {nal : H264Nal} {src : Memory} {srcLen : Nat}
    (described : nal.Describes src 0 srcLen) (small : srcLen < 4294967296) :
    (naluArgs src nal).bytes = nal.bytes src := by
  have upper := described.upper
  have lenEq : u32 nal.len = nal.len := u32_natCast nal.len (by omega)
  rw [H264Frame.NALUArgs.bytes, naluArgs, H264Nal.bytes]
  simp only [lenEq]

theorem bytes_map_naluArgs (src : Memory) {srcLen : Nat} (small : srcLen < 4294967296) :
    (((getNalSize src maxNalSize 0 srcLen).value).map (naluArgs src)).map
      H264Frame.NALUArgs.bytes = stagedUnits src srcLen := by
  have scanned := getNalSize_spec src maxNalSize 0 srcLen
  rw [List.map_map, stagedUnits, ← scanned.1]
  exact List.map_congr_left fun nal member => bytes_naluArgs (scanned.2 nal member) small

theorem value_stageFrame (self : CH264EncodeRtp) (src : Memory) (srcLen : Nat) :
    (self.stageFrame src srcLen).value =
      if self.encapsulation.hasRTPFrames then self.encapsulation
      else
        let nals := (getNalSize src maxNalSize 0 srcLen).value
        ((self.encapsulation.beginNewFrame nals.length).addNALUs
          (nals.map (naluArgs src))).value := by
  rw [stageFrame, value_ite]
  simp only [value_pure, value_bind, value_mapLog]

theorem maxPayloadSize_stageFrame (self : CH264EncodeRtp) (src : Memory) (srcLen : Nat) :
    (self.stageFrame src srcLen).value.maxPayloadSize = self.encapsulation.maxPayloadSize := by
  rw [value_stageFrame]
  split
  · rfl
  · exact (H264Frame.frame_addNALUs _ _).1

theorem staged_stageFrame {self : CH264EncodeRtp}
    (drained : self.encapsulation.hasRTPFrames = false) {src : Memory} {srcLen : Nat}
    (small : srcLen < 4294967296)
    (guard : ∀ unit rest, stagedUnits src srcLen = unit :: rest → GuardsStart unit) :
    let frame := (self.stageFrame src srcLen).value
    frame.Staged (stagedUnits src srcLen) ∧ frame.Unsent ∧
      frame.maxPayloadSize = self.encapsulation.maxPayloadSize := by
  have bytesEq := bytes_map_naluArgs src small
  have sizes := length_stagedUnits_le src srcLen
  rw [value_stageFrame, drained]
  simp only [Bool.false_eq_true, if_false]
  generalize (getNalSize src maxNalSize 0 srcLen).value = nals at bytesEq ⊢
  have begun := H264Frame.staged_beginNewFrame self.encapsulation nals.length
  have kept := H264Frame.frame_addNALUs (self.encapsulation.beginNewFrame nals.length)
    (nals.map (naluArgs src))
  have countEq := congrArg List.length bytesEq
  rw [List.length_map, List.length_map] at countEq
  unfold maxNalSize at sizes
  have staged := H264Frame.staged_addNALUs begun.1 (nals.map (naluArgs src))
    (by rw [List.nil_append, bytesEq]; omega)
    (by rw [List.length_map, List.length_nil]; omega)
    (by rw [List.nil_append, bytesEq]; exact guard)
  rw [List.nil_append, bytesEq] at staged
  exact ⟨staged, kept.2 begun.2, kept.1⟩

/-! ### One call -/

def EncodeResult.payload (self : EncodeResult) : List UInt8 :=
  read self.dst 12 (u32 (self.dstLen - 12))

theorem value_encodeFrames (self : CH264EncodeRtp) (src : Memory) (srcLen : Nat)
    (dst : Memory) (dstLen : Nat) :
    (self.encodeFrames src srcLen dst dstLen).value =
      let result :=
        (self.stageFrame src srcLen).value.getRTPFrame { frame := dst, frameLen := i32 dstLen }
      { returned := true
        self := { encapsulation := result.self }
        dst := result.frame.frame
        dstLen := u32 result.frame.getFrameLen
        flags := result.flags } := by
  simp only [encodeFrames, value_bind, value_pure]

structure Encodes (result : EncodeResult) (payload : List UInt8) (rest : List (List UInt8)) :
    Prop where
  returned : result.returned = true
  carried : result.payload = payload
  length : result.dstLen = 12 + payload.length
  flagged : result.flags.lastFrame = rest.isEmpty
  packetizing : result.self.encapsulation.Packetizing
  pending : result.self.encapsulation.pending = rest

theorem encodes_encodeFrames {self : CH264EncodeRtp} {src : Memory} {srcLen : Nat}
    (packetizing : (self.stageFrame src srcLen).value.Packetizing) (dst : Memory)
    {dstLen : Nat} (zero : dst 0 = 0) (roomy : 12 ≤ dstLen) (inRange : dstLen < 2147483648)
    {payload : List UInt8} {rest : List (List UInt8)}
    (shape : (self.stageFrame src srcLen).value.pending = payload :: rest)
    (short : payload.length < 65536) :
    Encodes (self.encodeFrames src srcLen dst dstLen).value payload rest := by
  have plain : ({ frame := dst, frameLen := i32 dstLen } : RTPFrame).Plain := by
    refine H264Frame.plain_of_zero ?_ zero
    have wide : (12 : Int) ≤ dstLen := by omega
    rwa [← i32_natCast dstLen inRange] at wide
  have sends := H264Frame.sends_getRTPFrame packetizing plain shape
  rw [value_encodeFrames]
  generalize (self.stageFrame src srcLen).value.getRTPFrame
    { frame := dst, frameLen := i32 dstLen } = result at sends ⊢
  have emits := sends.emits
  have lengthEq := emits.length
  have lenEq : u32 result.frame.getFrameLen = 12 + payload.length := by
    rw [RTPFrame.getFrameLen, lengthEq]
    unfold u32
    omega
  have countEq : u32 ((12 + payload.length : Nat) - 12) = payload.length := by
    unfold u32
    omega
  exact
    { returned := rfl
      carried := by
        rw [EncodeResult.payload]
        simp only [lenEq, countEq]
        exact emits.held
      length := lenEq
      flagged := sends.flagged
      packetizing := sends.packetizing
      pending := sends.pending }

theorem maxPayloadSize_encodeFrames (self : CH264EncodeRtp) (src : Memory) (srcLen : Nat)
    (dst : Memory) (dstLen : Nat) :
    (self.encodeFrames src srcLen dst dstLen).value.self.encapsulation.maxPayloadSize =
      (self.stageFrame src srcLen).value.maxPayloadSize := by
  rw [value_encodeFrames]
  exact H264Frame.maxPayloadSize_getRTPFrame _ _

theorem encodeFrames_of_nothing {self : CH264EncodeRtp} {src : Memory} {srcLen : Nat}
    (nothing : (self.stageFrame src srcLen).value.hasRTPFrames = false) (dst : Memory)
    (dstLen : Nat) :
    let result := (self.encodeFrames src srcLen dst dstLen).value
    result.returned = true ∧ result.flags.lastFrame = false ∧
      result.self.encapsulation = (self.stageFrame src srcLen).value := by
  rw [value_encodeFrames, H264Frame.getRTPFrame_of_drained _ nothing]
  exact ⟨rfl, rfl, rfl⟩

/-! ### One access unit -/

/-- `EncodeFrames` called on one access unit, each time with a zeroed destination, until it
flags the last packet.  Nothing when this takes more than `calls` calls. -/
def encodeUntilLast (src : Memory) (srcLen : Nat) :
    Nat → CH264EncodeRtp → Option (List EncodeResult × CH264EncodeRtp)
  | 0, _ => none
  | calls + 1, self =>
      let result := (self.encodeFrames src srcLen (fun _ => 0) 1212).value
      if result.flags.lastFrame then some ([result], result.self)
      else
        (encodeUntilLast src srcLen calls result.self).map fun later =>
          (result :: later.1, later.2)

def IsEncoding : List EncodeResult → List (List UInt8) → Prop
  | [], [] => True
  | result :: results, payload :: rest =>
      result.payload = payload ∧ result.flags.lastFrame = rest.isEmpty ∧ IsEncoding results rest
  | _, _ => False

theorem stageFrame_of_busy {self : CH264EncodeRtp}
    (busy : self.encapsulation.hasRTPFrames = true) (src : Memory) (srcLen : Nat) :
    (self.stageFrame src srcLen).value = self.encapsulation := by
  rw [value_stageFrame, if_pos busy]

/-- An encoder with payloads to come keeps them whatever its input is. -/
theorem stageFrame_of_pending {self : CH264EncodeRtp}
    (packetizing : self.encapsulation.Packetizing) (left : self.encapsulation.pending ≠ [])
    (src : Memory) (srcLen : Nat) :
    (self.stageFrame src srcLen).value = self.encapsulation := by
  have busy : self.encapsulation.hasRTPFrames = true := by
    by_contra drained
    rw [Bool.not_eq_true] at drained
    exact left ((H264Frame.pending_eq_nil_iff packetizing).mpr drained)
  exact stageFrame_of_busy busy src srcLen

/-- All payloads to come are handed out, one by each call. -/
theorem encodeUntilLast_encodes {self : CH264EncodeRtp} {src : Memory} {srcLen : Nat}
    (packetizing : (self.stageFrame src srcLen).value.Packetizing)
    {payloads : List (List UInt8)} (someLeft : payloads ≠ [])
    (shape : (self.stageFrame src srcLen).value.pending = payloads)
    (short : ∀ payload, payload ∈ payloads → payload.length < 65536) :
    ∃ results final, (∀ calls, payloads.length ≤ calls →
        encodeUntilLast src srcLen calls self = some (results, final)) ∧
      IsEncoding results payloads ∧ final.encapsulation.hasRTPFrames = false ∧
      final.encapsulation.maxPayloadSize = (self.stageFrame src srcLen).value.maxPayloadSize := by
  induction payloads generalizing self with
  | nil => exact absurd rfl someLeft
  | cons payload rest ih =>
      have encodes := encodes_encodeFrames packetizing (fun _ => 0) rfl
        (by decide : 12 ≤ 1212) (by decide) shape (short payload List.mem_cons_self)
      have limitEq := maxPayloadSize_encodeFrames self src srcLen (fun _ => 0) 1212
      generalize resultEq : (self.encodeFrames src srcLen (fun _ => 0) 1212).value = result
        at encodes limitEq
      have flagged := encodes.flagged
      cases rest with
      | nil =>
          refine ⟨[result], result.self, ?_, ⟨encodes.carried, flagged, trivial⟩, ?_, limitEq⟩
          · intro calls enough
            obtain ⟨calls, rfl⟩ := Nat.exists_eq_add_of_le' enough
            simp [encodeUntilLast, resultEq, flagged]
          · exact (H264Frame.pending_eq_nil_iff encodes.packetizing).mp encodes.pending
      | cons next rest =>
          have kept := stageFrame_of_pending encodes.packetizing
            (by rw [encodes.pending]; exact List.cons_ne_nil next rest) src srcLen
          obtain ⟨results, final, run, encoding, drained, limitLater⟩ := ih
            (by rw [kept]; exact encodes.packetizing) (List.cons_ne_nil next rest)
            (by rw [kept]; exact encodes.pending)
            (fun other member => short other (List.mem_cons_of_mem payload member))
          rw [kept, limitEq] at limitLater
          refine ⟨result :: results, final, ?_, ⟨encodes.carried, flagged, encoding⟩, drained,
            limitLater⟩
          intro calls enough
          cases calls with
          | zero => exact absurd enough (by simp)
          | succ calls =>
              rw [List.length_cons] at enough
              have later := run calls (by omega)
              rw [encodeUntilLast]
              simp [resultEq, flagged, later]

end CH264EncodeRtp

/-! ### A stream of the tests -/

def threeFragments : List UInt8 := 0x65 :: List.replicate 2400 0x88

theorem writable_threeFragments : Writable threeFragments := by
  apply writable_of_noZero (List.cons_ne_nil _ _)
  intro member
  rcases List.mem_cons.mp member with isFirst | inside
  · exact absurd isFirst (by decide)
  · exact absurd (List.eq_of_mem_replicate inside) (by decide)

def slicedStream : List (Nat × List UInt8) :=
  [(1, [0x67, 0x42]), (0, [0x68, 0xce]), (1, threeFragments)]

theorem length_slicedStream : (write slicedStream).length = 2416 := by
  simp only [slicedStream, threeFragments, write_cons, write_nil, startCode, List.length_append,
    List.length_cons, List.length_replicate, List.length_nil]

theorem units_slicedStream :
    units (read (ofBytes (write slicedStream)) 0 (write slicedStream).length) =
      [[0x67, 0x42], [0x68, 0xce], threeFragments] := by
  rw [read_ofBytes, units_write]
  · rfl
  · rw [slicedStream, List.forall_mem_cons, List.forall_mem_cons, List.forall_mem_singleton]
    exact ⟨by decide, by decide, writable_threeFragments⟩

end DShowCapture
