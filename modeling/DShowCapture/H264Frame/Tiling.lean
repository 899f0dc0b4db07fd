/-
How the NAL table of a receiving frame object lies over its buffer.

The entries tile the bytes in use: each NAL unit stands behind a start code, directly
behind the unit before it.  A frame object of a receiver is tiled whatever packets it
was given, as long as none of them drove an access out of its buffers.
-/
import DShowCapture.Carriage
import DShowCapture.Datagram
import DShowCapture.DecoderBounds

namespace DShowCapture

open ByteMemory FixedWidth Logged AnnexB

namespace H264Frame

/-! ### The table of a represented assembly -/

def tableSize (frame : H264Frame) (count : Nat) : Nat :=
  ((List.range count).map fun index => (frame.nals index).length + 4).sum

theorem lengths_nalEntries (start : Nat) (nals : List (List UInt8)) :
    (nalEntries start nals).map (fun entry => entry.length + 4) =
      nals.map fun nal => nal.length + 4 := by
  induction nals generalizing start with
  | nil => rfl
  | cons nal rest ih => simp only [nalEntries, List.map_cons, ih]

theorem Represents.tableSize_eq {frame : H264Frame} {assembly : Assembly}
    (represents : Represents frame assembly) {count : Nat}
    (inRange : count ≤ frame.numberOfNALsInFrame) :
    frame.tableSize count = streamSize (assembly.nals.take count) := by
  have entries : (List.range count).map frame.nals = (nalEntries 0 assembly.nals).take count := by
    rw [← represents.table, nalTable, ← List.map_take, List.take_range, Nat.min_eq_left inRange]
  have lengths := congrArg (List.map fun entry : NALU => entry.length + 4) entries
  rw [List.map_map, List.map_take, lengths_nalEntries, ← List.map_take] at lengths
  exact congrArg List.sum lengths

theorem Represents.entry {frame : H264Frame} {assembly : Assembly}
    (represents : Represents frame assembly) {front back : List (List UInt8)}
    {nal : List UInt8} (nalsEq : assembly.nals = front ++ nal :: back) :
    frame.nals front.length =
        { type := nal.headD 0 &&& 0x1f, offset := streamSize front + 4, length := nal.length } ∧
      read frame.encodedFrame (streamSize front) 4 = [0, 0, 0, 1] ∧
      read frame.encodedFrame (streamSize front + 4) nal.length = nal := by
  have countEq := represents.count
  rw [nalsEq, List.length_append, List.length_cons] at countEq
  constructor
  · have table := represents.table
    rw [nalsEq, nalEntries_append, length_byteStream_eq, Nat.zero_add] at table
    have atIndex := congrArg (fun entries => entries[front.length]?) table
    simp only [nalTable] at atIndex
    rw [List.getElem?_map, List.getElem?_range (by omega), Option.map_some,
      List.getElem?_append_right (by rw [length_nalEntries]), length_nalEntries,
      Nat.sub_self, nalEntries, List.getElem?_cons_zero] at atIndex
    exact Option.some.inj atIndex
  · have held := represents.bytes
    rw [assembled, represents.length, Assembly.size, Assembly.stream, nalsEq,
      byteStream_append, byteStream_cons] at held
    obtain ⟨_, behind⟩ := split_of_read_eq held
    rw [length_byteStream_eq, Nat.zero_add, List.append_assoc] at behind
    obtain ⟨startCode, body⟩ := split_of_read_eq behind
    exact ⟨startCode, (split_of_read_eq body).1⟩

structure Appends (frame next : H264Frame) (nals : List (List UInt8)) : Prop where
  count : next.numberOfNALsInFrame = frame.numberOfNALsInFrame + nals.length
  bytes : ∀ index (inRange : index < nals.length),
    let entry := next.nals (frame.numberOfNALsInFrame + index)
    read next.encodedFrame entry.offset entry.length = nals[index]
  entries : ∀ index, index < frame.numberOfNALsInFrame → next.nals index = frame.nals index
  earlier : ∀ index, index < frame.numberOfNALsInFrame →
    let entry := frame.nals index
    read next.encodedFrame entry.offset entry.length =
      read frame.encodedFrame entry.offset entry.length

theorem split_at (nals : List (List UInt8)) {index : Nat} (inRange : index < nals.length) :
    nals = nals.take index ++ nals[index] :: nals.drop (index + 1) ∧
      (nals.take index).length = index := by
  constructor
  · rw [← List.drop_eq_getElem_cons inRange, List.take_append_drop]
  · rw [List.length_take]
    omega

theorem Represents.appends {frame next : H264Frame} {assembly : Assembly}
    (represents : Represents frame assembly) {nals : List (List UInt8)} {counter : Nat}
    (grown : Represents next { nals := assembly.nals ++ nals, openFragments := counter }) :
    Appends frame next nals := by
  have countEq := represents.count
  have same : ∀ index, index < frame.numberOfNALsInFrame →
      next.nals index = frame.nals index ∧
        read next.encodedFrame (frame.nals index).offset (frame.nals index).length =
          read frame.encodedFrame (frame.nals index).offset (frame.nals index).length := by
    intro index inRange
    rw [countEq] at inRange
    obtain ⟨split, lengthEq⟩ := split_at assembly.nals inRange
    have splitLater : assembly.nals ++ nals = assembly.nals.take index ++
        assembly.nals[index] :: (assembly.nals.drop (index + 1) ++ nals) := by
      rw [← List.cons_append, ← List.append_assoc, ← split]
    have before := represents.entry split
    have after := grown.entry splitLater
    rw [lengthEq] at before after
    refine ⟨after.1.trans before.1.symm, ?_⟩
    rw [before.1]
    exact after.2.2.trans before.2.2.symm
  refine
    { count := ?_
      bytes := ?_
      entries := fun index inRange => (same index inRange).1
      earlier := fun index inRange => (same index inRange).2 }
  · rw [grown.count, countEq, List.length_append]
  · intro index inRange
    obtain ⟨split, lengthEq⟩ := split_at nals inRange
    have splitLater : assembly.nals ++ nals =
        (assembly.nals ++ nals.take index) ++ nals[index] :: nals.drop (index + 1) := by
      rw [List.append_assoc, ← split]
    have entry := grown.entry splitLater
    rw [List.length_append, lengthEq, ← countEq] at entry
    rw [entry.1]
    exact entry.2.2

/-- The NAL table tiles the buffer. -/
structure Tiled (frame : H264Frame) : Prop where
  offset : ∀ index, index < frame.numberOfNALsInFrame →
    (frame.nals index).offset = 4 + frame.tableSize index
  length : frame.encodedFrameLen = frame.tableSize frame.numberOfNALsInFrame
  startCode : ∀ index, index < frame.numberOfNALsInFrame →
    read frame.encodedFrame ((frame.nals index).offset - 4) 4 = [0, 0, 0, 1]
  type : ∀ index, index < frame.numberOfNALsInFrame →
    frame.encodedFrame (frame.nals index).offset &&& 0x1f = (frame.nals index).type
  fits : frame.encodedFrameLen ≤ maxFrameSize
  reserved : frame.numberOfNALsInFrame ≤ frame.numberOfNALsReserved
  allocated : frame.nalsAllocated = frame.numberOfNALsReserved
  opened : 0 < frame.currentFU → 0 < frame.numberOfNALsInFrame

theorem Represents.tiled {frame : H264Frame} {assembly : Assembly}
    (represents : Represents frame assembly) (receiving : frame.Receiving) : frame.Tiled := by
  have countEq := represents.count
  have entryAt : ∀ index, index < frame.numberOfNALsInFrame →
      ∃ nal back, assembly.nals = assembly.nals.take index ++ nal :: back ∧
        (assembly.nals.take index).length = index ∧ nal ≠ [] := by
    intro index inRange
    rw [countEq] at inRange
    obtain ⟨split, lengthEq⟩ := split_at assembly.nals inRange
    exact ⟨_, _, split, lengthEq, represents.valid.nonempty _ (List.getElem_mem inRange)⟩
  refine
    { offset := ?_
      length := ?_
      startCode := ?_
      type := ?_
      fits := receiving.bounded.length
      reserved := represents.reserved
      allocated := receiving.bounded.allocated
      opened := ?_ }
  · intro index inRange
    obtain ⟨nal, back, nalsEq, lengthEq, _⟩ := entryAt index inRange
    have entry := (represents.entry nalsEq).1
    rw [lengthEq] at entry
    rw [entry, represents.tableSize_eq (Nat.le_of_lt inRange)]
    exact Nat.add_comm _ _
  · rw [represents.tableSize_eq (Nat.le_refl _), represents.length, Assembly.size_eq, countEq,
      List.take_length]
  · intro index inRange
    obtain ⟨nal, back, nalsEq, lengthEq, _⟩ := entryAt index inRange
    have entry := represents.entry nalsEq
    rw [lengthEq] at entry
    rw [entry.1, Nat.add_sub_cancel]
    exact entry.2.1
  · intro index inRange
    obtain ⟨nal, back, nalsEq, lengthEq, nonempty⟩ := entryAt index inRange
    have entry := represents.entry nalsEq
    rw [lengthEq] at entry
    rw [entry.1]
    cases nal with
    | nil => exact absurd rfl nonempty
    | cons header body =>
        rw [(head_of_read_eq entry.2.2).1]
        rfl
  · intro isOpen
    have someNAL := receiving.opened (by omega)
    omega

/-! ### Every packet that stays in bounds -/

section Packets

variable {srcLen : Nat} {frame : H264Frame} {assembly : Assembly}

theorem represents_addUnit (represents : Represents frame assembly) (source : Memory)
    (cur : Nat) {len : Nat} (lenEq : bigEndian16 (source cur) (source (cur + 1)) = len)
    (positive : 0 < len) :
    Represents (frame.addUnit source cur).value
      (assembly.addNAL (read source (cur + 2) len)) := by
  have lenLt : len < 65536 := by
    rw [← lenEq]
    exact bigEndian16_lt _ _
  obtain ⟨size, rfl⟩ := Nat.exists_eq_add_of_le' positive
  have dataLenEq : u32 ((size + 1 : Nat) - 1) = size := by
    unfold u32
    omega
  have held : read source (cur + 3) (read source (cur + 3) size).length =
      read source (cur + 3) size := by
    rw [length_read]
  have added := represents_addNAL represents held (source (cur + 2)) (by
    rw [length_read]
    omega)
  rw [length_read] at added
  rw [addUnit, lenEq, dataLenEq]
  exact added

/-- The walk over an aggregate that stays in bounds leaves an assembly behind. -/
theorem represents_loop_of_safe (represents : Represents frame assembly)
    (receiving : frame.Receiving) (source : Memory) {cur left : Nat}
    (inside : cur + left = srcLen)
    (safe : Safe (FrameAccess.InBounds srcLen)
      (frame.deencapsulateSTAPLoop source cur left)) :
    ∃ next, Represents (frame.deencapsulateSTAPLoop source cur left).value.2 next := by
  induction left using Nat.strongRecOn generalizing frame assembly cur with
  | ind left ih =>
      by_cases isEmpty : left = 0
      · subst isEmpty
        rw [deencapsulateSTAPLoop, if_pos rfl]
        exact ⟨assembly, represents⟩
      generalize lenEq : bigEndian16 (source cur) (source (cur + 1)) = len
      rw [safe_loop_iff source cur lenEq isEmpty] at safe
      rcases safe with ⟨header, added, later⟩
      rw [value_loop source cur lenEq isEmpty]
      by_cases room : frame.encodedFrameLen + len + 4 ≤ maxFrameSize
      · have unit := addUnit_of_room receiving.bounded source lenEq inside (by omega) room
        obtain ⟨positive, ends⟩ := unit.1.mp added
        have grown := represents_addUnit represents source cur lenEq positive
        rw [if_neg (by omega)]
        exact ih (left - (len + 2)) (by omega) grown (unit.2 added).receiving (by omega)
          (later ends)
      · rw [addUnit_of_full receiving.bounded source cur lenEq room, value_pure] at later ⊢
        split
        · exact ⟨assembly, represents⟩
        · exact ih (left - (len + 2)) (by omega) represents receiving (by omega)
            (later (by omega))

theorem exists_represents (represents : Represents frame assembly) {rtp : RTPFrame}
    (payload : Payload) (wellFormed : payload.WellFormed) (short : payload.Short)
    (carries : Carries rtp payload.bytes) (flags : CoderFlags) :
    ∃ next, Represents (frame.setFromRTPFrame rtp flags).value.self next := by
  have refines := setFromRTPFrame_refines represents wellFormed short carries flags
  cases received : assembly.receive payload with
  | none =>
      rw [received] at refines
      exact ⟨Assembly.empty, refines.2.2⟩
  | some next =>
      rw [received] at refines
      exact ⟨next, refines.2.2⟩

theorem represents_setFromRTPFrame_of_safe (represents : Represents frame assembly)
    (receiving : frame.Receiving) {rtp : RTPFrame} (lengthEq : rtp.frameLen = srcLen)
    (small : srcLen ≤ 65535) {flags : CoderFlags}
    (safe : Safe (FrameAccess.InBounds srcLen) (frame.setFromRTPFrame rtp flags)) :
    ∃ next, Represents (frame.setFromRTPFrame rtp flags).value.self next := by
  by_cases isEmpty : rtp.getPayloadSize = 0
  · have carries : Carries rtp Payload.empty.bytes := { size := isEmpty, held := rfl }
    exact exists_represents represents .empty trivial trivial carries flags
  have parts := safe
  rw [setFromRTPFrame, safe_bind, if_neg isEmpty, safe_bind, safe_emit] at parts
  have reaches := CH264DecodeRtp.reaches_of_first lengthEq small (parts.2.1 (by decide))
  have inside := reaches.inside
  obtain ⟨size, sizeEq⟩ := Nat.exists_eq_succ_of_ne_zero isEmpty
  have payloadEq : rtp.payload =
      rtp.frame rtp.getPayloadPtr :: read rtp.frame (rtp.getPayloadPtr + 1) size := by
    rw [RTPFrame.payload, sizeEq, read_succ]
  have granted := (safe_setFromRTPFrame receiving reaches parts.1 flags).1.mp safe
  have carries : Carries rtp rtp.payload :=
    { size := (length_read _ _ _).symm
      held := by rw [RTPFrame.payload, length_read] }
  have lengthLe : rtp.payload.length < 65536 := by
    rw [RTPFrame.payload, length_read]
    omega
  rw [payloadEq] at granted carries lengthLe
  generalize firstEq : rtp.frame rtp.getPayloadPtr = first at granted carries lengthLe
  by_cases isSingle : Payload.SingleType (first &&& 0x1f)
  · exact exists_represents represents (.single first _) isSingle
      (Payload.short_of_length lengthLe) carries flags
  by_cases is24 : first &&& 0x1f = 24
  · have notSingle : ¬ (nalTypeNonIdrSlice ≤ (24 : UInt8) ∧ 24 ≤ nalTypeFillerData) := by
      decide
    simp only [setFromRTPFrame, if_neg isEmpty, value_bind, firstEq, is24, if_neg notSingle,
      if_true, value_ite, value_pure, safe_bind] at parts ⊢
    have walked : ∃ next, Represents (frame.deencapsulateSTAP rtp).value.2 next := by
      have lengthEq : u32 (rtp.getPayloadSize - 1) = size := by
        unfold u32
        omega
      have walk := parts.2.2.1
      simp only [deencapsulateSTAP, lengthEq] at walk ⊢
      split
      · exact ⟨assembly, represents⟩
      · rename_i notShort
        rw [if_neg notShort] at walk
        exact represents_loop_of_safe represents receiving rtp.frame (by omega) walk
    rcases walked with ⟨next, held⟩
    split
    · exact ⟨next, held⟩
    · exact ⟨Assembly.empty, represents_beginNewFrame _ held.allocated⟩
  by_cases is28 : first &&& 0x1f = 28
  · cases rest : read rtp.frame (rtp.getPayloadPtr + 1) size with
    | nil => exact absurd rest (granted.2 is28)
    | cons header body =>
        rw [rest] at carries lengthLe
        exact exists_represents represents (.fragment first header body) is28
          (Payload.short_of_length lengthLe) carries flags
  · exact exists_represents represents (.unsupported first _)
      ⟨isSingle, is24, is28⟩ trivial carries flags

end Packets

/-! ### Runs of a receiver -/

/-- The frame objects of a receiver.  A run goes on only behind packets that stay in
bounds, whatever else they hold. -/
inductive Receivable : H264Frame → Prop
  | new (encodedFrame : Memory) (nals : Nat → NALU) : Receivable (new encodedFrame nals)
  | beginNewFrame {frame : H264Frame} (reached : Receivable frame) :
      Receivable (frame.beginNewFrame 0)
  | setFromRTPFrame {frame : H264Frame} {rtp : RTPFrame} {srcLen : Nat}
      (reached : Receivable frame) (lengthEq : rtp.frameLen = srcLen) (small : srcLen ≤ 65535)
      (flags : CoderFlags)
      (safe : Safe (FrameAccess.InBounds srcLen) (frame.setFromRTPFrame rtp flags)) :
      Receivable (frame.setFromRTPFrame rtp flags).value.self

theorem Receivable.receiving {frame : H264Frame} (reached : Receivable frame) :
    frame.Receiving := by
  induction reached with
  | new encodedFrame nals => exact receiving_new encodedFrame nals
  | beginNewFrame reached ih => exact ih.bounded.reset
  | setFromRTPFrame reached lengthEq small flags safe ih =>
      exact CH264DecodeRtp.receiving_setFromRTPFrame ih lengthEq small safe

theorem Receivable.represents {frame : H264Frame} (reached : Receivable frame) :
    ∃ assembly, Represents frame assembly := by
  induction reached with
  | new encodedFrame nals =>
      exact ⟨Assembly.empty, represents_beginNewFrame (H264Frame.new encodedFrame nals) id⟩
  | beginNewFrame reached ih =>
      rcases ih with ⟨assembly, represents⟩
      exact ⟨Assembly.empty, represents_beginNewFrame _ represents.allocated⟩
  | setFromRTPFrame reached lengthEq small flags safe ih =>
      rcases ih with ⟨assembly, represents⟩
      exact represents_setFromRTPFrame_of_safe represents reached.receiving lengthEq small safe

theorem Receivable.tiled {frame : H264Frame} (reached : Receivable frame) : frame.Tiled := by
  rcases reached.represents with ⟨assembly, represents⟩
  exact represents.tiled reached.receiving

/-! ### Well-formed packets stay in bounds -/

theorem unitsInBounds_stapUnits (size : Nat) {nals : List (List UInt8)}
    (formed : ∀ nal, nal ∈ nals → nal ≠ [] ∧ nal.length < 65536) :
    UnitsInBounds size (RFC6184.stapUnits nals) := by
  induction nals generalizing size with
  | nil => simp [RFC6184.stapUnits, UnitsInBounds]
  | cons nal rest ih =>
      have formedLater : ∀ other, other ∈ rest → other ≠ [] ∧ other.length < 65536 :=
        fun other member => formed other (List.mem_cons_of_mem nal member)
      obtain ⟨nonempty, small⟩ := formed nal List.mem_cons_self
      cases nal with
      | nil => exact absurd rfl nonempty
      | cons header body =>
          have unitsEq : RFC6184.stapUnits ((header :: body) :: rest) =
              UInt8.ofNat ((header :: body).length / 256) ::
                UInt8.ofNat (header :: body).length :: header ::
                  (body ++ RFC6184.stapUnits rest) := by
            rw [RFC6184.stapUnits_cons, List.cons_append]
          have dropEq : (header :: (body ++ RFC6184.stapUnits rest)).drop
              (header :: body).length = RFC6184.stapUnits rest := by
            rw [← List.cons_append, List.drop_left]
          rw [unitsEq, UnitsInBounds, RFC6184.bigEndian16_sizeField small, dropEq]
          split
          · refine ⟨⟨Nat.succ_pos body.length, ?_⟩, ih _ formedLater⟩
            rw [List.length_append, List.length_cons]
            omega
          · exact Or.inr (ih _ formedLater)

theorem payloadInBounds_of_wellFormed (size : Nat) {payload : Payload}
    (wellFormed : payload.WellFormed) : PayloadInBounds size payload.bytes := by
  cases payload with
  | empty => trivial
  | single first rest =>
      have isSingle : Payload.SingleType (first &&& 0x1f) := wellFormed
      refine ⟨fun is24 => ?_, fun is28 => ?_⟩
      · rw [is24] at isSingle
        exact absurd isSingle (by decide)
      · rw [is28] at isSingle
        exact absurd isSingle (by decide)
  | stap header nals =>
      refine ⟨fun _ => Or.inr (unitsInBounds_stapUnits size wellFormed.2), fun is28 => ?_⟩
      rw [wellFormed.1] at is28
      exact absurd is28 (by decide)
  | fragment indicator header body =>
      have isFragment : indicator &&& 0x1f = 28 := wellFormed
      refine ⟨fun is24 => ?_, fun _ => List.cons_ne_nil header body⟩
      rw [isFragment] at is24
      exact absurd is24 (by decide)
  | unsupported first rest =>
      exact ⟨fun is24 => absurd is24 wellFormed.2.1, fun is28 => absurd is28 wellFormed.2.2⟩

/-- A packet of at most 65535 bytes with a plain header and a payload of one of the known
forms, or of an unknown type. -/
structure WellFormedPacket (rtp : RTPFrame) : Prop where
  plain : rtp.Plain
  small : rtp.frameLen ≤ 65535
  payload : ∃ payload : Payload, payload.WellFormed ∧ rtp.payload = payload.bytes

theorem WellFormedPacket.safe {rtp : RTPFrame} (packet : WellFormedPacket rtp)
    {frame : H264Frame} (receiving : frame.Receiving) (flags : CoderFlags) :
    ∃ srcLen : Nat, rtp.frameLen = srcLen ∧ srcLen ≤ 65535 ∧
      Safe (FrameAccess.InBounds srcLen) (frame.setFromRTPFrame rtp flags) := by
  have long := packet.plain.1
  have short := packet.small
  obtain ⟨srcLen, lengthEq⟩ := Int.eq_ofNat_of_zero_le (by omega : 0 ≤ rtp.frameLen)
  have small : srcLen ≤ 65535 := by omega
  refine ⟨srcLen, lengthEq, small, ?_⟩
  rcases packet.payload with ⟨payload, wellFormed, payloadEq⟩
  have sizeEq := RTPFrame.getPayloadSize_of_plain packet.plain (by omega)
  have countEq : rtp.getPayloadSize = srcLen - 12 := by omega
  rw [RTPFrame.payload, RTPFrame.getPayloadPtr_of_plain packet.plain, countEq] at payloadEq
  rw [CH264DecodeRtp.safe_setFromRTPFrame_of_plain receiving packet.plain lengthEq small flags,
    payloadEq]
  exact payloadInBounds_of_wellFormed _ wellFormed

/-- The frame objects of a receiver that was given well-formed packets only, in any order
and with any losses. -/
inductive WellFed : H264Frame → Prop
  | new (encodedFrame : Memory) (nals : Nat → NALU) : WellFed (new encodedFrame nals)
  | beginNewFrame {frame : H264Frame} (fed : WellFed frame) : WellFed (frame.beginNewFrame 0)
  | setFromRTPFrame {frame : H264Frame} {rtp : RTPFrame} (fed : WellFed frame)
      (packet : WellFormedPacket rtp) (flags : CoderFlags) :
      WellFed (frame.setFromRTPFrame rtp flags).value.self

theorem WellFed.receivable {frame : H264Frame} (fed : WellFed frame) : frame.Receivable := by
  induction fed with
  | new encodedFrame nals => exact .new encodedFrame nals
  | beginNewFrame fed ih => exact .beginNewFrame ih
  | setFromRTPFrame fed packet flags ih =>
      obtain ⟨srcLen, lengthEq, small, safe⟩ := packet.safe ih.receiving flags
      exact .setFromRTPFrame ih lengthEq small flags safe

/-- Whatever a receiver was given, the NAL table tiles its buffer. -/
theorem tiled_of_wellFed {frame : H264Frame} (fed : WellFed frame) : frame.Tiled :=
  fed.receivable.tiled

/-- A parameter set, and a first fragment whose NAL unit stays open. -/
theorem tiled_of_wellFed_openFragment :
    let header := (RFC3550.Header.plain false).bytes
    let parameterSet := RTPFrame.view (header ++ [0x67, 0x42])
    let fragment := RTPFrame.view (header ++ [0x7c, 0x85, 0x88])
    let first := ((new (fun _ => 0) default).setFromRTPFrame parameterSet CoderFlags.none).value
    (first.self.setFromRTPFrame fragment CoderFlags.none).value.self.Tiled := by
  intro header parameterSet fragment first
  have isSet : WellFormedPacket parameterSet :=
    { plain := ⟨by decide, by decide⟩
      small := by decide
      payload := ⟨.single 0x67 [0x42], (by decide : Payload.SingleType (0x67 &&& 0x1f)),
        by decide⟩ }
  have isFragment : WellFormedPacket fragment :=
    { plain := ⟨by decide, by decide⟩
      small := by decide
      payload := ⟨.fragment 0x7c 0x85 [0x88], (by decide : (0x7c : UInt8) &&& 0x1f = 28),
        by decide⟩ }
  exact tiled_of_wellFed
    (.setFromRTPFrame (.setFromRTPFrame (.new _ _) isSet CoderFlags.none) isFragment
      CoderFlags.none)

end H264Frame

end DShowCapture
