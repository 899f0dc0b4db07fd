/-
Aggregation: `EncapsulateSTAP` of `jrtp/h264frame.cpp`, and its inverse.

No build calls it, since `SEND_STAP_PACKETS` is commented out; it is modelled under the
guard that stands before the call.  The units to send are counted first, one too many
when the last one does not fit, and the payload then grows by a size field and a unit at
a time.
-/
import DShowCapture.H264Frame.Aggregate
import DShowCapture.H264Frame.Staging

namespace DShowCapture

open ByteMemory FixedWidth Logged RFC6184 AnnexB

namespace H264Frame

/-- The `do` loop that counts: the length with its last NAL unit, and the number behind it.
The number stays in the range of `m_numberOfNALsInFrame` and cannot wrap. -/
def countSTAP (self : H264Frame) (STAPLen highestNALNumberInSTAP : Nat) : Nat × Nat :=
  let STAPLen := u32 (STAPLen + 2)
  let STAPLen := u32 (STAPLen + (self.nals highestNALNumberInSTAP).length)
  if highestNALNumberInSTAP + 1 < self.numberOfNALsInFrame ∧ STAPLen < self.maxPayloadSize then
    self.countSTAP STAPLen (highestNALNumberInSTAP + 1)
  else (STAPLen, highestNALNumberInSTAP + 1)
termination_by self.numberOfNALsInFrame - highestNALNumberInSTAP

/-- The number behind the last NAL unit of the aggregate: one that does not fit is put
back. -/
def highestNALNumberInSTAP (self : H264Frame) : Nat :=
  let counted := self.countSTAP 1 self.currentNAL
  if counted.1 > self.maxPayloadSize then u32 (counted.2 - 1) else counted.2

def addToSTAP (frame : RTPFrame) (source : Memory) (curNALPtr curNALLen : Nat) : RTPFrame :=
  let frame := frame.setPayloadSize (i32 (u32 (frame.getPayloadSize + 2)))
  let frame :=
    { frame with
      frame := store frame.frame (frame.getPayloadPtr + frame.getPayloadSize - 2)
        [UInt8.ofNat (curNALLen >>> 8), UInt8.ofNat curNALLen] }
  let frame := frame.setPayloadSize (i32 (u32 (frame.getPayloadSize + curNALLen)))
  { frame with
    frame := copy frame.frame (frame.getPayloadPtr + frame.getPayloadSize - curNALLen) source
      curNALPtr curNALLen }

/-- The `while` loop that fills the payload and notes the highest `nal_ref_idc`. -/
def fillSTAP (self : H264Frame) (highest : Nat) (frame : RTPFrame) (maxNRI : UInt8) :
    H264Frame × RTPFrame × UInt8 :=
  if self.currentNAL < highest then
    let nal := self.nals self.currentNAL
    let nri := self.encodedFrame nal.offset &&& 0x60
    fillSTAP { self with currentNAL := self.currentNAL + 1 } highest
      (addToSTAP frame self.encodedFrame nal.offset nal.length)
      (if nri > maxNRI then nri else maxNRI)
  else (self, frame, maxNRI)
termination_by highest - self.currentNAL

def encapsulateSTAP (self : H264Frame) (frame : RTPFrame) (flags : CoderFlags) :
    Encapsulated :=
  let (self, frame, maxNRI) :=
    self.fillSTAP self.highestNALNumberInSTAP (frame.setPayloadSize 1) 0
  let frame := { frame with frame := store frame.frame frame.getPayloadPtr [24 ||| maxNRI] }
  let frame := (frame.setTimestamp self.timestamp).setMarker
    (self.currentNAL ≥ self.numberOfNALsInFrame)
  { returned := true
    self := self
    frame := frame
    flags := { flags with lastFrame := flags.lastFrame || frame.getMarker } }

/-! ### The NAL units of an aggregate -/

def segment (self : H264Frame) (first next : Nat) : List (List UInt8) :=
  (List.range' first (next - first)).map self.unitAt

theorem segment_self (self : H264Frame) (first : Nat) : self.segment first first = [] := by
  rw [segment, Nat.sub_self]
  rfl

theorem segment_succ (self : H264Frame) {first next : Nat} (ordered : first ≤ next) :
    self.segment first (next + 1) = self.segment first next ++ [self.unitAt next] := by
  have countEq : next + 1 - first = next - first + 1 := by omega
  have lastEq : first + (next - first) = next := by omega
  rw [segment, segment, countEq, List.range'_1_concat, List.map_append, lastEq]
  rfl

theorem segment_eq {frame : H264Frame} {units : List (List UInt8)}
    (table : (List.range units.length).map frame.unitAt = units) (first : Nat) {next : Nat}
    (inFrame : next ≤ units.length) :
    frame.segment first next = (units.drop first).take (next - first) := by
  conv_rhs => rw [← table]
  rw [segment, ← List.map_drop, ← List.map_take, List.range_eq_range', List.drop_range',
    List.take_range'_of_length_ge (by omega), Nat.zero_add, Nat.mul_one]

def stapSize (self : H264Frame) (first next : Nat) : Nat :=
  (stapUnits (self.segment first next)).length + 1

theorem stapSize_self (self : H264Frame) (first : Nat) : self.stapSize first first = 1 := by
  rw [stapSize, segment_self]
  rfl

theorem stapSize_succ (self : H264Frame) {first next : Nat} (ordered : first ≤ next) :
    self.stapSize first (next + 1) = self.stapSize first next + 2 + (self.nals next).length := by
  rw [stapSize, stapSize, segment_succ self ordered, stapUnits_append, List.length_append,
    stapUnits_singleton, List.length_append, length_unitAt]
  simp only [sizeField, List.length_cons, List.length_nil]
  omega

theorem stapSize_mono (self : H264Frame) {first next later : Nat} (ordered : first ≤ next)
    (notAfter : next ≤ later) : self.stapSize first next ≤ self.stapSize first later := by
  induction later, notAfter using Nat.le_induction with
  | base => exact Nat.le_refl _
  | succ later behind ih =>
      rw [stapSize_succ self (by omega)]
      omega

/-- What the count relies on: the lengths are those of objects in 32-bit memory, and the
limit is 16 bits wide. -/
structure Countable (frame : H264Frame) : Prop where
  limit : frame.maxPayloadSize < 65536
  lengths : ∀ index, index < frame.numberOfNALsInFrame →
    (frame.nals index).length < 2147483648

/-- The count ends behind the last NAL unit, or behind the first with which the aggregate
reaches the limit. -/
theorem countSTAP_spec {frame : H264Frame} (countable : frame.Countable)
    {first highest : Nat} (ordered : first ≤ highest)
    (inFrame : highest < frame.numberOfNALsInFrame)
    (below : frame.stapSize first highest < 65536) :
    let counted := frame.countSTAP (frame.stapSize first highest) highest
    highest < counted.2 ∧ counted.2 ≤ frame.numberOfNALsInFrame ∧
      counted.1 = frame.stapSize first counted.2 ∧
      (highest + 1 < counted.2 → frame.stapSize first (counted.2 - 1) < frame.maxPayloadSize) ∧
      (counted.2 < frame.numberOfNALsInFrame → frame.maxPayloadSize ≤ counted.1) := by
  have limit := countable.limit
  have lengthBound := countable.lengths highest inFrame
  have grown := stapSize_succ frame ordered
  have noWrap : u32 (u32 (frame.stapSize first highest + 2) + (frame.nals highest).length) =
      frame.stapSize first (highest + 1) := by
    rw [grown]
    unfold u32
    omega
  rw [countSTAP]
  simp only [noWrap]
  split
  · rename_i more
    have later := countSTAP_spec countable (by omega : first ≤ highest + 1) more.1 (by omega)
    rcases later with ⟨behind, inside, sizeEq, fits, full⟩
    refine ⟨by omega, inside, sizeEq, fun _ => ?_, full⟩
    by_cases next : highest + 1 + 1 < (frame.countSTAP (frame.stapSize first (highest + 1))
        (highest + 1)).2
    · exact fits next
    · have atNext : (frame.countSTAP (frame.stapSize first (highest + 1))
          (highest + 1)).2 - 1 = highest + 1 := by omega
      rw [atNext]
      exact more.2
  · rename_i stopped
    refine ⟨Nat.lt_succ_self _, inFrame, rfl, fun next => absurd next (Nat.lt_irrefl _), ?_⟩
    intro more
    by_contra below
    exact stopped ⟨more, by omega⟩
termination_by frame.numberOfNALsInFrame - highest

/-- Under the guard of the call, at least two NAL units go into the aggregate, and it stays
within the limit. -/
theorem highestNALNumberInSTAP_spec {frame : H264Frame} (countable : frame.Countable)
    (count : frame.numberOfNALsInFrame < 4294967296)
    (next : frame.currentNAL + 1 < frame.numberOfNALsInFrame)
    (guarded : (frame.nals frame.currentNAL).length +
      (frame.nals (frame.currentNAL + 1)).length + 5 ≤ frame.maxPayloadSize) :
    let highest := frame.highestNALNumberInSTAP
    frame.currentNAL + 2 ≤ highest ∧ highest ≤ frame.numberOfNALsInFrame ∧
      frame.stapSize frame.currentNAL highest ≤ frame.maxPayloadSize := by
  have sizeSelf := stapSize_self frame frame.currentNAL
  have sizeOne := stapSize_succ frame (Nat.le_refl frame.currentNAL)
  have sizeTwo := stapSize_succ frame (Nat.le_succ frame.currentNAL)
  simp only [Nat.succ_eq_add_one] at sizeTwo
  have counted := countSTAP_spec countable (Nat.le_refl frame.currentNAL) (by omega) (by omega)
  rw [sizeSelf] at counted
  simp only [highestNALNumberInSTAP]
  generalize frame.countSTAP 1 frame.currentNAL = result at counted
  rcases result with ⟨length, highest⟩
  rcases counted with ⟨behind, inside, lengthEq, fits, full⟩
  simp only at behind inside lengthEq fits full ⊢
  have notOne : highest ≠ frame.currentNAL + 1 := by
    rintro rfl
    have reached := full next
    omega
  have lastBelow := fits (by omega)
  split
  · rename_i tooLong
    have notTwo : highest ≠ frame.currentNAL + 1 + 1 := by
      rintro rfl
      omega
    have noWrap : u32 (highest - (1 : Nat)) = highest - 1 := by
      unfold u32
      omega
    simp only [Nat.cast_one] at noWrap
    rw [noWrap]
    exact ⟨by omega, by omega, Nat.le_of_lt lastBelow⟩
  · exact ⟨by omega, inside, by omega⟩

/-! ### Filling the payload -/

theorem filled_grow {rtp : RTPFrame} {payload : List UInt8} (filled : rtp.Filled payload)
    (source : Memory) (data : Nat) {count : Nat} (small : payload.length + count < 65536) :
    let grown := rtp.setPayloadSize (i32 (u32 (rtp.getPayloadSize + count)))
    ({ grown with
      frame := copy grown.frame (grown.getPayloadPtr + grown.getPayloadSize - count) source
        data count } : RTPFrame).Filled (payload ++ read source data count) := by
  have sizeEq : i32 (u32 (rtp.getPayloadSize + count)) =
      ((payload.length + count : Nat) : Int) := by
    have inRange : ((payload.length : Int) + count) % 4294967296 = payload.length + count := by
      omega
    rw [filled.getPayloadSize (by omega), i32, natCast_u32, inRange]
    omega
  obtain ⟨plain, length⟩ :=
    RTPFrame.plain_setPayloadSize filled.plain (payload.length + count)
  have grownSize := RTPFrame.getPayloadSize_of_plain plain (by omega)
  have positionEq :
      12 + (rtp.setPayloadSize (payload.length + count : Nat)).getPayloadSize - count =
        12 + payload.length := by
    omega
  simp only [sizeEq, RTPFrame.getPayloadPtr_of_plain plain, positionEq]
  refine
    { plain := plain.overwrite (Nat.le_add_right 12 _) source data count
      length := ?_
      held := ?_ }
  · rw [List.length_append, length_read]
    exact length
  · rw [List.length_append, length_read, read_append, read_copy_self,
      read_copy_before _ _ _ _ _ _ _ (Nat.le_refl _)]
    exact congrArg (· ++ read source data count) filled.held

theorem filled_addToSTAP {rtp : RTPFrame} {payload : List UInt8} (filled : rtp.Filled payload)
    (source : Memory) (data : Nat) {len : Nat} (small : payload.length + 2 + len < 65536) :
    (addToSTAP rtp source data len).Filled
      (payload ++ (sizeField len ++ read source data len)) := by
  have sizeBytes : read (ofBytes [UInt8.ofNat (len >>> 8), UInt8.ofNat len]) 0 2 =
      sizeField len := by
    rw [Nat.shiftRight_eq_div_pow]
    exact read_ofBytes _
  have sized := filled_grow filled (ofBytes [UInt8.ofNat (len >>> 8), UInt8.ofNat len]) 0
    (by omega : payload.length + 2 < 65536)
  rw [sizeBytes] at sized
  have sizedLength : (payload ++ sizeField len).length = payload.length + 2 :=
    List.length_append
  have whole := filled_grow sized source data
    (by omega : (payload ++ sizeField len).length + len < 65536)
  rw [List.append_assoc] at whole
  exact whole

private theorem nri_bits : ∀ byte : UInt8, byte &&& 0x60 &&& 0x1f = 0 :=
  forall_byte (by decide +kernel)

private theorem stap_type : ∀ nri : UInt8, nri &&& 0x1f = 0 → (24 ||| nri) &&& 0x1f = 24 :=
  forall_byte (by decide +kernel)

/-- The loop keeps the payload an aggregate of the NAL units it has passed. -/
theorem fillSTAP_spec (frame : H264Frame) {first highest : Nat}
    (ordered : first ≤ frame.currentNAL) (notAfter : frame.currentNAL ≤ highest)
    (small : frame.stapSize first highest < 65536) {rtp : RTPFrame} {header maxNRI : UInt8}
    (filled : rtp.Filled (stapPayload header (frame.segment first frame.currentNAL)))
    (isNRI : maxNRI &&& 0x1f = 0) :
    let result := frame.fillSTAP highest rtp maxNRI
    result.1 = { frame with currentNAL := highest } ∧
      result.2.1.Filled (stapPayload header (frame.segment first highest)) ∧
      result.2.2 &&& 0x1f = 0 := by
  rw [fillSTAP]
  by_cases more : frame.currentNAL < highest
  · have sizeNext := stapSize_succ frame ordered
    have sizeLe := frame.stapSize_mono (by omega : first ≤ frame.currentNAL + 1) more
    have payloadLength : (stapPayload header (frame.segment first frame.currentNAL)).length =
        frame.stapSize first frame.currentNAL := rfl
    have added := filled_addToSTAP filled frame.encodedFrame
      (frame.nals frame.currentNAL).offset
      (by omega : (stapPayload header (frame.segment first frame.currentNAL)).length + 2 +
        (frame.nals frame.currentNAL).length < 65536)
    have grown : stapPayload header (frame.segment first frame.currentNAL) ++
        (sizeField (frame.nals frame.currentNAL).length ++
          frame.unitAt frame.currentNAL) =
        stapPayload header (frame.segment first (frame.currentNAL + 1)) := by
      rw [segment_succ frame ordered, stapPayload, stapPayload, stapUnits_append,
        stapUnits_singleton, length_unitAt, List.cons_append]
    rw [unitAt] at grown
    rw [grown] at added
    simp only [if_pos more]
    refine fillSTAP_spec { frame with currentNAL := frame.currentNAL + 1 } ?_ more small added ?_
    · exact Nat.le_succ_of_le ordered
    · split
      · exact nri_bits _
      · exact isNRI
  · have atEnd : frame.currentNAL = highest := by omega
    simp only [if_neg more]
    rw [atEnd] at filled
    refine ⟨?_, filled, isNRI⟩
    rw [← atEnd]
termination_by highest - frame.currentNAL

theorem filled_setFirst {rtp : RTPFrame} {old : UInt8} {rest : List UInt8}
    (filled : rtp.Filled (old :: rest)) (header : UInt8) :
    ({ rtp with frame := store rtp.frame rtp.getPayloadPtr [header] } : RTPFrame).Filled
      (header :: rest) := by
  have pointer := RTPFrame.getPayloadPtr_of_plain filled.plain
  refine
    { plain := ?_
      length := filled.length
      held := ?_ }
  · rw [pointer]
    exact filled.plain.overwrite (Nat.le_refl 12) _ _ _
  · have behind := (head_of_read_eq filled.held).2
    have countEq : (header :: rest).length = 1 + rest.length := by
      rw [List.length_cons, Nat.add_comm]
    have laterBytes : read (store rtp.frame 12 [header]) 13 rest.length =
        read rtp.frame 13 rest.length := by
      apply read_congr
      intro index _
      have outside : ¬ (12 ≤ 13 + index ∧ 13 + index < 12 + 1) := by omega
      simp only [store, copy, List.length_singleton, if_neg outside]
    rw [pointer, countEq, read_append, laterBytes, behind]
    exact congrArg (· ++ rest) (read_store_self rtp.frame 12 [header])

/-! ### Taking the aggregate apart again -/

theorem aggregable_of_short {units : List (List UInt8)}
    (nonempty : ∀ unit, unit ∈ units → unit ≠ []) (short : (stapUnits units).length < 65536) :
    Aggregable units := by
  induction units with
  | nil => exact fun _ member => absurd member List.not_mem_nil
  | cons unit rest ih =>
      rw [length_stapUnits_cons] at short
      intro other member
      rcases List.mem_cons.mp member with rfl | later
      · exact ⟨nonempty other List.mem_cons_self, by omega⟩
      · exact ih (fun one inRest => nonempty one (List.mem_cons_of_mem unit inRest)) (by omega)
          other later

theorem streamSize_le (units : List (List UInt8)) :
    streamSize units ≤ 2 * (stapUnits units).length := by
  induction units with
  | nil => exact Nat.le_refl 0
  | cons unit rest ih =>
      rw [streamSize_cons, length_stapUnits_cons]
      omega

theorem countable_of_table {frame : H264Frame} {units : List (List UInt8)}
    (count : frame.numberOfNALsInFrame = units.length)
    (table : (List.range units.length).map frame.unitAt = units)
    (small : ∀ unit, unit ∈ units → unit.length < 2147483648)
    (limit : frame.maxPayloadSize < 65536) : frame.Countable := by
  refine { limit := limit, lengths := ?_ }
  intro index inRange
  rw [count] at inRange
  have unitEq := congrArg (fun all => all[index]?) table
  simp only [List.getElem?_map, List.getElem?_range inRange, Option.map_some,
    List.getElem?_eq_getElem inRange, Option.some.injEq] at unitEq
  have bound := small _ (List.getElem_mem inRange)
  rwa [← unitEq, length_unitAt] at bound

/-- A receiver with nothing assembled takes in the units of an aggregation packet. -/
theorem deencapsulateSTAP_undoes {header : UInt8} {units : List (List UInt8)}
    {receiver : H264Frame} {packet : RTPFrame} (nonempty : ∀ unit, unit ∈ units → unit ≠ [])
    (short : (stapUnits units).length < 65536) (empty : Represents receiver Assembly.empty)
    (carries : Carries packet (stapPayload header units)) :
    (receiver.deencapsulateSTAP packet).value.1 = true ∧
      Appends receiver (receiver.deencapsulateSTAP packet).value.2 units := by
  have aggregable := aggregable_of_short nonempty short
  have room := streamSize_le units
  have nothing : receiver.encodedFrameLen = 0 := empty.length
  refine ⟨(represents_deencapsulateSTAP empty aggregable carries).1,
    deencapsulateSTAP_appends empty aggregable carries ?_⟩
  unfold maxFrameSize
  omega

/-- The packet carries the NAL units from the position of the frame object up to `next`, and
a receiver with nothing assembled takes in exactly these. -/
structure SendsAggregate (frame : H264Frame) (units : List (List UInt8))
    (result : Encapsulated) (next : Nat) : Prop where
  returned : result.returned = true
  advanced : result.self = { frame with currentNAL := next }
  atLeastTwo : frame.currentNAL + 2 ≤ next
  inFrame : next ≤ units.length
  isStap : result.frame.payload.headD 0 &&& 0x1f = 24
  bounded : result.frame.payload.length ≤ frame.maxPayloadSize
  marked : result.frame.getMarker = true ↔ next = units.length
  undone : ∀ receiver packet, Represents receiver Assembly.empty →
    Carries packet result.frame.payload →
      (receiver.deencapsulateSTAP packet).value.1 = true ∧
        Appends receiver (receiver.deencapsulateSTAP packet).value.2
          ((units.drop frame.currentNAL).take (next - frame.currentNAL))

/-- `DeencapsulateSTAP` undoes `EncapsulateSTAP`, from every position that meets the guard of
the call. -/
theorem sendsAggregate_encapsulateSTAP {frame : H264Frame} {units : List (List UInt8)}
    (count : frame.numberOfNALsInFrame = units.length)
    (table : (List.range units.length).map frame.unitAt = units)
    (nonempty : ∀ unit, unit ∈ units → unit ≠ [])
    (small : ∀ unit, unit ∈ units → unit.length < 2147483648)
    (few : units.length < 4294967296) (limit : frame.maxPayloadSize < 65536)
    (next : frame.currentNAL + 1 < frame.numberOfNALsInFrame)
    (guarded : (frame.nals frame.currentNAL).length +
      (frame.nals (frame.currentNAL + 1)).length + 5 ≤ frame.maxPayloadSize)
    {rtp : RTPFrame} (plain : rtp.Plain) (flags : CoderFlags) :
    ∃ last, SendsAggregate frame units (frame.encapsulateSTAP rtp flags) last := by
  have countable := countable_of_table count table small limit
  obtain ⟨atLeastTwo, inFrame, fits⟩ :=
    highestNALNumberInSTAP_spec countable (count.trans_lt few) next guarded
  generalize lastEq : frame.highestNALNumberInSTAP = last at atLeastTwo inFrame fits
  rw [count] at inFrame
  have opened : (rtp.setPayloadSize 1).Filled
      (stapPayload ((rtp.setPayloadSize 1).frame 12) (frame.segment frame.currentNAL
        frame.currentNAL)) := by
    obtain ⟨openedPlain, openedLen⟩ := RTPFrame.plain_setPayloadSize plain 1
    rw [segment_self]
    exact { plain := openedPlain, length := openedLen, held := rfl }
  have notAfter : frame.currentNAL ≤ last := by omega
  obtain ⟨selfEq, filled, isNRI⟩ :=
    fillSTAP_spec frame (Nat.le_refl _) notAfter (by omega) opened (rfl : (0 : UInt8) &&& 0x1f = 0)
  rw [encapsulateSTAP, lastEq]
  generalize frame.fillSTAP last (rtp.setPayloadSize 1) 0 = result at selfEq filled isNRI ⊢
  rcases result with ⟨self, packet, maxNRI⟩
  subst selfEq
  have headed := filled_setFirst filled (24 ||| maxNRI)
  have emits := RTPFrame.emits_of_filled headed.plain headed.length headed.held frame.timestamp
    (decide (last ≥ frame.numberOfNALsInFrame))
  have payloadLength : (stapPayload (24 ||| maxNRI) (frame.segment frame.currentNAL last)).length =
      frame.stapSize frame.currentNAL last := rfl
  have payloadEq := emits.payload (by
    rw [← stapPayload, payloadLength]
    omega)
  rw [← stapPayload] at payloadEq
  refine ⟨last,
    { returned := rfl
      advanced := rfl
      atLeastTwo := atLeastTwo
      inFrame := inFrame
      isStap := ?_
      bounded := ?_
      marked := ?_
      undone := ?_ }⟩
  · rw [payloadEq]
    exact stap_type maxNRI isNRI
  · rw [payloadEq]
    exact fits
  · rw [emits.marked, decide_eq_true_iff, count]
    omega
  · intro receiver received empty carries
    have short : (stapUnits (frame.segment frame.currentNAL last)).length < 65536 := by
      rw [stapSize] at fits
      omega
    rw [payloadEq] at carries
    rw [segment_eq table _ inFrame] at carries short
    exact deencapsulateSTAP_undoes
      (fun unit member => nonempty unit (List.mem_of_mem_drop (List.mem_of_mem_take member)))
      short empty carries

/-- A picture parameter set and a slice, behind a sequence parameter set already sent. -/
theorem sendsAggregate_encapsulateSTAP_slice :
    let units : List (List UInt8) := [[0x67, 0x42], [0x68, 0xce], [0x65, 0x88, 0x84]]
    let entries : List NALU := [⟨7, 0, 2⟩, ⟨8, 2, 2⟩, ⟨5, 4, 3⟩]
    let frame : H264Frame :=
      { new (ofBytes units.flatten) (fun index => entries.getD index default) with
        numberOfNALsInFrame := 3
        currentNAL := 1 }
    ∃ last, SendsAggregate frame units
      (frame.encapsulateSTAP { frame := fun _ => 0, frameLen := 12 } CoderFlags.none) last := by
  intro units entries frame
  exact sendsAggregate_encapsulateSTAP rfl rfl (by decide) (by decide) (by decide) (by decide)
    (by decide) (by decide) (show RTPFrame.Plain _ from ⟨by decide, rfl⟩) CoderFlags.none

end H264Frame

end DShowCapture
