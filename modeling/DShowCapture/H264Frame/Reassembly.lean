/-
The receiving frame object refines the assembly of NAL units.

`Represents` reads a frame object as an assembly: the bytes in use, the NAL table and
the fragment counter.  Each function of the receiving half has one lemma that says
which step of the assembly it performs.
-/
import DShowCapture.H264Frame.Deencapsulate
import DShowCapture.Assembly

namespace DShowCapture

open ByteMemory FixedWidth Logged AnnexB

def nalEntries : Nat → List (List UInt8) → List NALU
  | _, [] => []
  | start, nal :: rest =>
      { type := nal.headD 0 &&& 0x1f, offset := start + 4, length := nal.length } ::
        nalEntries (start + 4 + nal.length) rest

@[simp] theorem length_nalEntries (start : Nat) (nals : List (List UInt8)) :
    (nalEntries start nals).length = nals.length := by
  induction nals generalizing start with
  | nil => rfl
  | cons nal rest ih => simp only [nalEntries, List.length_cons, ih]

theorem nalEntries_append (start : Nat) (first second : List (List UInt8)) :
    nalEntries start (first ++ second) =
      nalEntries start first ++
        nalEntries (start + (byteStream first).length) second := by
  induction first generalizing start with
  | nil => simp [nalEntries]
  | cons nal rest ih =>
      have endEq : start + 4 + nal.length + (byteStream rest).length =
          start + (byteStream (nal :: rest)).length := by
        rw [byteStream_cons]
        simp only [List.length_append, List.length_cons, List.length_nil]
        omega
      simp only [List.cons_append, nalEntries, ih, endEq]

theorem map_range_update_end {α : Type} (table : Nat → α) (count : Nat) (entry : α) :
    (List.range (count + 1)).map (Function.update table count entry) =
      (List.range count).map table ++ [entry] := by
  rw [List.range_succ, List.map_append, List.map_singleton, Function.update_self]
  congr 1
  apply List.map_congr_left
  intro index member
  exact Function.update_of_ne (Nat.ne_of_lt (List.mem_range.mp member)) _ _

namespace H264Frame

structure Represents (frame : H264Frame) (assembly : Assembly) : Prop where
  valid : assembly.Valid
  bytes : frame.assembled = assembly.stream
  length : frame.encodedFrameLen = assembly.size
  table : frame.nalTable = nalEntries 0 assembly.nals
  reserved : frame.numberOfNALsInFrame ≤ frame.numberOfNALsReserved
  allocated : 0 < frame.numberOfNALsReserved → 0 < frame.nalsAllocated
  counter : frame.currentFU = assembly.openFragments

theorem Represents.count {frame : H264Frame} {assembly : Assembly}
    (represents : Represents frame assembly) :
    frame.numberOfNALsInFrame = assembly.nals.length := by
  have lengths := congrArg List.length represents.table
  rwa [nalTable, List.length_map, List.length_range, length_nalEntries] at lengths

theorem Represents.count_le {frame : H264Frame} {assembly : Assembly}
    (represents : Represents frame assembly) :
    frame.numberOfNALsInFrame ≤ 196608 := by
  have bound := assembly.four_mul_length_le_size
  have fits := represents.valid.fits
  rw [represents.count]
  unfold maxFrameSize at fits
  omega

theorem represents_beginNewFrame (frame : H264Frame)
    (allocated : 0 < frame.numberOfNALsReserved → 0 < frame.nalsAllocated) :
    Represents (frame.beginNewFrame 0) Assembly.empty :=
  { valid := Assembly.valid_empty
    bytes := rfl
    length := rfl
    table := rfl
    reserved := Nat.zero_le _
    allocated := allocated
    counter := rfl }

theorem Represents.withCounter {frame : H264Frame} {assembly : Assembly} {counter : Nat}
    (represents : Represents frame assembly) (inRange : counter < 65536)
    (opened : counter ≠ 0 → assembly.nals ≠ []) :
    Represents { frame with currentFU := counter }
      { assembly with openFragments := counter } :=
  { valid :=
      { nonempty := represents.valid.nonempty
        fits := represents.valid.fits
        counter := inRange
        opened := opened }
    bytes := represents.bytes
    length := represents.length
    table := represents.table
    reserved := represents.reserved
    allocated := represents.allocated
    counter := rfl }

/-! ### `AddDataToEncodedFrame` -/

def appendNAL (frame : H264Frame) (source : Memory) (data dataLen : Nat) (header : UInt8) :
    H264Frame :=
  { frame.reserveNAL with
    encodedFrame :=
      copy (store frame.encodedFrame frame.encodedFrameLen [0, 0, 0, 1, header])
        (frame.encodedFrameLen + 5) source data dataLen
    encodedFrameLen := frame.encodedFrameLen + dataLen + 5
    nals :=
      Function.update frame.nals frame.numberOfNALsInFrame
        { type := header &&& 0x1f
          offset := frame.encodedFrameLen + 4
          length := dataLen + 1 }
    numberOfNALsInFrame := frame.numberOfNALsInFrame + 1 }

def appendData (frame : H264Frame) (source : Memory) (data dataLen : Nat) : H264Frame :=
  let index := frame.numberOfNALsInFrame - 1
  { frame with
    encodedFrame := copy frame.encodedFrame frame.encodedFrameLen source data dataLen
    encodedFrameLen := frame.encodedFrameLen + dataLen
    nals :=
      Function.update frame.nals index
        { frame.nals index with length := (frame.nals index).length + dataLen } }

theorem reserveNAL_spec (frame : H264Frame)
    (small : frame.numberOfNALsInFrame ≤ 196608)
    (reserved : frame.numberOfNALsInFrame ≤ frame.numberOfNALsReserved)
    (allocated : 0 < frame.numberOfNALsReserved → 0 < frame.nalsAllocated) :
    frame.numberOfNALsInFrame + 1 ≤ frame.reserveNAL.numberOfNALsReserved ∧
      0 < frame.reserveNAL.nalsAllocated := by
  unfold reserveNAL u32
  split
  · rename_i grows
    dsimp only at grows ⊢
    omega
  · rename_i keeps
    constructor
    · omega
    · apply allocated
      omega

@[simp] theorem encodedFrame_reserveNAL (frame : H264Frame) :
    frame.reserveNAL.encodedFrame = frame.encodedFrame := by
  unfold reserveNAL
  split <;> rfl

@[simp] theorem encodedFrameLen_reserveNAL (frame : H264Frame) :
    frame.reserveNAL.encodedFrameLen = frame.encodedFrameLen := by
  unfold reserveNAL
  split <;> rfl

@[simp] theorem nals_reserveNAL (frame : H264Frame) :
    frame.reserveNAL.nals = frame.nals := by
  unfold reserveNAL
  split <;> rfl

@[simp] theorem numberOfNALsInFrame_reserveNAL (frame : H264Frame) :
    frame.reserveNAL.numberOfNALsInFrame = frame.numberOfNALsInFrame := by
  unfold reserveNAL
  split <;> rfl

@[simp] theorem currentFU_reserveNAL (frame : H264Frame) :
    frame.reserveNAL.currentFU = frame.currentFU := by
  unfold reserveNAL
  split <;> rfl

theorem addDataToEncodedFrame_header {frame : H264Frame} {assembly : Assembly}
    (represents : Represents frame assembly) (source : Memory) (data dataLen : Nat)
    (header : UInt8) (room : assembly.size + dataLen + 5 ≤ maxFrameSize) :
    (frame.addDataToEncodedFrame source data dataLen header true).value =
      frame.appendNAL source data dataLen header := by
  have lengthEq := represents.length
  have small := represents.count_le
  have allocated := (frame.reserveNAL_spec small represents.reserved represents.allocated).2
  unfold maxFrameSize at room
  have noWrap : u32 (frame.encodedFrameLen + dataLen + (5 : Nat)) =
      frame.encodedFrameLen + dataLen + 5 := by
    unfold u32
    omega
  have fits : ¬ frame.encodedFrameLen + dataLen + 5 > maxFrameSize := by
    unfold maxFrameSize
    omega
  have offsetEq : u32 (frame.encodedFrameLen + 4) = frame.encodedFrameLen + 4 := by
    unfold u32
    omega
  have dataLenEq : u32 (dataLen + 1) = dataLen + 1 := by
    unfold u32
    omega
  have countEq : u32 (frame.numberOfNALsInFrame + 1) = frame.numberOfNALsInFrame + 1 := by
    unfold u32
    omega
  have isAllocated :
      ¬ (reserveNAL
          { frame with
            encodedFrame :=
              store frame.encodedFrame frame.encodedFrameLen [0, 0, 0, 1, header] }
        ).nalsAllocated = 0 := by
    have same : (reserveNAL
          { frame with
            encodedFrame :=
              store frame.encodedFrame frame.encodedFrameLen [0, 0, 0, 1, header] }
        ).nalsAllocated = frame.reserveNAL.nalsAllocated := by
      unfold reserveNAL
      split <;> rfl
    omega
  simp only [addDataToEncodedFrame, addHeaderToEncodedFrame, if_true, noWrap, if_neg fits,
    value_bind, value_pure, if_neg isAllocated, encodedFrame_reserveNAL,
    encodedFrameLen_reserveNAL, nals_reserveNAL, numberOfNALsInFrame_reserveNAL, offsetEq,
    dataLenEq, countEq]
  unfold appendNAL reserveNAL
  split <;> rfl

theorem addDataToEncodedFrame_full {frame : H264Frame} {assembly : Assembly}
    (represents : Represents frame assembly) (source : Memory) (data dataLen : Nat)
    (header : UInt8) (addHeader : Bool) (bounded : dataLen ≤ 16777216)
    (full : maxFrameSize < assembly.size + dataLen + (if addHeader then 5 else 0)) :
    (frame.addDataToEncodedFrame source data dataLen header addHeader).value = frame := by
  have lengthEq := represents.length
  have fits := represents.valid.fits
  have tooBig :
      u32 (frame.encodedFrameLen + dataLen + (if addHeader then 5 else 0 : Nat)) >
        maxFrameSize := by
    unfold maxFrameSize at fits full ⊢
    unfold u32
    split at full <;> simp only [*, if_true, Bool.false_eq_true, if_false] at full ⊢ <;> omega
  simp only [addDataToEncodedFrame, if_pos tooBig, value_pure]

theorem Represents.lastEntry {frame : H264Frame} {assembly : Assembly}
    (represents : Represents frame assembly) {front : List (List UInt8)}
    {last : List UInt8} (nalsEq : assembly.nals = front ++ [last]) :
    frame.numberOfNALsInFrame = front.length + 1 ∧
      (List.range front.length).map frame.nals = nalEntries 0 front ∧
      frame.nals front.length =
        { type := last.headD 0 &&& 0x1f
          offset := (byteStream front).length + 4
          length := last.length } := by
  have countFront : frame.numberOfNALsInFrame = front.length + 1 := by
    rw [represents.count, nalsEq, List.length_append, List.length_singleton]
  have tableEq := represents.table
  rw [nalTable, countFront, List.range_succ, List.map_append, nalsEq, nalEntries_append]
    at tableEq
  have tableParts := List.append_inj tableEq (by simp)
  refine ⟨countFront, tableParts.1, ?_⟩
  simpa [nalEntries] using tableParts.2

theorem addDataToEncodedFrame_extend {frame : H264Frame} {assembly : Assembly}
    (represents : Represents frame assembly) (nonempty : assembly.nals ≠ [])
    (source : Memory) (data dataLen : Nat) (header : UInt8)
    (room : assembly.size + dataLen ≤ maxFrameSize) :
    (frame.addDataToEncodedFrame source data dataLen header false).value =
      frame.appendData source data dataLen := by
  have lengthEq := represents.length
  have lastShort : (frame.nals (frame.numberOfNALsInFrame - 1)).length ≤ maxFrameSize := by
    obtain ⟨front, last, nalsEq⟩ := Assembly.exists_last nonempty
    have entry := represents.lastEntry nalsEq
    have sizeEq : assembly.size = (byteStream front).length + (last.length + 4) := by
      rw [Assembly.size, Assembly.stream, nalsEq, byteStream_append, byteStream_singleton]
      simp only [List.length_append, List.length_cons, List.length_nil]
      omega
    rw [entry.1, Nat.add_sub_cancel, entry.2.2]
    dsimp only
    omega
  have small := represents.count_le
  have positive := List.length_pos_iff.mpr nonempty
  have countEq := represents.count
  unfold maxFrameSize at room lastShort
  have noWrap : u32 (frame.encodedFrameLen + dataLen + (0 : Nat)) =
      frame.encodedFrameLen + dataLen := by
    unfold u32
    omega
  have fits : ¬ frame.encodedFrameLen + dataLen > maxFrameSize := by
    unfold maxFrameSize
    omega
  have isAllocated : ¬ frame.nalsAllocated = 0 := by
    have reserved := represents.reserved
    have allocated := represents.allocated (by omega)
    omega
  have indexEq : u32 (frame.numberOfNALsInFrame - 1) = frame.numberOfNALsInFrame - 1 := by
    unfold u32
    omega
  have grownEq :
      u32 ((frame.nals (frame.numberOfNALsInFrame - 1)).length + dataLen) =
        (frame.nals (frame.numberOfNALsInFrame - 1)).length + dataLen := by
    unfold u32
    omega
  simp only [addDataToEncodedFrame, extendLastNAL, Bool.false_eq_true, if_false, noWrap,
    if_neg fits, value_bind, value_pure, if_neg isAllocated, indexEq, grownEq, Nat.add_zero]
  rfl

theorem represents_appendNAL {frame : H264Frame} {assembly : Assembly}
    (represents : Represents frame assembly) {source : Memory} {data : Nat}
    {body : List UInt8} (held : read source data body.length = body) (header : UInt8)
    (room : assembly.size + body.length + 5 ≤ maxFrameSize) :
    Represents (frame.appendNAL source data body.length header)
      (assembly.addNAL (header :: body)) := by
  have roomNAL : assembly.size + (header :: body).length + 4 ≤ maxFrameSize := by
    rw [List.length_cons]
    omega
  have added := Assembly.addNAL_of_room roomNAL
  have countEq := represents.count
  have lengthEq := represents.length
  have reserve := frame.reserveNAL_spec represents.count_le represents.reserved
    represents.allocated
  refine
    { valid := Assembly.valid_addNAL represents.valid (List.cons_ne_nil header body)
      bytes := ?_
      length := ?_
      table := ?_
      reserved := reserve.1
      allocated := fun _ => reserve.2
      counter := ?_ }
  · have oldBytes := represents.bytes
    have parts : frame.encodedFrameLen + body.length + 5 =
        frame.encodedFrameLen + (5 + body.length) := by omega
    have headerBytes :
        read (store frame.encodedFrame frame.encodedFrameLen [0, 0, 0, 1, header])
          frame.encodedFrameLen 5 = [0, 0, 0, 1, header] :=
      read_store_self frame.encodedFrame frame.encodedFrameLen [0, 0, 0, 1, header]
    rw [assembled, appendNAL, parts, read_append, read_append, Nat.zero_add,
      read_copy_self, held, read_copy_before _ _ _ _ _ _ _ (by omega),
      read_copy_before _ _ _ _ _ _ _ (by omega), read_store_before _ _ _ _ _ (by omega),
      headerBytes]
    rw [assembled] at oldBytes
    rw [oldBytes, Assembly.stream, Assembly.stream, added.1, byteStream_append,
      byteStream_singleton]
    rfl
  · rw [added.2, List.length_cons]
    simp only [appendNAL]
    omega
  · have oldTable := represents.table
    have streamLength : (byteStream assembly.nals).length = frame.encodedFrameLen := by
      rw [lengthEq]
      rfl
    rw [nalTable] at oldTable
    rw [nalTable, appendNAL, map_range_update_end, oldTable, added.1, nalEntries_append,
      Nat.zero_add, streamLength]
    rfl
  · rw [Assembly.openFragments_addNAL, ← represents.counter]
    simp only [appendNAL, currentFU_reserveNAL]

theorem represents_appendData {frame : H264Frame} {assembly : Assembly}
    (represents : Represents frame assembly) (nonempty : assembly.nals ≠ [])
    {source : Memory} {data : Nat} {body : List UInt8}
    (held : read source data body.length = body)
    (room : assembly.size + body.length ≤ maxFrameSize) :
    Represents (frame.appendData source data body.length) (assembly.extend body) := by
  obtain ⟨front, last, nalsEq⟩ := Assembly.exists_last nonempty
  have lengthEq := represents.length
  have extended : assembly.extend body =
      { assembly with nals := extendLast assembly.nals body } := if_pos room
  have validExtended : (assembly.extend body).Valid :=
    Assembly.valid_extend represents.valid nonempty represents.valid.counter body
  have entry := represents.lastEntry nalsEq
  have lastNonempty : last ≠ [] := by
    apply represents.valid.nonempty last
    rw [nalsEq]
    exact List.mem_append_right _ List.mem_cons_self
  refine
    { valid := validExtended
      bytes := ?_
      length := ?_
      table := ?_
      reserved := represents.reserved
      allocated := represents.allocated
      counter := ?_ }
  · have oldBytes := represents.bytes
    rw [assembled] at oldBytes
    rw [assembled, appendData, read_append, Nat.zero_add, read_copy_self, held,
      read_copy_before _ _ _ _ _ _ _ (by omega), oldBytes, extended, Assembly.stream,
      Assembly.stream, Assembly.byteStream_extendLast nonempty]
  · rw [extended]
    simp only [appendData, Assembly.size, Assembly.stream,
      Assembly.byteStream_extendLast nonempty, List.length_append, lengthEq]
  · have headEq : (last ++ body).headD 0 = last.headD 0 := by
      cases last with
      | nil => exact absurd rfl lastNonempty
      | cons first rest => rfl
    rw [extended, nalsEq]
    simp only [Assembly.extendLast_append, nalEntries_append, nalTable, appendData,
      entry.1, Nat.add_sub_cancel]
    rw [map_range_update_end, entry.2.1, entry.2.2]
    simp only [nalEntries, headEq, List.length_append, Nat.zero_add]
  · rw [Assembly.openFragments_extend]
    exact represents.counter

theorem represents_addNAL {frame : H264Frame} {assembly : Assembly}
    (represents : Represents frame assembly) {source : Memory} {data : Nat}
    {body : List UInt8} (held : read source data body.length = body) (header : UInt8)
    (bounded : body.length ≤ 16777216) :
    Represents (frame.addDataToEncodedFrame source data body.length header true).value
      (assembly.addNAL (header :: body)) := by
  by_cases room : assembly.size + body.length + 5 ≤ maxFrameSize
  · rw [addDataToEncodedFrame_header represents _ _ _ _ room]
    exact represents_appendNAL represents held header room
  · have noRoom : ¬ assembly.size + (header :: body).length + 4 ≤ maxFrameSize := by
      rw [List.length_cons]
      omega
    have unchanged : assembly.addNAL (header :: body) = assembly := if_neg noRoom
    rw [addDataToEncodedFrame_full represents _ _ _ _ true bounded (by simpa using room),
      unchanged]
    exact represents

theorem represents_extend {frame : H264Frame} {assembly : Assembly}
    (represents : Represents frame assembly) (nonempty : assembly.nals ≠ [])
    {source : Memory} {data : Nat} {body : List UInt8}
    (held : read source data body.length = body) (bounded : body.length ≤ 16777216) :
    Represents (frame.addDataToEncodedFrame source data body.length 0 false).value
      (assembly.extend body) := by
  by_cases room : assembly.size + body.length ≤ maxFrameSize
  · rw [addDataToEncodedFrame_extend represents nonempty _ _ _ _ room]
    exact represents_appendData represents nonempty held room
  · have unchanged : assembly.extend body = assembly := if_neg room
    rw [addDataToEncodedFrame_full represents _ _ _ _ false bounded (by simpa using room),
      unchanged]
    exact represents

/-! ### `SetFromRTPFrame` -/

theorem represents_deencapsulateSTAPLoop {frame : H264Frame} {assembly : Assembly}
    (represents : Represents frame assembly) {source : Memory} {curSTAP : Nat}
    {nals : List (List UInt8)}
    (formed : ∀ nal, nal ∈ nals → nal ≠ [] ∧ nal.length < 65536)
    (held : read source curSTAP (RFC6184.stapUnits nals).length = RFC6184.stapUnits nals) :
    let result :=
      (frame.deencapsulateSTAPLoop source curSTAP (RFC6184.stapUnits nals).length).value
    result.1 = true ∧ Represents result.2 (nals.foldl Assembly.addNAL assembly) := by
  induction nals generalizing frame assembly curSTAP with
  | nil =>
      rw [deencapsulateSTAPLoop]
      exact ⟨rfl, represents⟩
  | cons nal rest ih =>
      obtain ⟨nonempty, small⟩ := formed nal List.mem_cons_self
      cases nal with
      | nil => exact absurd rfl nonempty
      | cons header body =>
          have lengthEq := RFC6184.length_stapUnits_cons (header :: body) rest
          rw [RFC6184.stapUnits_cons] at held
          obtain ⟨highEq, heldLow⟩ := head_of_read_eq held
          obtain ⟨lowEq, heldRest⟩ := head_of_read_eq heldLow
          obtain ⟨heldNal, heldUnits⟩ := split_of_read_eq heldRest
          obtain ⟨headerEq, heldBody⟩ := head_of_read_eq heldNal
          have sizeEq : bigEndian16 (source curSTAP) (source (curSTAP + 1)) =
              (header :: body).length := by
            rw [highEq, lowEq, RFC6184.bigEndian16_sizeField small]
          have positive : ¬ (RFC6184.stapUnits ((header :: body) :: rest)).length = 0 := by
            rw [lengthEq]
            omega
          have dataLenEq : u32 ((header :: body).length - 1) = body.length := by
            rw [List.length_cons] at small ⊢
            unfold u32
            omega
          have fits : ¬ (header :: body).length + 2 >
              (RFC6184.stapUnits ((header :: body) :: rest)).length := by
            rw [lengthEq]
            omega
          have remaining : (RFC6184.stapUnits ((header :: body) :: rest)).length -
              ((header :: body).length + 2) = (RFC6184.stapUnits rest).length := by
            rw [lengthEq]
            omega
          have added := represents_addNAL represents heldBody header (by
            rw [List.length_cons] at small
            omega)
          rw [deencapsulateSTAPLoop, if_neg positive]
          simp only [value_bind, sizeEq, dataLenEq, if_neg fits, remaining,
            List.foldl_cons]
          rw [show source (curSTAP + 2) = header from headerEq]
          exact ih added (fun other member => formed other (List.mem_cons_of_mem _ member))
            heldUnits

structure Carries (rtp : RTPFrame) (bytes : List UInt8) : Prop where
  size : rtp.getPayloadSize = bytes.length
  held : read rtp.frame rtp.getPayloadPtr bytes.length = bytes

theorem Carries.someBytes {rtp : RTPFrame} {first : UInt8} {rest : List UInt8}
    (carries : Carries rtp (first :: rest)) : ¬ rtp.getPayloadSize = 0 := by
  rw [carries.size]
  exact Nat.succ_ne_zero rest.length

theorem represents_deencapsulateSTAP {frame : H264Frame} {assembly : Assembly}
    (represents : Represents frame assembly) {rtp : RTPFrame} {header : UInt8}
    {nals : List (List UInt8)}
    (formed : ∀ nal, nal ∈ nals → nal ≠ [] ∧ nal.length < 65536)
    (carries : Carries rtp (RFC6184.stapPayload header nals)) :
    let result := (frame.deencapsulateSTAP rtp).value
    result.1 = true ∧ Represents result.2 (nals.foldl Assembly.addNAL assembly) := by
  have sizeEq := carries.size
  rw [RFC6184.stapPayload, List.length_cons] at sizeEq
  have noWrap : u32 (rtp.getPayloadSize - 1) = (RFC6184.stapUnits nals).length := by
    have inRange := u32_lt (rtp.frameLen - rtp.getHeaderSize)
    change rtp.getPayloadSize < 4294967296 at inRange
    unfold u32
    omega
  have heldUnits := (head_of_read_eq carries.held).2
  simp only [deencapsulateSTAP, noWrap, value_ite, value_pure]
  split
  · rename_i tiny
    cases nals with
    | nil => exact ⟨rfl, represents⟩
    | cons nal rest =>
        have nonempty := List.length_pos_iff.mpr (formed nal List.mem_cons_self).1
        simp only [RFC6184.stapUnits, List.flatMap_cons, RFC6184.sizeField,
          List.length_append, List.length_cons, List.length_nil] at tiny
        omega
  · exact represents_deencapsulateSTAPLoop represents formed heldUnits

theorem addDataToEncodedFrame_withCounter (frame : H264Frame) (counter : Nat)
    (source : Memory) (data dataLen : Nat) (header : UInt8) (addHeader : Bool) :
    (addDataToEncodedFrame { frame with currentFU := counter } source data dataLen header
        addHeader).value =
      { (frame.addDataToEncodedFrame source data dataLen header addHeader).value with
        currentFU := counter } := by
  cases addHeader
  · simp only [addDataToEncodedFrame, extendLastNAL, value_ite, value_bind, value_pure,
      Bool.false_eq_true, if_false]
    split
    · rfl
    · split <;> rfl
  · simp only [addDataToEncodedFrame, addHeaderToEncodedFrame, reserveNAL, value_ite,
      value_bind, value_pure, if_true]
    split
    · rfl
    · split <;> split <;> rfl

theorem represents_deencapsulateFU {frame : H264Frame} {assembly : Assembly}
    (represents : Represents frame assembly) {rtp : RTPFrame} {indicator header : UInt8}
    {body : List UInt8} (formed : indicator &&& 0x1f = 28)
    (short : body.length + 5 ≤ maxFrameSize)
    (carries : Carries rtp (indicator :: header :: body)) :
    let result := (frame.deencapsulateFU rtp).value
    match assembly.receive (.fragment indicator header body) with
    | some next => result.1 = true ∧ Represents result.2 next
    | none => result.1 = false ∧
        result.2.numberOfNALsReserved = frame.numberOfNALsReserved ∧
        result.2.nalsAllocated = frame.nalsAllocated := by
  have sizeEq := carries.size
  rw [List.length_cons, List.length_cons] at sizeEq
  have small : body.length ≤ 16777216 := by
    unfold maxFrameSize at short
    omega
  have noWrap : u32 (rtp.getPayloadSize - 2) = body.length := by
    unfold u32
    omega
  obtain ⟨indicatorEq, heldTail⟩ := head_of_read_eq carries.held
  obtain ⟨headerEq, heldBody⟩ := head_of_read_eq heldTail
  have counterEq := represents.counter
  simp only [deencapsulateFU, value_bind, noWrap, headerEq, indicatorEq, counterEq,
    Assembly.receive, Payload.startBit, Payload.endBit]
  cases startEq : (header &&& 0x80 != 0) <;> cases endEq : (header &&& 0x40 != 0) <;>
    simp only [Bool.not_true, Bool.not_false, Bool.and_true, Bool.and_false,
      Bool.false_eq_true, if_true, if_false]
  case false.false =>
    by_cases isOpen : assembly.openFragments ≠ 0
    · have nonempty := represents.valid.opened isOpen
      have inRange : (assembly.openFragments + 1) % 65536 < 65536 :=
        Nat.mod_lt _ (by decide)
      have counted := represents.withCounter inRange (fun _ => nonempty)
      have counterNext :
          u16 (assembly.openFragments + 1) = (assembly.openFragments + 1) % 65536 := by
        unfold u16
        omega
      simp only [if_pos isOpen, value_bind, value_pure, counterNext]
      exact ⟨trivial, represents_extend counted nonempty heldBody small⟩
    · simp only [if_neg isOpen, value_pure, and_self]
  case false.true =>
    by_cases isOpen : assembly.openFragments ≠ 0
    · have nonempty := represents.valid.opened isOpen
      have counted := represents.withCounter (Nat.zero_lt_succ 65535)
        (fun _ => nonempty)
      simp only [if_pos isOpen, value_bind, value_pure]
      exact ⟨trivial, represents_extend counted nonempty heldBody small⟩
    · simp only [if_neg isOpen, value_pure, and_self]
  case true.false =>
    by_cases isOpen : assembly.openFragments ≠ 0
    · simp only [if_pos isOpen, value_pure, true_and]
      exact represents.withCounter (by decide) (fun _ => represents.valid.opened isOpen)
    · let nal := Payload.openedFirst indicator header :: body
      have added := represents_addNAL represents heldBody
        (Payload.openedFirst indicator header) small
      have received : assembly.receive (.fragment indicator header body) =
          some (Assembly.addNAL { assembly with openFragments := 1 } nal) := by
        simp only [Assembly.receive, Payload.startBit, Payload.endBit, startEq, endEq,
          if_neg isOpen, nal]
      have wellFormed : (Payload.fragment indicator header body).WellFormed := formed
      have validNext := Assembly.valid_receive represents.valid wellFormed short received
      rw [Assembly.addNAL_withCounter] at validNext
      have counterNext : u16 (assembly.openFragments + 1) = 1 := by
        unfold u16
        omega
      simp only [if_neg isOpen, value_bind, value_pure, counterNext, true_and,
        addDataToEncodedFrame_withCounter, Assembly.addNAL_withCounter]
      exact added.withCounter (by decide) validNext.opened
  case true.true => simp only [value_pure, and_self]

/-- `SetFromRTPFrame` performs the step `receive`: an accepted payload leaves the flags
alone, a rejected one empties the assembly and requests a key frame. -/
theorem setFromRTPFrame_refines {frame : H264Frame} {assembly : Assembly}
    (represents : Represents frame assembly) {rtp : RTPFrame} {payload : Payload}
    (wellFormed : payload.WellFormed) (short : payload.Short)
    (carries : Carries rtp payload.bytes) (flags : CoderFlags) :
    let received := (frame.setFromRTPFrame rtp flags).value
    match assembly.receive payload with
    | some next =>
        received.returned = true ∧ received.flags = flags ∧
          Represents received.self next
    | none =>
        received.returned = false ∧ received.flags = { flags with requestIFrame := true } ∧
          Represents received.self Assembly.empty := by
  have sizeEq := carries.size
  cases payload with
  | empty =>
      have noBytes : rtp.getPayloadSize = 0 := sizeEq
      simp only [setFromRTPFrame, value_bind, if_pos noBytes, value_pure, Assembly.receive,
        true_and]
      exact represents
  | single first rest =>
      obtain ⟨firstEq, heldRest⟩ := head_of_read_eq carries.held
      have someBytes := carries.someBytes
      have restShort : rest.length + 5 ≤ maxFrameSize := short
      have small : rest.length ≤ 16777216 := by
        unfold maxFrameSize at restShort
        omega
      have noWrap : u32 (rtp.getPayloadSize - 1) = rest.length := by
        rw [sizeEq, Payload.bytes, List.length_cons]
        unfold u32
        omega
      have isSingle : nalTypeNonIdrSlice ≤ first &&& 0x1f ∧
          first &&& 0x1f ≤ nalTypeFillerData := wellFormed
      simp only [setFromRTPFrame, value_bind, if_neg someBytes, firstEq, if_pos isSingle,
        noWrap, value_pure, Assembly.receive, true_and]
      exact represents_addNAL represents heldRest first small
  | stap header nals =>
      obtain ⟨headerEq, _⟩ := head_of_read_eq carries.held
      have someBytes := carries.someBytes
      have added := represents_deencapsulateSTAP represents wellFormed.2 carries
      have notSingle : ¬ (nalTypeNonIdrSlice ≤ (24 : UInt8) ∧ 24 ≤ nalTypeFillerData) := by
        decide
      simp only [setFromRTPFrame, value_bind, if_neg someBytes, headerEq, wellFormed.1,
        if_neg notSingle, if_true, added.1, value_pure, Assembly.receive, true_and]
      exact added.2
  | fragment indicator header body =>
      obtain ⟨indicatorEq, _⟩ := head_of_read_eq carries.held
      have someBytes := carries.someBytes
      have formed : indicator &&& 0x1f = 28 := wellFormed
      have stepped := represents_deencapsulateFU represents formed short carries
      have notSingle : ¬ (nalTypeNonIdrSlice ≤ (28 : UInt8) ∧ 28 ≤ nalTypeFillerData) := by
        decide
      have notStap : ¬ (28 : UInt8) = 24 := by decide
      simp only [setFromRTPFrame, value_bind, if_neg someBytes, indicatorEq, formed,
        if_neg notSingle, if_neg notStap, if_true]
      cases received : assembly.receive (.fragment indicator header body) with
      | some next =>
          rw [received] at stepped
          simp only [stepped.1, if_true, value_pure, true_and]
          exact stepped.2
      | none =>
          rw [received] at stepped
          simp only [stepped.1, Bool.false_eq_true, if_false, value_pure, rejectFrame,
            true_and]
          apply represents_beginNewFrame
          rw [stepped.2.1, stepped.2.2]
          exact represents.allocated
  | unsupported first rest =>
      obtain ⟨firstEq, _⟩ := head_of_read_eq carries.held
      have someBytes := carries.someBytes
      have notSingle : ¬ (nalTypeNonIdrSlice ≤ first &&& 0x1f ∧
          first &&& 0x1f ≤ nalTypeFillerData) := wellFormed.1
      simp only [setFromRTPFrame, value_bind, if_neg someBytes, firstEq, if_neg notSingle,
        if_neg wellFormed.2.1, if_neg wellFormed.2.2, value_pure, Assembly.receive,
        rejectFrame, true_and]
      exact represents_beginNewFrame frame represents.allocated

end H264Frame

end DShowCapture
