/-
Where the receiving half of the frame object reads and writes.

What a frame object holds between two packets bounds every access that a packet can
cause, except for those that a length in the packet itself puts out of range.
-/
import DShowCapture.H264Frame.Deencapsulate

namespace DShowCapture

open ByteMemory FixedWidth Logged

/-- The access stays within a packet of `srcLen` bytes, within the reassembly buffer, and
within the NAL table. -/
def FrameAccess.InBounds (srcLen : Nat) : FrameAccess → Prop
  | .packet start count => 0 < count → start + count ≤ srcLen
  | .frame start count => 0 < count → start + count ≤ maxFrameSize
  | .nal index entries => index < entries

namespace H264Frame

/-- The buffer holds no more than fits.  Every NAL unit takes at least one byte of it, and
the table has as many entries as it counts. -/
structure Bounded (frame : H264Frame) : Prop where
  length : frame.encodedFrameLen ≤ maxFrameSize
  count : frame.numberOfNALsInFrame ≤ frame.encodedFrameLen
  empty : frame.numberOfNALsInFrame = 0 → frame.encodedFrameLen = 0
  table : frame.numberOfNALsInFrame ≤ frame.numberOfNALsReserved
  reserved : frame.numberOfNALsReserved ≤ maxFrameSize
  allocated : frame.nalsAllocated = frame.numberOfNALsReserved

/-- What holds of a receiving frame object between two packets: a NAL unit that is open is
there. -/
structure Receiving (frame : H264Frame) : Prop where
  bounded : frame.Bounded
  opened : frame.currentFU ≠ 0 → frame.numberOfNALsInFrame ≠ 0

theorem receiving_new (encodedFrame : Memory) (nals : Nat → NALU) :
    (new encodedFrame nals).Receiving :=
  { bounded :=
      { length := Nat.zero_le _
        count := Nat.le_refl _
        empty := fun _ => rfl
        table := Nat.le_refl _
        reserved := Nat.zero_le _
        allocated := rfl }
    opened := fun isOpen => absurd rfl isOpen }

theorem Bounded.reset {frame : H264Frame} (bounded : frame.Bounded) :
    (frame.beginNewFrame 0).Receiving :=
  { bounded :=
      { length := Nat.zero_le _
        count := Nat.le_refl _
        empty := fun _ => rfl
        table := Nat.zero_le _
        reserved := bounded.reserved
        allocated := bounded.allocated }
    opened := fun isOpen => absurd rfl isOpen }

/-! ### Adding data -/

/-- The size test of `AddDataToEncodedFrame`, which may wrap. -/
def passesSizeTest (frame : H264Frame) (dataLen headerLen : Nat) : Bool :=
  u32 (frame.encodedFrameLen + dataLen + headerLen) ≤ maxFrameSize

theorem room_of_passes {frame : H264Frame} {dataLen headerLen : Nat}
    (small : frame.encodedFrameLen + dataLen + headerLen < 4294967296) :
    frame.passesSizeTest dataLen headerLen = true ↔
      frame.encodedFrameLen + dataLen + headerLen ≤ maxFrameSize := by
  unfold passesSizeTest
  have noWrap : u32 (frame.encodedFrameLen + dataLen + headerLen) =
      frame.encodedFrameLen + dataLen + headerLen := by
    unfold u32
    omega
  rw [noWrap, decide_eq_true_iff]

theorem Bounded.reserveNAL {frame : H264Frame} (bounded : frame.Bounded)
    (room : frame.encodedFrameLen < maxFrameSize) :
    frame.reserveNAL.numberOfNALsInFrame = frame.numberOfNALsInFrame ∧
      frame.numberOfNALsInFrame < frame.reserveNAL.numberOfNALsReserved ∧
      frame.reserveNAL.numberOfNALsReserved ≤ maxFrameSize ∧
      frame.reserveNAL.nalsAllocated = frame.reserveNAL.numberOfNALsReserved ∧
      frame.reserveNAL.encodedFrameLen = frame.encodedFrameLen := by
  have count := bounded.count
  have table := bounded.table
  have reserved := bounded.reserved
  have nextEq : u32 (frame.numberOfNALsInFrame + 1) = frame.numberOfNALsInFrame + 1 := by
    unfold maxFrameSize at room
    unfold u32
    omega
  have grownEq : u32 (frame.numberOfNALsReserved + 1) = frame.numberOfNALsReserved + 1 := by
    unfold maxFrameSize at reserved
    unfold u32
    omega
  unfold H264Frame.reserveNAL
  rw [nextEq, grownEq]
  split
  · exact ⟨rfl, by show _ < _ + 1; omega, by show _ + 1 ≤ _; omega, rfl, rfl⟩
  · exact ⟨rfl, by omega, reserved, bounded.allocated, rfl⟩

structure Fits (srcLen : Nat) (frame : H264Frame) (data dataLen headerLen : Nat) : Prop where
  source : 0 < dataLen → data + dataLen ≤ srcLen
  target : 0 < dataLen → frame.encodedFrameLen + headerLen + dataLen ≤ maxFrameSize

variable {srcLen : Nat} {frame : H264Frame}

theorem Bounded.addHeaderToEncodedFrame (bounded : frame.Bounded)
    (room : frame.encodedFrameLen + 5 ≤ maxFrameSize) (srcLen dataLen : Nat) (header : UInt8) :
    let computation := frame.addHeaderToEncodedFrame dataLen header
    Safe (FrameAccess.InBounds srcLen) computation ∧
      computation.value.encodedFrameLen = frame.encodedFrameLen ∧
      computation.value.numberOfNALsInFrame = frame.numberOfNALsInFrame + 1 ∧
      frame.numberOfNALsInFrame + 1 ≤ computation.value.numberOfNALsReserved ∧
      computation.value.numberOfNALsReserved ≤ maxFrameSize ∧
      computation.value.nalsAllocated = computation.value.numberOfNALsReserved := by
  have stored : Bounded { frame with
      encodedFrame := store frame.encodedFrame frame.encodedFrameLen [0, 0, 0, 1, header] } :=
    { bounded with }
  have grown := stored.reserveNAL (by show frame.encodedFrameLen < maxFrameSize; omega)
  have count := bounded.count
  simp only [H264Frame.addHeaderToEncodedFrame, safe_bind, safe_emit, value_bind]
  generalize H264Frame.reserveNAL { frame with
    encodedFrame := store frame.encodedFrame frame.encodedFrameLen [0, 0, 0, 1, header] } = next
    at grown ⊢
  dsimp only at grown
  rcases grown with ⟨numberEq, isRoom, few, allocated, lengthEq⟩
  have someAllocated : ¬ next.nalsAllocated = 0 := by omega
  have nextEq : u32 (next.numberOfNALsInFrame + 1) = frame.numberOfNALsInFrame + 1 := by
    rw [numberEq]
    unfold maxFrameSize at room
    unfold u32
    omega
  simp only [if_neg someAllocated, safe_bind, safe_emit, safe_pure, value_bind, value_pure,
    nextEq]
  refine ⟨⟨fun _ => room, ?_, trivial⟩, lengthEq, trivial, isRoom, few, allocated⟩
  show next.numberOfNALsInFrame < next.nalsAllocated
  omega

theorem Bounded.extendLastNAL (bounded : frame.Bounded)
    (someNAL : frame.numberOfNALsInFrame ≠ 0) (srcLen dataLen : Nat) :
    let computation := frame.extendLastNAL dataLen
    Safe (FrameAccess.InBounds srcLen) computation ∧
      ∃ nals, computation.value = { frame with nals := nals } := by
  have table := bounded.table
  have few := bounded.reserved
  have allocated := bounded.allocated
  have someAllocated : ¬ frame.nalsAllocated = 0 := by omega
  have lastEq : u32 (frame.numberOfNALsInFrame - 1) = frame.numberOfNALsInFrame - 1 := by
    unfold maxFrameSize at few
    unfold u32
    omega
  simp only [H264Frame.extendLastNAL, if_neg someAllocated, safe_bind, safe_emit, safe_pure,
    value_bind, value_pure, lastEq]
  refine ⟨⟨?_, trivial⟩, _, rfl⟩
  show frame.numberOfNALsInFrame - 1 < frame.nalsAllocated
  omega

structure Adds (frame next : H264Frame) (added : Nat) : Prop where
  bounded : next.Bounded
  length : next.encodedFrameLen = frame.encodedFrameLen + added
  someNAL : next.numberOfNALsInFrame ≠ 0

theorem Adds.receiving {frame next : H264Frame} {added : Nat} (adds : frame.Adds next added) :
    next.Receiving := { bounded := adds.bounded, opened := fun _ => adds.someNAL }

def headerLength (addHeader : Bool) : Nat := if addHeader then 5 else 0

theorem addDataToEncodedFrame_of_full {dataLen : Nat} {addHeader : Bool}
    (full : frame.passesSizeTest dataLen (headerLength addHeader) = false) (source : Memory)
    (data : Nat) (header : UInt8) :
    frame.addDataToEncodedFrame source data dataLen header addHeader = pure frame := by
  have tooLong : u32 (frame.encodedFrameLen + dataLen + headerLength addHeader) >
      maxFrameSize := Nat.lt_of_not_le (of_decide_eq_false full)
  exact if_pos tooLong

section Adding

variable {dataLen : Nat} {addHeader : Bool}
  (passes : frame.passesSizeTest dataLen (headerLength addHeader) = true)
  (source : Memory) (data : Nat) (header : UInt8)

include passes

theorem addDataToEncodedFrame_of_passes :
    frame.addDataToEncodedFrame source data dataLen header addHeader =
      (if addHeader then frame.addHeaderToEncodedFrame dataLen header
        else frame.extendLastNAL dataLen) >>= fun grown =>
          (do
            emit (.packet data dataLen)
            emit (.frame (frame.encodedFrameLen + headerLength addHeader) dataLen)
            pure
              { grown with
                encodedFrame := copy grown.encodedFrame
                  (frame.encodedFrameLen + headerLength addHeader) source data dataLen
                encodedFrameLen :=
                  u32 (grown.encodedFrameLen + dataLen + headerLength addHeader) }) := by
  have short : ¬ u32 (frame.encodedFrameLen + dataLen + headerLength addHeader) >
      maxFrameSize := Nat.not_lt_of_le (of_decide_eq_true passes)
  cases addHeader <;> exact if_neg short

theorem room_of_fits (bounded : frame.Bounded)
    (fits : frame.Fits srcLen data dataLen (headerLength addHeader)) :
    frame.encodedFrameLen + dataLen + headerLength addHeader ≤ maxFrameSize := by
  by_cases isEmpty : dataLen = 0
  · have length := bounded.length
    have short : headerLength addHeader ≤ 5 := by cases addHeader <;> decide
    unfold maxFrameSize at length
    refine (room_of_passes ?_).mp passes
    omega
  · have target := fits.target (Nat.pos_of_ne_zero isEmpty)
    omega

theorem safe_addDataToEncodedFrame (bounded : frame.Bounded)
    (someNAL : addHeader = false → frame.numberOfNALsInFrame ≠ 0) :
    Safe (FrameAccess.InBounds srcLen)
        (frame.addDataToEncodedFrame source data dataLen header addHeader) ↔
      frame.Fits srcLen data dataLen (headerLength addHeader) := by
  rw [addDataToEncodedFrame_of_passes passes]
  simp only [safe_bind, safe_emit, safe_pure, and_true]
  constructor
  · rintro ⟨_, source, target⟩
    exact { source := source, target := target }
  · intro fits
    refine ⟨?_, fits.source, fits.target⟩
    have room := room_of_fits passes data bounded fits
    cases addHeader with
    | true =>
        unfold headerLength at room
        exact (bounded.addHeaderToEncodedFrame (by simp at room; omega) srcLen dataLen header).1
    | false => exact (bounded.extendLastNAL (someNAL rfl) srcLen dataLen).1

theorem adds_addDataToEncodedFrame (bounded : frame.Bounded)
    (someNAL : addHeader = false → frame.numberOfNALsInFrame ≠ 0)
    (fits : frame.Fits srcLen data dataLen (headerLength addHeader)) :
    frame.Adds (frame.addDataToEncodedFrame source data dataLen header addHeader).value
      (dataLen + headerLength addHeader) := by
  have room := room_of_fits passes data bounded fits
  have count := bounded.count
  have noWrap : u32 (frame.encodedFrameLen + dataLen + headerLength addHeader) =
      frame.encodedFrameLen + dataLen + headerLength addHeader := by
    unfold maxFrameSize at room
    unfold u32
    omega
  rw [addDataToEncodedFrame_of_passes passes]
  simp only [value_bind, value_pure]
  cases addHeader with
  | true =>
      unfold headerLength at room noWrap ⊢
      simp only [if_true] at room noWrap ⊢
      obtain ⟨_, lengthEq, numberEq, isRoom, few, allocated⟩ :=
        bounded.addHeaderToEncodedFrame (by omega) srcLen dataLen header
      generalize (frame.addHeaderToEncodedFrame dataLen header).value = next at *
      have totalEq : u32 (next.encodedFrameLen + dataLen + (5 : Nat)) =
          frame.encodedFrameLen + dataLen + 5 := by
        rw [lengthEq]
        exact noWrap
      rw [totalEq]
      refine
        { bounded :=
            { length := room
              count := ?_
              empty := fun isEmpty => ?_
              table := ?_
              reserved := few
              allocated := allocated }
          length := by show _ + _ + _ = _ + (_ + _); omega
          someNAL := ?_ }
      · show next.numberOfNALsInFrame ≤ frame.encodedFrameLen + dataLen + 5
        omega
      · exact absurd (numberEq.symm.trans isEmpty) (Nat.succ_ne_zero _)
      · show next.numberOfNALsInFrame ≤ next.numberOfNALsReserved
        omega
      · show next.numberOfNALsInFrame ≠ 0
        omega
  | false =>
      have opened := someNAL rfl
      obtain ⟨_, nals, valueEq⟩ := bounded.extendLastNAL opened srcLen dataLen
      simp only [Bool.false_eq_true, if_false, valueEq, noWrap]
      exact
        { bounded :=
            { bounded with
              length := room
              count := Nat.le_trans count (Nat.le_trans (Nat.le_add_right _ _)
                (Nat.le_add_right _ _))
              empty := fun isEmpty => absurd isEmpty opened }
          length := Nat.add_assoc _ _ _
          someNAL := opened }

end Adding

/-! ### The three kinds of payload -/

/-- The walk over the units of an aggregate stays in bounds: wherever it gets, a size field
and a header byte are left; a unit for which the buffer has room is not empty and ends
within the packet; a unit without room is skipped, or ends the walk behind the packet. -/
def UnitsInBounds (size : Nat) : List UInt8 → Prop
  | [] => True
  | high :: low :: header :: rest =>
      let len := bigEndian16 high low
      if size + len + 4 ≤ maxFrameSize then
        (0 < len ∧ len ≤ rest.length + 1) ∧
          UnitsInBounds (size + len + 4) ((header :: rest).drop len)
      else rest.length + 1 < len ∨ UnitsInBounds size ((header :: rest).drop len)
  | _ => False
termination_by bytes => bytes.length
decreasing_by
  all_goals
    simp only [List.length_drop, List.length_cons]
    omega

theorem read_units (source : Memory) (cur : Nat) {left : Nat} (isLong : 3 ≤ left) :
    read source cur left =
      source cur :: source (cur + 1) :: source (cur + 2) ::
        read source (cur + 3) (left - 3) := by
  obtain ⟨more, rfl⟩ := Nat.exists_eq_add_of_le' isLong
  rfl

theorem drop_unit (source : Memory) (cur : Nat) {left len : Nat} (isLong : 3 ≤ left)
    (ends : len + 2 ≤ left) :
    (source (cur + 2) :: read source (cur + 3) (left - 3)).drop len =
      read source (cur + 2 + len) (left - (len + 2)) := by
  have countEq : left - 2 = left - 3 + 1 := by omega
  have unitEq : source (cur + 2) :: read source (cur + 3) (left - 3) =
      read source (cur + 2) (left - 2) := by
    rw [countEq]
    rfl
  rw [unitEq, drop_read _ _ _ _ (by omega)]
  congr 1
  omega

theorem passesSizeTest_unit (bounded : frame.Bounded) {len : Nat} (small : len < 65536) :
    frame.passesSizeTest (u32 (len - 1)) 5 =
      decide (frame.encodedFrameLen + len + 4 ≤ maxFrameSize) := by
  have length := bounded.length
  unfold passesSizeTest
  congr 1
  unfold maxFrameSize at length ⊢
  unfold u32
  apply propext
  omega

section Walk

variable (source : Memory) (cur : Nat) {left len : Nat}

def addUnit (frame : H264Frame) : Logged FrameAccess H264Frame :=
  frame.addDataToEncodedFrame source (cur + 3)
    (u32 (bigEndian16 (source cur) (source (cur + 1)) - 1)) (source (cur + 2)) true

theorem safe_loop_iff (lenEq : bigEndian16 (source cur) (source (cur + 1)) = len)
    (someLeft : left ≠ 0) :
    Safe (FrameAccess.InBounds srcLen) (frame.deencapsulateSTAPLoop source cur left) ↔
      cur + 3 ≤ srcLen ∧ Safe (FrameAccess.InBounds srcLen) (frame.addUnit source cur) ∧
        (len + 2 ≤ left → Safe (FrameAccess.InBounds srcLen)
          ((frame.addUnit source cur).value.deencapsulateSTAPLoop source (cur + 2 + len)
            (left - (len + 2)))) := by
  subst lenEq
  rw [deencapsulateSTAPLoop, if_neg someLeft]
  simp only [safe_bind, safe_emit, safe_ite, safe_pure, implies_true, true_and]
  constructor
  · rintro ⟨_, header, added, later⟩
    exact ⟨header (by decide), added, fun fits => later (by omega)⟩
  · rintro ⟨header, added, later⟩
    exact ⟨fun _ => by omega, fun _ => header, added, fun fits => later (by omega)⟩

theorem value_loop (lenEq : bigEndian16 (source cur) (source (cur + 1)) = len)
    (someLeft : left ≠ 0) :
    (frame.deencapsulateSTAPLoop source cur left).value =
      if len + 2 > left then (false, (frame.addUnit source cur).value)
      else
        ((frame.addUnit source cur).value.deencapsulateSTAPLoop source (cur + 2 + len)
          (left - (len + 2))).value := by
  subst lenEq
  rw [deencapsulateSTAPLoop, if_neg someLeft]
  simp only [value_bind, value_ite, value_pure]
  rfl

end Walk

theorem addUnit_of_full (bounded : frame.Bounded) (source : Memory) (cur : Nat) {len : Nat}
    (lenEq : bigEndian16 (source cur) (source (cur + 1)) = len)
    (full : ¬ frame.encodedFrameLen + len + 4 ≤ maxFrameSize) :
    frame.addUnit source cur = pure frame := by
  subst lenEq
  apply addDataToEncodedFrame_of_full
  rw [headerLength, if_pos rfl, passesSizeTest_unit bounded (bigEndian16_lt _ _)]
  exact decide_eq_false full

/-- A unit with room is added within bounds when it is not empty and ends within the
packet. -/
theorem addUnit_of_room (bounded : frame.Bounded) (source : Memory) {cur left len : Nat}
    (lenEq : bigEndian16 (source cur) (source (cur + 1)) = len)
    (inside : cur + left = srcLen) (isLong : 3 ≤ left)
    (room : frame.encodedFrameLen + len + 4 ≤ maxFrameSize) :
    (Safe (FrameAccess.InBounds srcLen) (frame.addUnit source cur) ↔
        0 < len ∧ len + 2 ≤ left) ∧
      (Safe (FrameAccess.InBounds srcLen) (frame.addUnit source cur) →
        frame.Adds (frame.addUnit source cur).value (len + 4)) := by
  have lenLt : len < 65536 := by
    rw [← lenEq]
    exact bigEndian16_lt _ _
  unfold addUnit
  rw [lenEq]
  have passes : frame.passesSizeTest (u32 (len - 1)) (headerLength true) = true := by
    rw [headerLength, if_pos rfl, passesSizeTest_unit bounded lenLt]
    exact decide_eq_true room
  have safeIff : Safe (FrameAccess.InBounds srcLen) _ ↔ _ :=
    safe_addDataToEncodedFrame passes source (cur + 3) (source (cur + 2)) bounded
      (fun isFalse => absurd isFalse (by decide))
  have fitsIff : frame.Fits srcLen (cur + 3) (u32 (len - 1)) (headerLength true) ↔
      0 < len ∧ len + 2 ≤ left := by
    have lengthEq : 0 < len → u32 (len - 1) = len - 1 := by
      intro positive
      unfold u32
      omega
    constructor
    · intro fits
      have positive : 0 < len := by
        by_contra isZero
        have zeroEq : len = 0 := by omega
        have target := fits.target
        rw [zeroEq] at target
        have wrapped := target (by decide)
        have huge : u32 ((0 : Nat) - 1) = 4294967295 := by decide
        rw [huge] at wrapped
        unfold maxFrameSize at wrapped
        omega
      have source := fits.source
      rw [lengthEq positive] at source
      refine ⟨positive, ?_⟩
      by_cases isOne : len = 1
      · omega
      · have ends := source (by omega)
        omega
    · rintro ⟨positive, ends⟩
      refine { source := fun _ => ?_, target := fun _ => ?_ }
      · rw [lengthEq positive]
        omega
      · rw [lengthEq positive, headerLength, if_pos rfl]
        omega
  refine ⟨safeIff.trans fitsIff, ?_⟩
  intro safe
  have adds := adds_addDataToEncodedFrame passes source (cur + 3) (source (cur + 2)) bounded
    (fun isFalse => absurd isFalse (by decide)) (safeIff.mp safe)
  have positive := ((safeIff.trans fitsIff).mp safe).1
  have addedEq : u32 (len - 1) + headerLength true = len + 4 := by
    unfold u32 headerLength
    simp only [if_true]
    omega
  rw [addedEq] at adds
  exact adds

/-- The walk over an aggregate, and what it leaves behind when it stays in bounds. -/
theorem safe_deencapsulateSTAPLoop (receiving : frame.Receiving) (source : Memory) {cur left : Nat}
    (inside : cur + left = srcLen) :
    (Safe (FrameAccess.InBounds srcLen) (frame.deencapsulateSTAPLoop source cur left) ↔
        UnitsInBounds frame.encodedFrameLen (read source cur left)) ∧
      (Safe (FrameAccess.InBounds srcLen) (frame.deencapsulateSTAPLoop source cur left) →
        (frame.deencapsulateSTAPLoop source cur left).value.2.Receiving) := by
  induction left using Nat.strongRecOn generalizing frame cur with
  | ind left ih =>
      by_cases isEmpty : left = 0
      · subst isEmpty
        rw [deencapsulateSTAPLoop, if_pos rfl, read_zero, UnitsInBounds]
        exact ⟨iff_of_true (safe_pure _ _) trivial, fun _ => receiving⟩
      generalize lenEq : bigEndian16 (source cur) (source (cur + 1)) = len
      rw [safe_loop_iff source cur lenEq isEmpty, value_loop source cur lenEq isEmpty]
      by_cases isShort : left < 3
      · have noUnits : ¬ UnitsInBounds frame.encodedFrameLen (read source cur left) := by
          have few : left = 1 ∨ left = 2 := by omega
          rcases few with rfl | rfl <;> simp [UnitsInBounds, read_succ]
        exact ⟨iff_of_false (fun safe => by omega) noUnits, fun safe => by omega⟩
      have isLong : 3 ≤ left := by omega
      have header : cur + 3 ≤ srcLen := by omega
      rw [read_units source cur isLong, UnitsInBounds, lenEq, length_read]
      by_cases room : frame.encodedFrameLen + len + 4 ≤ maxFrameSize
      · rw [if_pos room]
        obtain ⟨safeIff, adding⟩ :=
          addUnit_of_room receiving.bounded source lenEq inside isLong room
        rw [safeIff] at adding ⊢
        by_cases ends : 0 < len ∧ len + 2 ≤ left
        · have adds := adding ends
          have later := ih (left - (len + 2)) (by omega) adds.receiving
            (by omega : cur + 2 + len + (left - (len + 2)) = srcLen)
          rw [adds.length, ← drop_unit source cur isLong ends.2, ← Nat.add_assoc] at later
          constructor
          · rw [later.1]
            constructor
            · rintro ⟨_, _, walk⟩
              exact ⟨by omega, walk ends.2⟩
            · rintro ⟨_, walk⟩
              exact ⟨header, ends, fun _ => walk⟩
          · rintro ⟨_, _, walk⟩
            rw [if_neg (by omega)]
            exact later.2 (walk ends.2)
        · exact ⟨iff_of_false (fun safe => ends safe.2.1) (fun safe => ends (by omega)),
            fun safe => absurd safe.2.1 ends⟩
      · rw [addUnit_of_full receiving.bounded source cur lenEq room, value_pure, if_neg room]
        have dropped : Safe (FrameAccess.InBounds srcLen) (pure frame) := safe_pure _ frame
        by_cases ends : len + 2 ≤ left
        · have later := ih (left - (len + 2)) (by omega) receiving
            (by omega : cur + 2 + len + (left - (len + 2)) = srcLen)
          rw [← drop_unit source cur isLong ends] at later
          constructor
          · rw [later.1]
            constructor
            · rintro ⟨_, _, walk⟩
              exact Or.inr (walk ends)
            · rintro (beyond | walk)
              · omega
              · exact ⟨header, dropped, fun _ => walk⟩
          · rintro ⟨_, _, walk⟩
            rw [if_neg (by omega)]
            exact later.2 (walk ends)
        · refine ⟨iff_of_true ⟨header, dropped, fun fits => absurd fits ends⟩
            (Or.inl (by omega)), fun _ => ?_⟩
          rw [if_pos (by omega)]
          exact receiving

/-- What the payload itself must grant for the accesses to stay in bounds. -/
def PayloadInBounds (size : Nat) : List UInt8 → Prop
  | [] => True
  | first :: rest =>
      (first &&& 0x1f = 24 → rest.length ≤ 2 ∨ UnitsInBounds size rest) ∧
        (first &&& 0x1f = 28 → rest ≠ [])

section Packet

variable {rtp : RTPFrame}

structure Reaches (srcLen : Nat) (rtp : RTPFrame) : Prop where
  inside : rtp.getPayloadPtr + rtp.getPayloadSize = srcLen
  positive : 0 < rtp.getPayloadSize
  small : srcLen ≤ 65535

/-- Data of a packet never wraps the size test. -/
theorem passes_iff (bounded : frame.Bounded) {dataLen : Nat} (small : dataLen ≤ 65535)
    (addHeader : Bool) :
    frame.passesSizeTest dataLen (headerLength addHeader) = true ↔
      frame.encodedFrameLen + dataLen + headerLength addHeader ≤ maxFrameSize := by
  have length := bounded.length
  have short : headerLength addHeader ≤ 5 := by cases addHeader <;> decide
  unfold maxFrameSize at length
  apply room_of_passes
  omega

theorem adds_of_inside (bounded : frame.Bounded) (source : Memory) {data dataLen : Nat}
    (ends : data + dataLen ≤ srcLen) (small : srcLen ≤ 65535) (header : UInt8)
    (addHeader : Bool) (someNAL : addHeader = false → frame.numberOfNALsInFrame ≠ 0) :
    let computation := frame.addDataToEncodedFrame source data dataLen header addHeader
    Safe (FrameAccess.InBounds srcLen) computation ∧ computation.value.Bounded ∧
      computation.value.numberOfNALsInFrame ≠ 0 := by
  intro computation
  have short : headerLength addHeader ≤ 5 := by cases addHeader <;> decide
  cases passes : frame.passesSizeTest dataLen (headerLength addHeader) with
  | false =>
      have unchanged : computation = pure frame :=
        addDataToEncodedFrame_of_full passes source data header
      rw [unchanged]
      refine ⟨safe_pure _ _, bounded, ?_⟩
      intro noNAL
      have isEmpty := bounded.empty noNAL
      have fitsIff := passes_iff bounded (by omega : dataLen ≤ 65535) addHeader
      rw [passes] at fitsIff
      have full := mt fitsIff.mpr (by decide)
      unfold maxFrameSize at full
      omega
  | true =>
      have room := (passes_iff bounded (by omega) addHeader).mp passes
      have fits : frame.Fits srcLen data dataLen (headerLength addHeader) :=
        { source := fun _ => ends, target := fun _ => by omega }
      have adds := adds_addDataToEncodedFrame passes source data header bounded someNAL fits
      exact ⟨(safe_addDataToEncodedFrame passes source data header bounded someNAL).mpr fits,
        adds.bounded, adds.someNAL⟩

theorem safe_deencapsulateFU (receiving : frame.Receiving) (reaches : Reaches srcLen rtp) :
    (Safe (FrameAccess.InBounds srcLen) (frame.deencapsulateFU rtp) ↔
        2 ≤ rtp.getPayloadSize) ∧
      (Safe (FrameAccess.InBounds srcLen) (frame.deencapsulateFU rtp) →
        (frame.deencapsulateFU rtp).value.2.Receiving) := by
  have inside := reaches.inside
  have small := reaches.small
  have headerIff : (FrameAccess.packet (rtp.getPayloadPtr + 1) 1).InBounds srcLen ↔
      2 ≤ rtp.getPayloadSize := by
    constructor
    · intro header
      have ends := header (by decide)
      omega
    · intro isLong _
      omega
  rw [deencapsulateFU]
  simp only [safe_bind, safe_emit, headerIff, value_bind]
  by_cases isLong : 2 ≤ rtp.getPayloadSize
  · have lengthEq : u32 (rtp.getPayloadSize - 2) = rtp.getPayloadSize - 2 := by
      unfold u32
      omega
    have bounded := receiving.bounded
    have counted : ∀ counter, Bounded { frame with currentFU := counter } :=
      fun _ => { bounded with }
    rw [lengthEq]
    generalize (rtp.frame (rtp.getPayloadPtr + 1) &&& 0x80 != 0) = startBit
    generalize (rtp.frame (rtp.getPayloadPtr + 1) &&& 0x40 != 0) = endBit
    have ends : rtp.getPayloadPtr + 2 + (rtp.getPayloadSize - 2) ≤ srcLen := by omega
    have closed : Receiving { frame with currentFU := 0 } :=
      { bounded := counted 0, opened := fun isOpen => absurd rfl isOpen }
    have extending : ∀ counter, frame.currentFU ≠ 0 →
        let computation := H264Frame.addDataToEncodedFrame { frame with currentFU := counter }
          rtp.frame (rtp.getPayloadPtr + 2) (rtp.getPayloadSize - 2) 0 false
        Safe (FrameAccess.InBounds srcLen) computation ∧ computation.value.Receiving := by
      intro counter isOpen
      have adds := adds_of_inside (counted counter) rtp.frame ends small 0
        false (fun _ => receiving.opened isOpen)
      exact ⟨adds.1, { bounded := adds.2.1, opened := fun _ => adds.2.2 }⟩
    cases startBit with
    | false =>
        cases endBit <;>
          simp only [Bool.not_false, Bool.not_true, Bool.and_true, Bool.and_false,
            Bool.false_eq_true, if_true, if_false]
        all_goals
          by_cases isOpen : frame.currentFU ≠ 0
          · simp only [if_pos isOpen, safe_bind, safe_pure, value_bind, value_pure, and_true]
            exact ⟨iff_of_true ⟨isLong, (extending _ isOpen).1⟩ isLong,
              fun _ => (extending _ isOpen).2⟩
          · simp only [if_neg isOpen, safe_pure, value_pure]
            exact ⟨iff_of_true ⟨isLong, trivial⟩ isLong, fun _ => closed⟩
    | true =>
        cases endBit with
        | true =>
            simp only [Bool.not_true, Bool.and_false, Bool.false_eq_true, Bool.and_true,
              if_false, safe_pure, value_pure]
            exact ⟨iff_of_true ⟨isLong, trivial⟩ isLong, fun _ => closed⟩
        | false =>
            simp only [Bool.not_false, Bool.and_true, if_true]
            by_cases isOpen : frame.currentFU ≠ 0
            · simp only [if_pos isOpen, safe_pure, value_pure]
              exact ⟨iff_of_true ⟨isLong, trivial⟩ isLong, fun _ =>
                { bounded := counted 1, opened := fun _ => receiving.opened isOpen }⟩
            · have header : (FrameAccess.packet rtp.getPayloadPtr 2).InBounds srcLen :=
                fun _ => by omega
              have adds := adds_of_inside (counted (u16 (frame.currentFU + 1))) rtp.frame ends
                small (rtp.frame rtp.getPayloadPtr &&& 0xe0 |||
                  rtp.frame (rtp.getPayloadPtr + 1) &&& 0x1f) true
                (fun isFalse => absurd isFalse (by decide))
              simp only [if_neg isOpen, safe_bind, safe_emit, safe_pure, value_bind,
                value_pure, and_true]
              exact ⟨iff_of_true ⟨isLong, header, adds.1⟩ isLong,
                fun _ => { bounded := adds.2.1, opened := fun _ => adds.2.2 }⟩
  · exact ⟨iff_of_false (fun safe => isLong safe.1) isLong, fun safe => absurd safe.1 isLong⟩

theorem safe_deencapsulateSTAP (receiving : frame.Receiving) (reaches : Reaches srcLen rtp) :
    (Safe (FrameAccess.InBounds srcLen) (frame.deencapsulateSTAP rtp) ↔
        rtp.getPayloadSize - 1 ≤ 2 ∨
          UnitsInBounds frame.encodedFrameLen
            (read rtp.frame (rtp.getPayloadPtr + 1) (rtp.getPayloadSize - 1))) ∧
      (Safe (FrameAccess.InBounds srcLen) (frame.deencapsulateSTAP rtp) →
        (frame.deencapsulateSTAP rtp).value.2.Receiving) := by
  have inside := reaches.inside
  have positive := reaches.positive
  have small := reaches.small
  have lengthEq : u32 (rtp.getPayloadSize - 1) = rtp.getPayloadSize - 1 := by
    unfold u32
    omega
  simp only [deencapsulateSTAP, lengthEq]
  by_cases isShort : rtp.getPayloadSize - 1 ≤ 2
  · simp only [if_pos isShort, value_pure]
    exact ⟨iff_of_true (safe_pure _ _) (Or.inl isShort), fun _ => receiving⟩
  · simp only [isShort, if_false, false_or]
    exact safe_deencapsulateSTAPLoop receiving rtp.frame (by omega)

/-- A packet stays in bounds when its payload grants it. -/
theorem safe_setFromRTPFrame (receiving : frame.Receiving) (reaches : Reaches srcLen rtp)
    (headerSafe : Safe (FrameAccess.InBounds srcLen) (readHeaderSize rtp)) (flags : CoderFlags) :
    (Safe (FrameAccess.InBounds srcLen) (frame.setFromRTPFrame rtp flags) ↔
        PayloadInBounds frame.encodedFrameLen rtp.payload) ∧
      (Safe (FrameAccess.InBounds srcLen) (frame.setFromRTPFrame rtp flags) →
        (frame.setFromRTPFrame rtp flags).value.self.Receiving) := by
  have inside := reaches.inside
  have positive := reaches.positive
  have small := reaches.small
  have someLeft : ¬ rtp.getPayloadSize = 0 := by omega
  have firstSafe : (FrameAccess.packet rtp.getPayloadPtr 1).InBounds srcLen := fun _ => by omega
  have payloadEq : rtp.payload = rtp.frame rtp.getPayloadPtr ::
      read rtp.frame (rtp.getPayloadPtr + 1) (rtp.getPayloadSize - 1) := by
    have countEq : rtp.getPayloadSize = rtp.getPayloadSize - 1 + 1 := by omega
    rw [RTPFrame.payload]
    conv_lhs => rw [countEq]
    rfl
  have restIff : read rtp.frame (rtp.getPayloadPtr + 1) (rtp.getPayloadSize - 1) ≠ [] ↔
      2 ≤ rtp.getPayloadSize := by
    rw [← List.length_pos_iff, length_read]
    omega
  have stap := safe_deencapsulateSTAP receiving reaches
  have fu := safe_deencapsulateFU receiving reaches
  have single := adds_of_inside receiving.bounded rtp.frame
    (by omega : rtp.getPayloadPtr + 1 + (rtp.getPayloadSize - 1) ≤ srcLen) small
    (rtp.frame rtp.getPayloadPtr) true (fun isFalse => absurd isFalse (by decide))
  have lengthEq : u32 (rtp.getPayloadSize - 1) = rtp.getPayloadSize - 1 := by
    unfold u32
    omega
  rw [payloadEq, PayloadInBounds, length_read, restIff]
  simp only [setFromRTPFrame, safe_bind, safe_emit, safe_ite, safe_pure, value_bind, value_ite,
    value_pure, headerSafe, firstSafe, true_and, someLeft, if_false, lengthEq]
  generalize rtp.frame rtp.getPayloadPtr &&& 0x1f = curNALType
  by_cases isSingle : nalTypeNonIdrSlice ≤ curNALType ∧ curNALType ≤ nalTypeFillerData
  · have not24 : curNALType ≠ 24 := by
      rintro rfl
      exact absurd isSingle (by decide)
    have not28 : curNALType ≠ 28 := by
      rintro rfl
      exact absurd isSingle (by decide)
    simp only [isSingle, not24, not28, and_self, not_true_eq_false, false_implies, if_true,
      single.1, iff_self, true_and, true_implies]
    exact { bounded := single.2.1, opened := fun _ => single.2.2 }
  · simp only [isSingle, if_false, false_implies, not_false_eq_true, true_implies, true_and]
    have settles : ∀ (accepted : Bool) (next : H264Frame), next.Receiving →
        (if accepted = true then { returned := true, self := next, flags := flags }
          else next.rejectFrame flags : Received).self.Receiving := by
      intro accepted next after
      cases accepted with
      | true => exact after
      | false => exact after.bounded.reset
    by_cases is24 : curNALType = 24
    · have not28 : (24 : UInt8) ≠ 28 := by decide
      simp only [is24, not28, if_true, true_implies, not_true_eq_false, false_implies,
        implies_true, and_true]
      exact ⟨stap.1, fun safe => settles _ _ (stap.2 safe)⟩
    · simp only [is24, if_false, false_implies, not_false_eq_true, true_implies, true_and]
      by_cases is28 : curNALType = 28
      · simp only [is28, if_true, true_implies, not_true_eq_false, implies_true, and_true]
        exact ⟨fu.1, fun safe => settles _ _ (fu.2 safe)⟩
      · simp only [is28, if_false, false_implies, implies_true, and_true, iff_self, true_and,
          true_implies]
        exact receiving.bounded.reset

end Packet

end H264Frame

end DShowCapture
