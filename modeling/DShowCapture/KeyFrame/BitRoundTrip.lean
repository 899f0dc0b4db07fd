/-
What the bit reader makes of a sequence of fields that a bit writer produced.

The unsigned reader undoes the writer for every sequence of fields, at every offset.  The
signed one is one too small for positive values: `code_num / 2` is a division of integers, so
that the half that is added to it is cut off again.
-/
import DShowCapture.KeyFrame.PictureSize

namespace DShowCapture

open ByteMemory hiding ofBytes
open BitString hiding value
open ExpGolomb FixedWidth Logged BitCursor

inductive WrittenField
  /-- `u(1)` -/
  | flag (bit : Bool)
  /-- `ue(v)` -/
  | unsigned (number : Nat)
  deriving DecidableEq, Repr

namespace WrittenField

def bits : WrittenField → List Bool
  | .flag bit => [bit]
  | .unsigned number => ExpGolomb.code number

def value : WrittenField → Int
  | .flag bit => bit.toNat
  | .unsigned number => number

def Small : WrittenField → Prop
  | .flag _ => True
  | .unsigned number => number ≤ 2 ^ 31 - 2

def read (memory : Memory) : WrittenField → BitCursor → Logged ScanAccess (Int × BitCursor)
  | .flag _, cursor => getBits1 memory cursor
  | .unsigned _, cursor => getUeGolomb memory cursor

end WrittenField

def readFields (memory : Memory) :
    List WrittenField → BitCursor → Logged ScanAccess (List Int × BitCursor)
  | [], cursor => pure ([], cursor)
  | field :: rest, cursor => do
      let (value, cursor) ← field.read memory cursor
      let (values, cursor) ← readFields memory rest cursor
      pure (value :: values, cursor)

def BitCursor.advance (cursor : BitCursor) (count : Nat) : BitCursor :=
  { frameData := cursor.frameData + (cursor.fromByteBits + count) / 8
    size := cursor.size - ((cursor.fromByteBits + count) / 8 : Nat)
    fromByteBits := (cursor.fromByteBits + count) % 8 }

/-! ### Positions -/

section Positions

variable {memory : Memory} {finish : Nat} {cursor : BitCursor}

/-- A cursor with bits left stands at one of them. -/
theorem ready_of_bitsLeft (inByte : cursor.fromByteBits < 8)
    (some : cursor.bitsLeft memory ≠ []) :
    ∃ finish : Nat, cursor.Ready finish := by
  have lengths := length_bitsLeft memory cursor
  have nonempty := List.length_pos_iff.mpr some
  have positive : 0 < cursor.size := by omega
  exact ⟨cursor.frameData + cursor.size.toNat, ⟨⟨positive, by omega⟩, inByte⟩⟩

theorem Ready.eq_advance {later : BitCursor} (ready : cursor.Ready finish)
    (readyLater : later.Ready finish) {bits : List Bool}
    (left : cursor.bitsLeft memory = bits ++ later.bitsLeft memory) :
    later = cursor.advance bits.length := by
  have lengths := congrArg List.length left
  rw [List.length_append, length_bitsLeft, length_bitsLeft] at lengths
  have positive := ready.positive
  have positiveLater := readyLater.positive
  have finishEq := ready.finish
  have finishLater := readyLater.finish
  have inByte := ready.inByte
  have inByteLater := readyLater.inByte
  rcases later with ⟨frameData, size, fromByteBits⟩
  simp only [advance, BitCursor.mk.injEq] at *
  omega

end Positions

/-! ### Fields -/

section Fields

variable {memory : Memory} {finish : Nat} {cursor : BitCursor}

theorem getBits1_value (ready : cursor.Ready finish) :
    (getBits1 memory cursor).value.1 = 0 ∨ (getBits1 memory cursor).value.1 = 1 := by
  have positive := ready.positive
  rw [(@getBits1_of_nonneg memory cursor (by omega)).2, extractBit_eq _ ready.inByte]
  generalize (memory cursor.frameData).toNat.testBit (7 - cursor.fromByteBits) = bit
  have isBit : (bit.toNat : Int) = 0 ∨ (bit.toNat : Int) = 1 := by
    cases bit
    · exact Or.inl rfl
    · exact Or.inr rfl
  split
  · split
    · exact Or.inl rfl
    · exact isBit
  · exact isBit

theorem read_written {field : WrittenField} (small : field.Small) (ready : cursor.Ready finish)
    {rest : List Bool} (more : rest ≠ []) (left : cursor.bitsLeft memory = field.bits ++ rest) :
    (field.read memory cursor).value.1 = field.value ∧
      Gives memory finish rest (field.read memory cursor) := by
  cases field with
  | flag bit =>
      have parsed := Field.parses_flag bit rest more
      rw [← show cursor.bitsLeft memory = [bit] ++ rest from left] at parsed
      obtain ⟨isSet, gives⟩ := reads_getBits1.present ready parsed
      refine ⟨?_, gives⟩
      simp only [WrittenField.read, WrittenField.value]
      rcases @getBits1_value memory finish cursor ready with zero | one
      · rw [zero] at isSet ⊢
        rw [← isSet]
        rfl
      · rw [one] at isSet ⊢
        rw [← isSet]
        rfl
  | unsigned number =>
      have parsed := Field.parses_unsigned number rest more
      rw [← show cursor.bitsLeft memory = ExpGolomb.code number ++ rest from left] at parsed
      obtain ⟨valueEq, gives⟩ := reads_getUeGolomb.present ready parsed
      refine ⟨?_, gives⟩
      have inRange : number ≤ 2 ^ 31 - 2 := small
      rw [Field.readNumber_of_lt (by omega)] at valueEq
      exact valueEq

theorem readFields_written {fields : List WrittenField}
    (small : ∀ field, field ∈ fields → field.Small) (ready : cursor.Ready finish)
    {rest : List Bool} (more : rest ≠ [])
    (left : cursor.bitsLeft memory = fields.flatMap WrittenField.bits ++ rest) :
    (readFields memory fields cursor).value.1 = fields.map WrittenField.value ∧
      Gives memory finish rest (readFields memory fields cursor) := by
  induction fields generalizing cursor with
  | nil => exact ⟨rfl, { ready := ready, left := left, safe := safe_pure _ _ }⟩
  | cons field fields ih =>
      rw [List.flatMap_cons, List.append_assoc] at left
      have moreFields := List.append_ne_nil_of_right_ne_nil
        (fields.flatMap WrittenField.bits) more
      obtain ⟨valueEq, gives⟩ :=
        read_written (small field List.mem_cons_self) ready moreFields left
      obtain ⟨valuesEq, givesRest⟩ :=
        ih (fun other member => small other (List.mem_cons_of_mem field member)) gives.ready
          gives.left
      rw [readFields]
      constructor
      · simp only [value_bind, value_pure, List.map_cons, valueEq, valuesEq]
      · apply gives.bind
        apply givesRest.bind
        exact { ready := givesRest.ready, left := givesRest.left, safe := safe_pure _ _ }

/-- The readers return the written values and stand behind the last field. -/
theorem readFields_roundTrip {fields : List WrittenField}
    (small : ∀ field, field ∈ fields → field.Small) (inByte : cursor.fromByteBits < 8)
    {next : Bool} {rest : List Bool}
    (left : cursor.bitsLeft memory = fields.flatMap WrittenField.bits ++ next :: rest) :
    (readFields memory fields cursor).value =
      (fields.map WrittenField.value,
        cursor.advance (fields.flatMap WrittenField.bits).length) := by
  have more : next :: rest ≠ [] := List.cons_ne_nil next rest
  obtain ⟨finish, ready⟩ := ready_of_bitsLeft inByte
    (left ▸ List.append_ne_nil_of_right_ne_nil _ more)
  obtain ⟨valuesEq, gives⟩ := readFields_written small ready more left
  rw [← gives.left] at left
  rw [← Ready.eq_advance ready gives.ready left, ← valuesEq]

end Fields

/-- A flag, seven, zero and a flag from bit 3 of a byte on.  The marker of seven is the last bit
of the byte. -/
theorem readFields_roundTrip_crossing :
    (readFields (ByteMemory.ofBytes [0xb1, 0x14])
        [.flag true, .unsigned 7, .unsigned 0, .flag false]
        { frameData := 0, size := 2, fromByteBits := 3 }).value =
      ([1, 7, 0, 0], { frameData := 1, size := 1, fromByteBits := 5 }) :=
  @readFields_roundTrip _ _ _
    (by simp [WrittenField.Small])
    (by decide) true [false, false] (by decide)

/-! ### Signed codes -/

section Signed

variable {memory : Memory} {cursor : BitCursor} {signed : Int}

/-- The reader returns the number that was written and stands behind its code. -/
def ReadsBack (memory : Memory) (cursor : BitCursor) (signed : Int) : Prop :=
  (getSeGolomb memory cursor).value =
    (signed, cursor.advance (ExpGolomb.signedCode signed).length)

/-- The code number of a positive value is odd, and the half is lost. -/
theorem signedCode_signedNumber (signed : Int) :
    DShowCapture.signedCode (signedNumber signed) =
      if 0 < signed then signed - 1 else signed := by
  unfold signedNumber
  by_cases positive : 0 < signed
  · have numberEq : (((2 * signed - 1).toNat : Nat) : Int) = 2 * signed - 1 := by omega
    have half : (2 * signed - 1).tdiv 2 = signed - 1 := by
      rw [Int.tdiv_eq_ediv_of_nonneg (by omega)]
      omega
    have even : (2 * signed - 1 + 1) % 2 = 0 := by omega
    have nonneg : ¬ signed - 1 < 0 := by omega
    rw [if_pos positive, if_pos positive, numberEq, DShowCapture.signedCode, half, if_pos even,
      if_neg nonneg]
  · have numberEq : (((-(2 * signed)).toNat : Nat) : Int) = -(2 * signed) := by omega
    have half : (-(2 * signed)).tdiv 2 = -signed := by
      rw [Int.tdiv_eq_ediv_of_nonneg (by omega)]
      omega
    have odd : ¬ (-(2 * signed) + 1) % 2 = 0 := by omega
    have nonneg : ¬ -signed < 0 := by omega
    rw [if_neg positive, if_neg positive, numberEq, DShowCapture.signedCode, half, if_neg odd,
      if_neg nonneg, Int.neg_neg]

/-- Positive values come back one too small; the position is right for all. -/
theorem getSeGolomb_written (small : signed.natAbs < 2 ^ 30) (inByte : cursor.fromByteBits < 8)
    {rest : List Bool} (more : rest ≠ [])
    (left : cursor.bitsLeft memory = ExpGolomb.signedCode signed ++ rest) :
    (getSeGolomb memory cursor).value =
      (if 0 < signed then signed - 1 else signed,
        cursor.advance (ExpGolomb.signedCode signed).length) := by
  obtain ⟨finish, ready⟩ :=
    ready_of_bitsLeft inByte (left ▸ List.append_ne_nil_of_right_ne_nil _ more)
  have inRange : signedNumber signed < 2147483647 := by
    unfold signedNumber
    split
    · omega
    · omega
  have parsed := Field.parses_code (signedNumber signed) rest more
  have found : Field.signed (cursor.bitsLeft memory) =
      some (DShowCapture.signedCode (Field.readNumber (signedNumber signed)), rest) := by
    rw [left, Field.signed, Field.map_apply, ExpGolomb.signedCode, parsed]
    rfl
  rw [Field.readNumber_of_lt inRange, signedCode_signedNumber] at found
  obtain ⟨valueEq, gives⟩ := reads_getSeGolomb.present ready found
  rw [← gives.left] at left
  rw [← Ready.eq_advance ready gives.ready left, ← valueEq]
  rfl

theorem readsBack_iff (small : signed.natAbs < 2 ^ 30) (inByte : cursor.fromByteBits < 8)
    {next : Bool} {rest : List Bool}
    (left : cursor.bitsLeft memory = ExpGolomb.signedCode signed ++ next :: rest) :
    ReadsBack memory cursor signed ↔ signed ≤ 0 := by
  rw [ReadsBack, getSeGolomb_written small inByte (List.cons_ne_nil next rest) left,
    Prod.mk.injEq, and_iff_left rfl]
  by_cases positive : 0 < signed
  · rw [if_pos positive]
    omega
  · rw [if_neg positive]
    omega

end Signed

/-- The code of -3 from bit 6 of a byte on. -/
theorem readsBack_negative :
    ReadsBack (ByteMemory.ofBytes [0xfc, 0xfc])
      { frameData := 0, size := 2, fromByteBits := 6 } (-3) :=
  (@readsBack_iff _ _ _ (by decide) (by decide) true [true, true, false, false]
    (by decide)).mpr
    (by decide)

/-- The code of one, 010, is read as zero. -/
theorem not_readsBack_one :
    ¬ ReadsBack (ByteMemory.ofBytes [0x50]) { frameData := 0, size := 1, fromByteBits := 0 } 1 := by
  have read := @getSeGolomb_written (ByteMemory.ofBytes [0x50])
    { frameData := 0, size := 1, fromByteBits := 0 } 1 (by decide) (by decide)
    [true, false, false, false, false] (by decide) (by decide)
  rw [ReadsBack, read]
  decide

end DShowCapture
