/-
The bit reader against the bits behind its cursor.

A reader yields a field when the field is there and at least one bit stands behind it.
Otherwise the data has run out: the cursor comes to stand at the end of the data, and what
is read from then on is at most the one byte behind it.
-/
import DShowCapture.KeyFrame.Locality
import DShowCapture.Library.ExpGolomb

namespace DShowCapture

open ByteMemory hiding ofBytes
open BitString hiding value
open FixedWidth Logged

def ScanAccess.Below (bound : Nat) : ScanAccess → Prop
  | .read start count => start + count ≤ bound
  | .refFrameRound _ => True
  | .offsetForRefFrame _ => True
  | .arithmetic _ => True

theorem ScanAccess.Below.mono {event : ScanAccess} {bound higher : Nat} (below : event.Below bound)
    (le : bound ≤ higher) : event.Below higher := by
  cases event with
  | read start count => exact Nat.le_trans below le
  | refFrameRound size => trivial
  | offsetForRefFrame index => trivial
  | arithmetic value => trivial

/-! ### Bits -/

section Bits

variable {offset : Nat}

private theorem bits_of_byte (byte : UInt8) :
    ∀ offset, offset < 8 →
      (bitMask offset &&& byte ≠ 0 ↔ byte.toNat.testBit (7 - offset) = true) ∧
        extractBit byte offset = (byte.toNat.testBit (7 - offset)).toNat := by
  revert byte
  exact forall_byte (by decide +kernel)

theorem bitMask_and_ne_zero (byte : UInt8) (inByte : offset < 8) :
    bitMask offset &&& byte ≠ 0 ↔ byte.toNat.testBit (7 - offset) = true :=
  (bits_of_byte byte offset inByte).1

theorem extractBit_eq (byte : UInt8) (inByte : offset < 8) :
    extractBit byte offset = (byte.toNat.testBit (7 - offset)).toNat :=
  (bits_of_byte byte offset inByte).2

end Bits

namespace BitCursor

def bitsLeft (memory : Memory) (cursor : BitCursor) : List Bool :=
  (ofBytes (read memory cursor.frameData cursor.size.toNat)).drop cursor.fromByteBits

structure Within (finish : Nat) (cursor : BitCursor) : Prop where
  positive : 0 < cursor.size
  finish : (cursor.frameData : Int) + cursor.size = finish

structure Ready (finish : Nat) (cursor : BitCursor) : Prop extends Within finish cursor where
  inByte : cursor.fromByteBits < 8

structure Ended (finish : Nat) (cursor : BitCursor) : Prop where
  runOut : cursor.size ≤ 0
  finish : (cursor.frameData : Int) + cursor.size = finish
  inByte : cursor.fromByteBits < 8

section BitsLeft

variable {memory : Memory} {finish : Nat} {cursor : BitCursor}

theorem bitsLeft_eq_append (positive : 0 < cursor.size) :
    bitsLeft memory cursor = (ofByte (memory cursor.frameData) ++
      ofBytes (read memory cursor.nextByte.frameData cursor.nextByte.size.toNat)).drop
        cursor.fromByteBits := by
  have sizeEq : cursor.size.toNat = cursor.nextByte.size.toNat + 1 := by
    simp only [nextByte]
    omega
  rw [bitsLeft, sizeEq, read_succ, ofBytes_cons]
  rfl

theorem bitsLeft_cons (positive : 0 < cursor.size) (inByte : cursor.fromByteBits < 8) :
    bitsLeft memory cursor =
      (memory cursor.frameData).toNat.testBit (7 - cursor.fromByteBits) ::
        bitsLeft memory { cursor with fromByteBits := cursor.fromByteBits + 1 } := by
  have behind := @bitsLeft_eq_append memory
    { cursor with fromByteBits := cursor.fromByteBits + 1 } positive
  rw [bitsLeft_eq_append positive, behind,
    List.drop_append_of_le_length (by rw [length_ofByte]; omega), drop_ofByte _ inByte,
    List.drop_append_of_le_length (by rw [length_ofByte]; exact inByte)]
  rfl

theorem bitsLeft_eight (positive : 0 < cursor.size) (atEnd : cursor.fromByteBits = 8) :
    bitsLeft memory cursor = bitsLeft memory cursor.nextByte := by
  rw [bitsLeft_eq_append positive, atEnd, List.drop_left' (length_ofByte _)]
  rfl

theorem length_bitsLeft (memory : Memory) (cursor : BitCursor) :
    (bitsLeft memory cursor).length = 8 * cursor.size.toNat - cursor.fromByteBits := by
  rw [bitsLeft, List.length_drop, length_ofBytes, length_read]

theorem Within.withBits (within : Within finish cursor) (bits : Nat) :
    Within finish { cursor with fromByteBits := bits } :=
  { positive := within.positive, finish := within.finish }

theorem Within.frameData_lt (within : Within finish cursor) : cursor.frameData < finish := by
  have positive := within.positive
  have finishEq := within.finish
  omega

theorem Within.below (within : Within finish cursor) :
    (ScanAccess.read cursor.frameData 1).Below finish := within.frameData_lt

theorem Ready.bitsLeft_ne_nil (ready : Ready finish cursor) : bitsLeft memory cursor ≠ [] := by
  rw [bitsLeft_cons ready.positive ready.inByte]
  exact List.cons_ne_nil _ _

theorem Within.next (within : Within finish cursor) (atEnd : cursor.fromByteBits = 8) :
    (cursor.nextByte.size ≤ 0 ∧ bitsLeft memory cursor = [] ∧
        cursor.nextByte.Ended finish ∧ cursor.nextByte.size = 0) ∨
      (¬ cursor.nextByte.size ≤ 0 ∧ cursor.nextByte.Ready finish ∧
        bitsLeft memory cursor = bitsLeft memory cursor.nextByte) := by
  have positive := within.positive
  have finishEq := within.finish
  have nextFinish : (cursor.nextByte.frameData : Int) + cursor.nextByte.size = finish := by
    simp only [nextByte]
    omega
  have inByte : cursor.nextByte.fromByteBits < 8 := Nat.zero_lt_succ 7
  by_cases runsOut : cursor.nextByte.size ≤ 0
  · have sizeEq : cursor.size = 1 := by
      simp only [nextByte] at runsOut
      omega
    refine Or.inl ⟨runsOut, ?_, ⟨runsOut, nextFinish, inByte⟩, ?_⟩
    · apply List.eq_nil_of_length_eq_zero
      rw [length_bitsLeft, sizeEq, atEnd]
      rfl
    · simp only [nextByte, sizeEq]
      rfl
  · exact Or.inr ⟨runsOut, ⟨⟨Int.not_le.mp runsOut, nextFinish⟩, inByte⟩,
      bitsLeft_eight positive atEnd⟩

end BitsLeft

end BitCursor

open BitCursor

/-! ### Fields -/

abbrev Field (α : Type) := StateT (List Bool) Option α

namespace Field

theorem bind_apply {α β : Type} (first : Field α) (next : α → Field β) (bits : List Bool) :
    (first >>= next) bits = (first bits).bind fun (value, rest) => next value rest := rfl

theorem map_apply {α β : Type} (function : α → β) (field : Field α) (bits : List Bool) :
    (function <$> field) bits =
      (field bits).map fun (value, rest) => (function value, rest) := by
  change (field bits).bind _ = _
  cases field bits <;> rfl

/-- `u(1)`, with a bit behind it. -/
def flag : Field Bool
  | bit :: next :: rest => some (bit, next :: rest)
  | _ => none

def code : Field (List Bool) := fun bits =>
  match ExpGolomb.split bits with
  | some (suffix, next :: rest) => some (suffix, next :: rest)
  | _ => none

def codeNum (suffix : List Bool) : Int :=
  i32 (truncateToInt (2 ^ suffix.length) + i32 (BitString.value suffix) - 1)

def unsigned : Field Int := codeNum <$> code

def signed : Field Int := (fun suffix => DShowCapture.signedCode (codeNum suffix)) <$> code

end Field

/-! ### What a reader does -/

section Readers

variable {α β γ δ : Type} {memory : Memory} {finish : Nat}

structure Gives (memory : Memory) (finish : Nat) (rest : List Bool)
    (computation : Logged ScanAccess (α × BitCursor)) : Prop where
  ready : computation.value.2.Ready finish
  left : computation.value.2.bitsLeft memory = rest
  safe : Safe (ScanAccess.Below finish) computation

/-- The reader runs out of data, or has none to begin with.  It notices by a read behind the
end, unless the size is still zero. -/
structure RunsOut (finish : Nat) (before : BitCursor)
    (computation : Logged ScanAccess (α × BitCursor)) : Prop where
  ended : computation.value.2.Ended finish
  safe : Safe (ScanAccess.Below (finish + 1)) computation
  noticed : 0 ≤ before.size →
    computation.value.2.size = 0 ∨ .read finish 1 ∈ computation.log

structure Reads (memory : Memory) (finish : Nat) (project : α → β)
    (reader : BitCursor → Logged ScanAccess (α × BitCursor)) (field : Field β) : Prop where
  present : ∀ {cursor value rest}, cursor.Ready finish →
    field (cursor.bitsLeft memory) = some (value, rest) →
      project (reader cursor).value.1 = value ∧ Gives memory finish rest (reader cursor)
  missing : ∀ {cursor}, cursor.Ready finish → field (cursor.bitsLeft memory) = none →
    RunsOut finish cursor (reader cursor)
  ended : ∀ {cursor}, cursor.Ended finish → RunsOut finish cursor (reader cursor)

theorem runsOut_of_size_eq {before : BitCursor}
    {computation : Logged ScanAccess (α × BitCursor)} (ended : computation.value.2.Ended finish)
    (size : computation.value.2.size = 0) (safe : Safe (ScanAccess.Below finish) computation) :
    RunsOut finish before computation :=
  { ended := ended
    safe := fun event member => (safe event member).mono (Nat.le_succ finish)
    noticed := fun _ => Or.inl size }

theorem runsOut_pure {cursor : BitCursor} (ended : cursor.Ended finish) (value : α) :
    RunsOut finish cursor (pure (value, cursor) : Logged ScanAccess (α × BitCursor)) :=
  { ended := ended
    safe := safe_pure _ _
    noticed := fun atEnd => Or.inl (Int.le_antisymm ended.runOut atEnd) }

theorem RunsOut.bind {before : BitCursor} {first : Logged ScanAccess (α × BitCursor)}
    {next : α × BitCursor → Logged ScanAccess (γ × BitCursor)}
    (firstOut : RunsOut finish before first)
    (nextOut : RunsOut finish first.value.2 (next first.value)) :
    RunsOut finish before (first >>= next) := by
  refine { ended := ?_, safe := ?_, noticed := ?_ }
  · rw [value_bind]
    exact nextOut.ended
  · rw [safe_bind]
    exact ⟨firstOut.safe, nextOut.safe⟩
  · intro atEnd
    rw [value_bind, log_bind, List.mem_append]
    rcases firstOut.noticed atEnd with sizeEq | noticed
    · exact (nextOut.noticed (Int.le_of_eq sizeEq.symm)).imp_right Or.inr
    · exact Or.inr (Or.inl noticed)

theorem RunsOut.afterEmit {before : BitCursor} {computation : Logged ScanAccess (α × BitCursor)}
    (runsOut : RunsOut finish before computation) {event : ScanAccess}
    (harmless : event.Below (finish + 1)) :
    RunsOut finish before (emit event >>= fun _ => computation) := by
  refine { ended := ?_, safe := ?_, noticed := ?_ }
  · rw [value_bind]
    exact runsOut.ended
  · rw [safe_bind, safe_emit]
    exact ⟨harmless, runsOut.safe⟩
  · intro atEnd
    rw [value_bind, log_bind, List.mem_append]
    exact (runsOut.noticed atEnd).imp_right Or.inr

theorem Gives.afterEmit {rest : List Bool} {computation : Logged ScanAccess (α × BitCursor)}
    (gives : Gives memory finish rest computation) {event : ScanAccess}
    (harmless : event.Below finish) :
    Gives memory finish rest (emit event >>= fun _ => computation) := by
  refine { ready := ?_, left := ?_, safe := ?_ }
  · rw [value_bind]
    exact gives.ready
  · rw [value_bind]
    exact gives.left
  · rw [safe_bind, safe_emit]
    exact ⟨harmless, gives.safe⟩

theorem Gives.bind {rest last : List Bool} {first : Logged ScanAccess (α × BitCursor)}
    {next : α × BitCursor → Logged ScanAccess (γ × BitCursor)}
    (firstGives : Gives memory finish rest first)
    (nextGives : Gives memory finish last (next first.value)) :
    Gives memory finish last (first >>= next) := by
  refine { ready := ?_, left := ?_, safe := ?_ }
  · rw [value_bind]
    exact nextGives.ready
  · rw [value_bind]
    exact nextGives.left
  · rw [safe_bind]
    exact ⟨firstGives.safe, nextGives.safe⟩

/-- Fields that were there before the data ran out. -/
theorem Gives.bind_runsOut {rest : List Bool} {before : BitCursor}
    {first : Logged ScanAccess (α × BitCursor)}
    {next : α × BitCursor → Logged ScanAccess (γ × BitCursor)}
    (firstGives : Gives memory finish rest first)
    (nextOut : RunsOut finish first.value.2 (next first.value)) :
    RunsOut finish before (first >>= next) := by
  refine { ended := ?_, safe := ?_, noticed := ?_ }
  · rw [value_bind]
    exact nextOut.ended
  · rw [safe_bind]
    exact ⟨fun event member => (firstGives.safe event member).mono (Nat.le_succ finish),
      nextOut.safe⟩
  · intro atEnd
    rw [value_bind, log_bind, List.mem_append]
    exact (nextOut.noticed (Int.le_of_lt firstGives.ready.positive)).imp_right Or.inr

theorem reads_pure (project : α → β) (value : α) :
    Reads memory finish project (fun cursor => pure (value, cursor)) (pure (project value)) :=
  { present := fun ready found => by
      cases found
      exact ⟨rfl, { ready := ready, left := rfl, safe := safe_pure _ _ }⟩
    missing := fun _ absent => absurd absent (Option.some_ne_none _)
    ended := fun ended => runsOut_pure ended value }

/-- A first field that is there, in front of others that are. -/
theorem Reads.present_bind {project : α → β}
    {reader : BitCursor → Logged ScanAccess (α × BitCursor)} {field : Field β}
    {nextField : β → Field δ} (first : Reads memory finish project reader field)
    {cursor : BitCursor} (ready : cursor.Ready finish) {found : δ × List Bool}
    (isThere : (field >>= nextField) (cursor.bitsLeft memory) = some found) :
    ∃ between, Gives memory finish between (reader cursor) ∧
      nextField (project (reader cursor).value.1) ((reader cursor).value.2.bitsLeft memory) =
        some found := by
  rw [Field.bind_apply, Option.bind_eq_some_iff] at isThere
  obtain ⟨⟨constant, between⟩, foundFirst, foundNext⟩ := isThere
  obtain ⟨projected, gives⟩ := first.present ready foundFirst
  rw [← gives.left, ← projected] at foundNext
  exact ⟨between, gives, foundNext⟩

theorem Reads.missing_bind {project : α → β}
    {reader : BitCursor → Logged ScanAccess (α × BitCursor)} {field : Field β}
    {nextField : β → Field δ} (first : Reads memory finish project reader field)
    {cursor : BitCursor} (ready : cursor.Ready finish)
    (absent : (field >>= nextField) (cursor.bitsLeft memory) = none) :
    RunsOut finish cursor (reader cursor) ∨
      ∃ between, Gives memory finish between (reader cursor) ∧
        nextField (project (reader cursor).value.1) ((reader cursor).value.2.bitsLeft memory) =
          none := by
  rw [Field.bind_apply] at absent
  cases foundFirst : field (cursor.bitsLeft memory) with
  | none =>
      left
      exact first.missing ready foundFirst
  | some found =>
      right
      rcases found with ⟨constant, between⟩
      obtain ⟨projected, gives⟩ := first.present ready foundFirst
      rw [foundFirst, Option.bind_some, ← gives.left, ← projected] at absent
      exact ⟨between, gives, absent⟩

theorem Reads.bind {project : α → β} {projectNext : γ → δ}
    {reader : BitCursor → Logged ScanAccess (α × BitCursor)} {field : Field β}
    {nextReader : α × BitCursor → Logged ScanAccess (γ × BitCursor)} {nextField : β → Field δ}
    (first : Reads memory finish project reader field)
    (next : ∀ value, Reads memory finish projectNext (fun cursor => nextReader (value, cursor))
      (nextField (project value))) :
    Reads memory finish projectNext (fun cursor => reader cursor >>= nextReader)
      (field >>= nextField) := by
  refine { present := ?_, missing := ?_, ended := ?_ }
  · intro cursor value rest ready found
    obtain ⟨between, gives, foundNext⟩ := first.present_bind ready found
    obtain ⟨projectedNext, givesNext⟩ := (next _).present gives.ready foundNext
    refine ⟨?_, gives.bind givesNext⟩
    rw [value_bind]
    exact projectedNext
  · intro cursor ready absent
    rcases first.missing_bind ready absent with runsOut | ⟨between, gives, absentNext⟩
    · exact runsOut.bind ((next _).ended runsOut.ended)
    · exact gives.bind_runsOut ((next _).missing gives.ready absentNext)
  · intro cursor ended
    have runsOut := first.ended ended
    exact runsOut.bind ((next _).ended runsOut.ended)

theorem Reads.congr {project : α → β}
    {reader reader' : BitCursor → Logged ScanAccess (α × BitCursor)} {field : Field β}
    (same : ∀ cursor, reader cursor = reader' cursor)
    (reads : Reads memory finish project reader' field) :
    Reads memory finish project reader field := by
  rw [funext same]
  exact reads

theorem Reads.afterPure {projectNext : γ → δ} {value : α}
    {nextReader : α × BitCursor → Logged ScanAccess (γ × BitCursor)} {field : Field δ}
    (reads : Reads memory finish projectNext (fun cursor => nextReader (value, cursor)) field) :
    Reads memory finish projectNext (fun cursor => pure (value, cursor) >>= nextReader) field :=
  Reads.congr (fun _ => rfl) reads

theorem ite_related {σ τ : Type} {related : σ → τ → Prop} {condition condition' : Prop}
    [Decidable condition] [Decidable condition'] (same : condition ↔ condition') {yes no : σ}
    {yesField noField : τ} (yesRelated : related yes yesField) (noRelated : related no noField) :
    related (if condition then yes else no) (if condition' then yesField else noField) := by
  by_cases holds : condition
  · rw [if_pos holds, if_pos (same.mp holds)]
    exact yesRelated
  · rw [if_neg holds, if_neg fun other => holds (same.mpr other)]
    exact noRelated

theorem Reads.ite {project : α → β} {condition condition' : Prop} [Decidable condition]
    [Decidable condition'] (same : condition ↔ condition')
    {yesReader noReader : BitCursor → Logged ScanAccess (α × BitCursor)}
    {yesField noField : Field β} (yes : Reads memory finish project yesReader yesField)
    (no : Reads memory finish project noReader noField) :
    Reads memory finish project
      (fun cursor => if condition then yesReader cursor else noReader cursor)
      (if condition' then yesField else noField) := by
  by_cases holds : condition
  · simpa only [if_pos holds, if_pos (same.mp holds)] using yes
  · simpa only [if_neg holds, if_neg (fun other => holds (same.mpr other))] using no

theorem Reads.afterEmit {project : α → β}
    {reader : BitCursor → Logged ScanAccess (α × BitCursor)} {field : Field β}
    (reads : Reads memory finish project reader field) {event : BitCursor → ScanAccess}
    (harmless : ∀ cursor bound, (event cursor).Below bound) :
    Reads memory finish project (fun cursor => emit (event cursor) >>= fun _ => reader cursor)
      field := by
  refine { present := ?_, missing := ?_, ended := ?_ }
  · intro cursor value rest ready found
    obtain ⟨projected, gives⟩ := reads.present ready found
    refine ⟨?_, gives.afterEmit (harmless _ _)⟩
    rw [value_bind]
    exact projected
  · intro cursor ready absent
    exact (reads.missing ready absent).afterEmit (harmless _ _)
  · intro cursor ended
    exact (reads.ended ended).afterEmit (harmless _ _)

end Readers

/-! ### Single bits -/

section SingleBits

variable {memory : Memory} {finish : Nat} {cursor : BitCursor}

theorem getBits1_of_nonneg (nonneg : ¬ cursor.size < 0) :
    (getBits1 memory cursor).log = [.read cursor.frameData 1] ∧
      (getBits1 memory cursor).value =
        if cursor.fromByteBits + 1 = 8 then
          if cursor.nextByte.size ≤ 0 then
            (0, { cursor.nextByte with fromByteBits := cursor.fromByteBits })
          else ((extractBit (memory cursor.frameData) cursor.fromByteBits : Int), cursor.nextByte)
        else
          ((extractBit (memory cursor.frameData) cursor.fromByteBits : Int),
            { cursor with fromByteBits := cursor.fromByteBits + 1 }) := by
  rw [getBits1, if_neg nonneg]
  constructor
  · rw [log_bind]
    dsimp only
    split
    · split <;> rfl
    · rfl
  · simp only [value_bind, value_ite, value_pure]

/-- At the end of the data, the byte behind it is looked at. -/
theorem runsOut_getBits1 (ended : cursor.Ended finish) :
    RunsOut finish cursor (getBits1 memory cursor) := by
  by_cases negative : cursor.size < 0
  · rw [getBits1, if_pos negative]
    exact runsOut_pure ended 0
  · have finishEq := ended.finish
    have runOut := ended.runOut
    have inByte := ended.inByte
    have atFinish : cursor.frameData = finish := by omega
    obtain ⟨logEq, valueEq⟩ := @getBits1_of_nonneg memory cursor negative
    rw [atFinish] at logEq
    refine { ended := ?_, safe := ?_, noticed := ?_ }
    · rw [valueEq]
      split
      · rw [if_pos (by simp only [nextByte]; omega)]
        exact ⟨by simp only [nextByte]; omega, by simp only [nextByte]; omega, inByte⟩
      · exact ⟨runOut, finishEq, by dsimp only; omega⟩
    · intro event member
      rw [logEq, List.mem_singleton] at member
      rw [member]
      exact Nat.le_refl (finish + 1)
    · intro _
      rw [logEq]
      exact Or.inr (List.mem_singleton.mpr rfl)

/-- Within the data, the bit is yielded when another one stands behind it. -/
theorem reads_getBits1 :
    Reads memory finish (fun value => decide (value ≠ 0)) (getBits1 memory) Field.flag := by
  have spec : ∀ cursor : BitCursor, cursor.Ready finish →
      Safe (ScanAccess.Below finish) (getBits1 memory cursor) ∧
        match Field.flag (cursor.bitsLeft memory) with
        | some (bit, rest) => (getBits1 memory cursor).value.1 = bit.toNat ∧
            (getBits1 memory cursor).value.2.Ready finish ∧
            (getBits1 memory cursor).value.2.bitsLeft memory = rest
        | none => (getBits1 memory cursor).value.2.Ended finish ∧
            (getBits1 memory cursor).value.2.size = 0 := by
    intro cursor ready
    have positive := ready.positive
    have inByte := ready.inByte
    obtain ⟨logEq, valueEq⟩ := @getBits1_of_nonneg memory cursor (by omega)
    constructor
    · intro event member
      rw [logEq, List.mem_singleton] at member
      rw [member]
      exact ready.toWithin.below
    · rw [bitsLeft_cons positive inByte, valueEq, extractBit_eq _ inByte]
      have within := ready.toWithin.withBits (cursor.fromByteBits + 1)
      by_cases last : cursor.fromByteBits + 1 = 8
      · rw [if_pos last]
        rcases @Within.next memory finish _ within last with
          ⟨runsOut, noBits, ended, sizeEq⟩ | ⟨goesOn, readyNext, sameBits⟩
        · have runsOut' : cursor.nextByte.size ≤ 0 := runsOut
          rw [if_pos runsOut', noBits]
          exact ⟨⟨ended.runOut, ended.finish, inByte⟩, sizeEq⟩
        · have goesOn' : ¬ cursor.nextByte.size ≤ 0 := goesOn
          have someLeft := @Ready.bitsLeft_ne_nil memory finish _ readyNext
          rw [← sameBits] at someLeft
          obtain ⟨next, rest, restEq⟩ := List.exists_cons_of_ne_nil someLeft
          rw [if_neg goesOn', restEq]
          exact ⟨rfl, readyNext, sameBits.symm.trans restEq⟩
      · have readyNext : Ready finish { cursor with fromByteBits := cursor.fromByteBits + 1 } :=
          { toWithin := within, inByte := by dsimp only; omega }
        obtain ⟨next, rest, restEq⟩ :=
          List.exists_cons_of_ne_nil (@Ready.bitsLeft_ne_nil memory finish _ readyNext)
        rw [if_neg last, restEq]
        exact ⟨rfl, readyNext, rfl⟩
  refine { present := ?_, missing := ?_, ended := runsOut_getBits1 }
  · intro cursor value rest ready found
    have specHere := spec cursor ready
    rw [found] at specHere
    rcases specHere with ⟨safe, valueEq, readyThere, left⟩
    refine ⟨?_, { ready := readyThere, left := left, safe := safe }⟩
    rw [valueEq]
    cases value <;> rfl
  · intro cursor ready absent
    have specHere := spec cursor ready
    rw [absent] at specHere
    rcases specHere with ⟨safe, ended, sizeEq⟩
    exact runsOut_of_size_eq ended sizeEq safe

end SingleBits

/-! ### Exp-Golomb codes -/

section Codes

variable {memory : Memory} {finish : Nat}

structure InCode (memory : Memory) (finish : Nat) (rest : List Bool) (cursor : BitCursor) :
    Prop extends Within finish cursor where
  inByte : cursor.fromByteBits ≤ 8
  left : cursor.bitsLeft memory = rest

structure AtFinish (finish : Nat) (cursor : BitCursor) : Prop where
  size : cursor.size = 0
  finish : (cursor.frameData : Int) + cursor.size = finish

theorem AtFinish.ended {cursor : BitCursor} (atFinish : AtFinish finish cursor) {bits : Nat}
    (inByte : bits < 8) : Ended finish { cursor with fromByteBits := bits } :=
  { runOut := Int.le_of_eq atFinish.size, finish := atFinish.finish, inByte := inByte }

def PrefixOutcome (memory : Memory) (finish golombBits : Nat) (bits : List Bool)
    (outcome : Option Nat × BitCursor) : Prop :=
  match ExpGolomb.leadingZeros bits with
  | some (zeros, behind) =>
      outcome.1 = some (golombBits + zeros) ∧ InCode memory finish behind outcome.2
  | none => outcome.1 = none ∧ AtFinish finish outcome.2

theorem PrefixOutcome.cons_false {golombBits : Nat} {bits : List Bool}
    {outcome : Option Nat × BitCursor}
    (later : PrefixOutcome memory finish (golombBits + 1) bits outcome) :
    PrefixOutcome memory finish golombBits (false :: bits) outcome := by
  rw [PrefixOutcome, ExpGolomb.leadingZeros]
  rw [PrefixOutcome] at later
  cases found : ExpGolomb.leadingZeros bits with
  | none =>
      rw [found] at later
      exact later
  | some pair =>
      rcases pair with ⟨zeros, behind⟩
      rw [found] at later
      refine ⟨?_, later.2⟩
      rw [later.1, Nat.add_assoc, Nat.add_comm 1]

theorem golombPrefix_spec {cursor : BitCursor} (ready : cursor.Ready finish) (golombBits : Nat) :
    Safe (ScanAccess.Below finish) (golombPrefix memory cursor golombBits) ∧
      PrefixOutcome memory finish golombBits (cursor.bitsLeft memory)
        (golombPrefix memory cursor golombBits).value := by
  induction cursor, golombBits using golombPrefix.induct with
  | case1 cursor golombBits behindByte inByte =>
      have below := ready.toWithin.below
      have within := ready.toWithin.withBits (cursor.fromByteBits + 1)
      rw [golombPrefix, safe_bind, safe_emit, value_bind, bitsLeft_cons ready.positive ready.inByte]
      simp only [bitMask_and_ne_zero _ ready.inByte]
      cases (memory cursor.frameData).toNat.testBit (7 - cursor.fromByteBits) with
      | true =>
          refine ⟨⟨below, safe_pure _ _⟩, rfl, ?_⟩
          exact { toWithin := within, inByte := ready.inByte, left := rfl }
      | false =>
          simp only [Bool.false_eq_true, if_false]
          by_cases last : 8 ≤ cursor.fromByteBits + 1
          · have full : cursor.fromByteBits + 1 = 8 := Nat.le_antisymm ready.inByte last
            rw [if_pos last]
            rcases @Within.next memory finish _ within full with
              ⟨runsOut, noBits, ended, sizeEq⟩ | ⟨goesOn, readyNext, sameBits⟩
            · have runsOut' : cursor.nextByte.size ≤ 0 := runsOut
              rw [if_pos runsOut', noBits]
              exact ⟨⟨below, safe_pure _ _⟩, rfl, sizeEq, ended.finish⟩
            · have goesOn' : ¬ cursor.nextByte.size ≤ 0 := goesOn
              obtain ⟨safe, outcome⟩ := behindByte goesOn' readyNext
              rw [if_neg goesOn', sameBits]
              exact ⟨⟨below, safe⟩, outcome.cons_false⟩
          · have readyNext : Ready finish { cursor with fromByteBits := cursor.fromByteBits + 1 } :=
              { toWithin := within, inByte := Nat.not_le.mp last }
            obtain ⟨safe, outcome⟩ := inByte last readyNext
            rw [if_neg last]
            exact ⟨⟨below, safe⟩, outcome.cons_false⟩

private theorem i32_mul_two_add (info : Int) (bit : Nat) :
    i32 (i32 info * 2 + bit) = i32 (info * 2 + bit) := by
  unfold i32
  omega

def SuffixOutcome (memory : Memory) (finish remaining : Nat) (info : Int) (bits : List Bool)
    (outcome : Option Int × BitCursor) : Prop :=
  if remaining ≤ bits.length then
    outcome.1 = some (i32 (info * 2 ^ remaining + BitString.value (bits.take remaining))) ∧
      InCode memory finish (bits.drop remaining) outcome.2
  else outcome.1 = none ∧ AtFinish finish outcome.2

theorem SuffixOutcome.cons {remaining : Nat} {info : Int} {bit : Bool} {bits : List Bool}
    {outcome : Option Int × BitCursor}
    (later : SuffixOutcome memory finish remaining (info * 2 + bit.toNat) bits outcome) :
    SuffixOutcome memory finish (remaining + 1) info (bit :: bits) outcome := by
  rw [SuffixOutcome] at later ⊢
  rw [List.length_cons]
  by_cases whole : remaining ≤ bits.length
  · rw [if_pos whole] at later
    rw [if_pos (Nat.succ_le_succ whole), List.take_succ_cons, List.drop_succ_cons,
      BitString.value, List.length_take, Nat.min_eq_left whole]
    refine ⟨?_, later.2⟩
    rw [later.1]
    push_cast
    rw [Int.add_mul, Int.mul_assoc, ← Int.pow_succ', Int.add_assoc]
  · rw [if_neg whole] at later
    rw [if_neg fun wholeThere => whole (Nat.le_of_succ_le_succ wholeThere)]
    exact later

theorem golombSuffix_spec {cursor : BitCursor} {bits : List Bool}
    (inCode : InCode memory finish bits cursor) (remaining : Nat) (info : Int) :
    Safe (ScanAccess.Below finish) (golombSuffix memory remaining cursor (i32 info)) ∧
      SuffixOutcome memory finish remaining info bits
        (golombSuffix memory remaining cursor (i32 info)).value := by
  induction remaining generalizing cursor info bits with
  | zero =>
      refine ⟨safe_pure _ _, ?_⟩
      rw [SuffixOutcome, if_pos (Nat.zero_le _)]
      refine ⟨?_, inCode⟩
      have same : info * 2 ^ 0 + (BitString.value (bits.take 0) : Nat) = info := by
        rw [Int.pow_zero, Int.mul_one]
        exact Int.add_zero info
      rw [same]
      rfl
  | succ remaining ih =>
      have step : ∀ next : BitCursor, next.Ready finish → next.bitsLeft memory = bits →
          Safe (ScanAccess.Below finish) (golombSuffix memory remaining
              { next with fromByteBits := next.fromByteBits + 1 }
              (i32 (i32 info * 2 + extractBit (memory next.frameData) next.fromByteBits))) ∧
            SuffixOutcome memory finish (remaining + 1) info bits
              (golombSuffix memory remaining
                { next with fromByteBits := next.fromByteBits + 1 }
                (i32 (i32 info * 2 +
                  extractBit (memory next.frameData) next.fromByteBits))).value := by
        intro next ready sameBits
        rw [bitsLeft_cons ready.positive ready.inByte] at sameBits
        rw [i32_mul_two_add, extractBit_eq _ ready.inByte, ← sameBits]
        have inCodeNext :
            InCode memory finish _ { next with fromByteBits := next.fromByteBits + 1 } :=
          { toWithin := ready.toWithin.withBits _, inByte := ready.inByte, left := rfl }
        obtain ⟨safe, outcome⟩ := ih inCodeNext
          (info * 2 + ((memory next.frameData).toNat.testBit (7 - next.fromByteBits)).toNat)
        exact ⟨safe, outcome.cons⟩
      have within := inCode.toWithin
      rw [golombSuffix]
      by_cases full : cursor.fromByteBits = 8
      · rcases Within.next within full with
          ⟨runsOut, noBits, ended, sizeEq⟩ | ⟨goesOn, readyNext, sameBits⟩
        · rw [if_pos full, if_pos ⟨full, runsOut⟩]
          refine ⟨safe_pure _ _, ?_⟩
          rw [inCode.left] at noBits
          rw [noBits, SuffixOutcome, List.length_nil, if_neg (Nat.not_succ_le_zero remaining)]
          exact ⟨rfl, sizeEq, ended.finish⟩
        · obtain ⟨safe, outcome⟩ := step cursor.nextByte readyNext (sameBits.symm.trans inCode.left)
          rw [if_pos full, if_neg fun both => goesOn both.2]
          simp only [safe_bind, safe_emit, value_bind]
          exact ⟨⟨readyNext.toWithin.below, trivial, safe⟩, outcome⟩
      · have ready : cursor.Ready finish :=
          { toWithin := within, inByte := Nat.lt_of_le_of_ne inCode.inByte full }
        obtain ⟨safe, outcome⟩ := step cursor ready inCode.left
        rw [if_neg full, if_neg fun both => full both.1]
        simp only [safe_bind, safe_emit, value_bind]
        exact ⟨⟨within.below, trivial, safe⟩, outcome⟩

def CodeOutcome (memory : Memory) (finish : Nat) (found : Option (List Bool × List Bool))
    (outcome : Option Int × BitCursor) : Prop :=
  match found with
  | some (suffix, rest) =>
      outcome.1 = some (Field.codeNum suffix) ∧ outcome.2.Ready finish ∧
        outcome.2.bitsLeft memory = rest
  | none => outcome.1 = none ∧ outcome.2.Ended finish ∧ outcome.2.size = 0

theorem golombCode_spec {cursor : BitCursor} (ready : cursor.Ready finish) :
    Safe (ScanAccess.Below finish) (golombCode memory cursor) ∧
      CodeOutcome memory finish (Field.code (cursor.bitsLeft memory))
        (golombCode memory cursor).value := by
  obtain ⟨safePrefix, prefixOutcome⟩ := @golombPrefix_spec memory finish cursor ready 0
  rw [golombCode, safe_bind, value_bind, Field.code, ExpGolomb.split]
  generalize golombPrefix memory cursor 0 = afterPrefix at safePrefix prefixOutcome ⊢
  rw [PrefixOutcome] at prefixOutcome
  generalize afterPrefix.value = outcome at prefixOutcome ⊢
  rcases outcome with ⟨golombBits, cursorThere⟩
  cases found : ExpGolomb.leadingZeros (cursor.bitsLeft memory) with
  | none =>
      rw [found] at prefixOutcome
      rcases prefixOutcome with ⟨noBits, atFinish⟩
      cases noBits
      exact ⟨⟨safePrefix, safe_pure _ _⟩, rfl, atFinish.ended ready.inByte, atFinish.size⟩
  | some pair =>
      rcases pair with ⟨zeros, behind⟩
      rw [found] at prefixOutcome
      rcases prefixOutcome with ⟨bitsEq, inCode⟩
      rw [Nat.zero_add] at bitsEq
      cases bitsEq
      obtain ⟨safeSuffix, suffixOutcome⟩ := golombSuffix_spec inCode zeros 0
      simp only [safe_bind, safe_emit, value_bind]
      have zeroEq : i32 0 = 0 := rfl
      rw [zeroEq] at safeSuffix suffixOutcome
      generalize golombSuffix memory zeros cursorThere 0 = afterSuffix
        at safeSuffix suffixOutcome ⊢
      rw [SuffixOutcome] at suffixOutcome
      generalize afterSuffix.value = outcome at suffixOutcome ⊢
      rcases outcome with ⟨golombInfo, cursorLast⟩
      by_cases whole : zeros ≤ behind.length
      · rw [if_pos whole] at suffixOutcome
        rcases suffixOutcome with ⟨infoEq, inCodeLast⟩
        cases infoEq
        have within := inCodeLast.toWithin
        have left := inCodeLast.left
        have numberEq : Field.codeNum (behind.take zeros) =
            i32 (truncateToInt (2 ^ zeros) +
              i32 (0 * 2 ^ zeros + (BitString.value (behind.take zeros) : Nat)) - 1) := by
          rw [Field.codeNum, List.length_take, Nat.min_eq_left whole, Int.zero_mul, Int.zero_add]
        simp only [safe_bind, safe_emit, value_bind, if_pos whole]
        by_cases full : cursorLast.fromByteBits = 8
        · rw [if_pos full]
          rcases Within.next within full with
            ⟨runsOut, noBits, ended, sizeEq⟩ | ⟨goesOn, readyNext, sameBits⟩
          · rw [if_pos runsOut, left.symm.trans noBits]
            exact ⟨⟨safePrefix, trivial, safeSuffix, trivial, safe_pure _ _⟩, rfl,
              ⟨runsOut, ended.finish, ready.inByte⟩, sizeEq⟩
          · have someLeft := @Ready.bitsLeft_ne_nil memory finish _ readyNext
            rw [← sameBits, left] at someLeft
            obtain ⟨next, rest, restEq⟩ := List.exists_cons_of_ne_nil someLeft
            rw [if_neg goesOn, restEq]
            refine ⟨⟨safePrefix, trivial, safeSuffix, trivial, safe_pure _ _⟩, ?_, readyNext, ?_⟩
            · rw [numberEq]
              rfl
            · exact (sameBits.symm.trans left).trans restEq
        · have readyLast : cursorLast.Ready finish :=
            { toWithin := within, inByte := Nat.lt_of_le_of_ne inCodeLast.inByte full }
          have someLeft := @Ready.bitsLeft_ne_nil memory finish _ readyLast
          rw [left] at someLeft
          obtain ⟨next, rest, restEq⟩ := List.exists_cons_of_ne_nil someLeft
          rw [if_neg full, restEq]
          refine ⟨⟨safePrefix, trivial, safeSuffix, trivial, safe_pure _ _⟩, ?_, readyLast, ?_⟩
          · rw [numberEq]
            rfl
          · exact left.trans restEq
      · rw [if_neg whole] at suffixOutcome
        rcases suffixOutcome with ⟨noInfo, atFinish⟩
        cases noInfo
        rw [if_neg whole]
        exact ⟨⟨safePrefix, trivial, safeSuffix, safe_pure _ _⟩, rfl,
          atFinish.ended ready.inByte, atFinish.size⟩

/-! ### Codes behind the data -/

structure InExtraByte (finish : Nat) (cursor : BitCursor) : Prop where
  size : cursor.size = 0
  frameData : cursor.frameData = finish
  inByte : cursor.fromByteBits ≤ 8

theorem InExtraByte.below {cursor : BitCursor} (inExtra : InExtraByte finish cursor) :
    (ScanAccess.read cursor.frameData 1).Below (finish + 1) :=
  Nat.succ_le_succ (Nat.le_of_eq inExtra.frameData)

theorem InExtraByte.nextByte_size {cursor : BitCursor} (inExtra : InExtraByte finish cursor) :
    cursor.nextByte.size ≤ 0 := by
  have sizeEq := inExtra.size
  simp only [nextByte]
  omega

theorem golombPrefix_inExtraByte {cursor : BitCursor} (inExtra : InExtraByte finish cursor)
    (bitLeft : cursor.fromByteBits < 8) (golombBits : Nat) :
    Safe (ScanAccess.Below (finish + 1)) (golombPrefix memory cursor golombBits) ∧
      .read finish 1 ∈ (golombPrefix memory cursor golombBits).log ∧
      ((golombPrefix memory cursor golombBits).value.1 ≠ none →
        InExtraByte finish (golombPrefix memory cursor golombBits).value.2) := by
  induction cursor, golombBits using golombPrefix.induct with
  | case1 cursor golombBits behindByte inByte =>
      have below := inExtra.below
      have noticed : ScanAccess.read finish 1 ∈ (emit (.read cursor.frameData 1)).log := by
        rw [inExtra.frameData]
        exact List.mem_singleton.mpr rfl
      have stays : InExtraByte finish { cursor with fromByteBits := cursor.fromByteBits + 1 } :=
        { size := inExtra.size, frameData := inExtra.frameData, inByte := bitLeft }
      rw [golombPrefix, safe_bind, safe_emit, value_bind, log_bind, List.mem_append]
      split
      · exact ⟨⟨below, safe_pure _ _⟩, Or.inl noticed, fun _ => stays⟩
      · split
        · rw [if_pos inExtra.nextByte_size]
          exact ⟨⟨below, safe_pure _ _⟩, Or.inl noticed, fun found => absurd rfl found⟩
        · rename_i notLast
          obtain ⟨safe, _, outcome⟩ := inByte notLast stays (Nat.not_le.mp notLast)
          exact ⟨⟨below, safe⟩, Or.inl noticed, outcome⟩

theorem golombSuffix_inExtraByte {cursor : BitCursor} (inExtra : InExtraByte finish cursor)
    (remaining : Nat) (info : Int) :
    Safe (ScanAccess.Below (finish + 1)) (golombSuffix memory remaining cursor info) ∧
      ((golombSuffix memory remaining cursor info).value.1 ≠ none →
        InExtraByte finish (golombSuffix memory remaining cursor info).value.2) := by
  induction remaining generalizing cursor info with
  | zero => exact ⟨safe_pure _ _, fun _ => inExtra⟩
  | succ remaining ih =>
      rw [golombSuffix]
      by_cases full : cursor.fromByteBits = 8
      · rw [if_pos full, if_pos ⟨full, inExtra.nextByte_size⟩]
        exact ⟨safe_pure _ _, fun found => absurd rfl found⟩
      · have stays : InExtraByte finish { cursor with fromByteBits := cursor.fromByteBits + 1 } :=
          { size := inExtra.size
            frameData := inExtra.frameData
            inByte := Nat.lt_of_le_of_ne inExtra.inByte full }
        obtain ⟨safe, outcome⟩ := ih stays
          (i32 (info * 2 + extractBit (memory cursor.frameData) cursor.fromByteBits))
        rw [if_neg full, if_neg fun both => full both.1]
        simp only [safe_bind, safe_emit, value_bind]
        exact ⟨⟨inExtra.below, trivial, safe⟩, outcome⟩

theorem golombCode_inExtraByte {cursor : BitCursor} (inExtra : InExtraByte finish cursor)
    (bitLeft : cursor.fromByteBits < 8) :
    Safe (ScanAccess.Below (finish + 1)) (golombCode memory cursor) ∧
      .read finish 1 ∈ (golombCode memory cursor).log ∧
      (golombCode memory cursor).value.2.fromByteBits < 8 := by
  obtain ⟨safePrefix, noticed, prefixOutcome⟩ :=
    @golombPrefix_inExtraByte memory finish cursor inExtra bitLeft 0
  rw [golombCode, safe_bind, value_bind, log_bind, List.mem_append]
  generalize golombPrefix memory cursor 0 = afterPrefix at safePrefix noticed prefixOutcome ⊢
  generalize afterPrefix.value = outcome at prefixOutcome ⊢
  rcases outcome with ⟨golombBits, cursorThere⟩
  cases golombBits with
  | none => exact ⟨⟨safePrefix, safe_pure _ _⟩, Or.inl noticed, bitLeft⟩
  | some golombBits =>
      have inExtraThere : InExtraByte finish cursorThere :=
        prefixOutcome (Option.some_ne_none golombBits)
      obtain ⟨safeSuffix, suffixOutcome⟩ :=
        @golombSuffix_inExtraByte memory finish cursorThere inExtraThere golombBits 0
      simp only [safe_bind, safe_emit, value_bind]
      generalize golombSuffix memory golombBits cursorThere 0 = afterSuffix
        at safeSuffix suffixOutcome ⊢
      generalize afterSuffix.value = outcome at suffixOutcome ⊢
      rcases outcome with ⟨golombInfo, cursorLast⟩
      cases golombInfo with
      | none =>
          exact ⟨⟨safePrefix, trivial, safeSuffix, safe_pure _ _⟩, Or.inl noticed, bitLeft⟩
      | some golombInfo =>
          have inExtraLast : InExtraByte finish cursorLast :=
            suffixOutcome (Option.some_ne_none golombInfo)
          simp only [safe_bind, safe_emit, value_bind]
          by_cases full : cursorLast.fromByteBits = 8
          · rw [if_pos full, if_pos inExtraLast.nextByte_size]
            exact ⟨⟨safePrefix, trivial, safeSuffix, trivial, safe_pure _ _⟩, Or.inl noticed,
              bitLeft⟩
          · rw [if_neg full]
            exact ⟨⟨safePrefix, trivial, safeSuffix, trivial, safe_pure _ _⟩, Or.inl noticed,
              Nat.lt_of_le_of_ne inExtraLast.inByte full⟩

/-! ### Code numbers -/

theorem golombCode_present {cursor : BitCursor} {suffix rest : List Bool}
    (ready : cursor.Ready finish)
    (found : Field.code (cursor.bitsLeft memory) = some (suffix, rest)) :
    (golombCode memory cursor).value.1 = some (Field.codeNum suffix) ∧
      Gives memory finish rest (golombCode memory cursor) := by
  obtain ⟨safe, outcome⟩ := @golombCode_spec memory finish cursor ready
  rw [found] at outcome
  exact ⟨outcome.1, { ready := outcome.2.1, left := outcome.2.2, safe := safe }⟩

theorem golombCode_missing {cursor : BitCursor} (ready : cursor.Ready finish)
    (absent : Field.code (cursor.bitsLeft memory) = none) :
    (golombCode memory cursor).value.1 = none ∧
      RunsOut finish cursor (golombCode memory cursor) := by
  obtain ⟨safe, outcome⟩ := @golombCode_spec memory finish cursor ready
  rw [absent] at outcome
  exact ⟨outcome.1, runsOut_of_size_eq outcome.2.1 outcome.2.2 safe⟩

theorem runsOut_golombCode {cursor : BitCursor} (ended : cursor.Ended finish)
    (nonneg : ¬ cursor.size < 0) : RunsOut finish cursor (golombCode memory cursor) := by
  have runOut := ended.runOut
  have finishEq := ended.finish
  have advances := advances_golombCode memory cursor
  have inExtra : InExtraByte finish cursor :=
    { size := by omega, frameData := by omega, inByte := Nat.le_of_lt ended.inByte }
  obtain ⟨safe, noticed, bitLeft⟩ :=
    @golombCode_inExtraByte memory finish cursor inExtra ended.inByte
  exact
    { ended := ⟨Int.le_trans advances.size runOut, advances.finish.trans finishEq, bitLeft⟩
      safe := safe
      noticed := fun _ => Or.inr noticed }

/-- A reader that makes a value of the code number. -/
theorem reads_of_golombCode {reader : BitCursor → Logged ScanAccess (Int × BitCursor)}
    (number : Int → Int) (finishing : Option Int × BitCursor → Logged ScanAccess (Int × BitCursor))
    (readyEq : ∀ {cursor : BitCursor}, cursor.Ready finish →
      reader cursor = golombCode memory cursor >>= finishing)
    (cursorEq : ∀ outcome, (finishing outcome).value.2 = outcome.2)
    (numberEq : ∀ codeNum cursor, (finishing (some codeNum, cursor)).value.1 = number codeNum)
    (harmless : ∀ outcome bound, Safe (ScanAccess.Below bound) (finishing outcome))
    (ended : ∀ {cursor : BitCursor}, cursor.Ended finish → RunsOut finish cursor (reader cursor)) :
    Reads memory finish id reader
      ((fun suffix => number (Field.codeNum suffix)) <$> Field.code) := by
  refine { present := ?_, missing := ?_, ended := ended }
  · intro cursor value rest ready found
    rw [Field.map_apply, Option.map_eq_some_iff] at found
    rcases found with ⟨⟨suffix, behind⟩, foundCode, sameEq⟩
    cases sameEq
    obtain ⟨codeEq, gives⟩ := golombCode_present ready foundCode
    have finished : Gives memory finish rest (finishing (golombCode memory cursor).value) :=
      { ready := by rw [cursorEq]; exact gives.ready
        left := by rw [cursorEq]; exact gives.left
        safe := harmless _ _ }
    rw [readyEq ready]
    refine ⟨?_, gives.bind finished⟩
    rw [value_bind]
    generalize (golombCode memory cursor).value = outcome at codeEq ⊢
    rcases outcome with ⟨codeNum, there⟩
    cases codeEq
    exact numberEq _ _
  · intro cursor ready absent
    rw [Field.map_apply, Option.map_eq_none_iff] at absent
    have runsOut := (golombCode_missing ready absent).2
    rw [readyEq ready]
    apply runsOut.bind
    refine { ended := ?_, safe := harmless _ _, noticed := ?_ }
    · rw [cursorEq]
      exact runsOut.ended
    · intro atEnd
      rw [cursorEq]
      exact Or.inl (Int.le_antisymm runsOut.ended.runOut atEnd)

theorem getUeGolomb_of_ended {cursor : BitCursor} (ended : cursor.Ended finish) :
    getUeGolomb memory cursor = pure (0, cursor) := by
  rw [getUeGolomb, if_pos ended.runOut]

theorem reads_getUeGolomb :
    Reads memory finish id (getUeGolomb memory) Field.unsigned := by
  refine reads_of_golombCode (fun codeNum => codeNum)
    (fun outcome => pure (outcome.1.getD 0, outcome.2)) ?_ (fun _ => rfl) (fun _ _ => rfl)
    (fun _ _ => safe_pure _ _) ?_
  · intro cursor ready
    have notOut : ¬ cursor.size ≤ 0 := Int.not_le.mpr ready.positive
    unfold getUeGolomb
    rw [if_neg notOut]
  · intro cursor ended
    rw [getUeGolomb_of_ended ended]
    exact runsOut_pure ended 0

private def finishSigned :
    Option Int × BitCursor → Logged ScanAccess (Int × BitCursor)
  | (none, cursor) => pure (0, cursor)
  | (some codeNum, cursor) => do
      emit (.arithmetic (codeNum + 1))
      pure (signedCode codeNum, cursor)

private theorem getSeGolomb_of_nonneg {cursor : BitCursor} (nonneg : ¬ cursor.size < 0) :
    getSeGolomb memory cursor = golombCode memory cursor >>= finishSigned := by
  unfold getSeGolomb
  rw [if_neg nonneg]
  refine congrArg (golombCode memory cursor >>= ·) (funext ?_)
  rintro ⟨codeNum, there⟩
  cases codeNum <;> rfl

theorem reads_getSeGolomb :
    Reads memory finish id (getSeGolomb memory) Field.signed := by
  have cursorEq : ∀ outcome, (finishSigned outcome).value.2 = outcome.2 := by
    rintro ⟨codeNum, cursor⟩
    cases codeNum <;> rfl
  have harmless : ∀ outcome bound, Safe (ScanAccess.Below bound) (finishSigned outcome) := by
    rintro ⟨codeNum, cursor⟩ bound
    cases codeNum with
    | none => exact safe_pure _ _
    | some codeNum =>
        simp only [finishSigned, safe_bind, safe_emit]
        exact ⟨trivial, safe_pure _ _⟩
  refine reads_of_golombCode signedCode finishSigned ?_ cursorEq (fun _ _ => rfl) harmless ?_
  · intro cursor ready
    exact getSeGolomb_of_nonneg (Int.not_lt.mpr (Int.le_of_lt ready.positive))
  · intro cursor ended
    by_cases negative : cursor.size < 0
    · rw [getSeGolomb, if_pos negative]
      exact runsOut_pure ended 0
    · have runsOut := @runsOut_golombCode memory finish cursor ended negative
      rw [getSeGolomb_of_nonneg negative]
      apply runsOut.bind
      refine { ended := ?_, safe := harmless _ _, noticed := ?_ }
      · rw [cursorEq]
        exact runsOut.ended
      · intro atEnd
        rw [cursorEq]
        exact Or.inl (Int.le_antisymm runsOut.ended.runOut atEnd)

end Codes

end DShowCapture
