/-
The loop over the reference frames of the picture order count cycle.

The parser takes the number of rounds from the parameter set as it is.  The array of the
offsets has 256 entries, and the readers give zeros where the data has run out.
-/
import DShowCapture.KeyFrame.SpsFields

namespace DShowCapture

open ByteMemory hiding ofBytes
open BitString hiding value
open FixedWidth Logged BitCursor

/-! ### What a round does -/

/-- The entries of `offset_for_ref_frame` that are written, in order. -/
def offsetWrites {α : Type} (computation : Logged ScanAccess α) : List Nat :=
  computation.log.filterMap fun event =>
    match event with
    | .offsetForRefFrame index => some index
    | _ => none

def ScanAccess.Quiet : ScanAccess → Prop
  | .refFrameRound _ => False
  | .offsetForRefFrame _ => False
  | .read _ _ => True
  | .arithmetic _ => True

def ScanAccess.InArray : ScanAccess → Prop
  | .offsetForRefFrame index => index < offsetEntries
  | .refFrameRound _ => True
  | .read _ _ => True
  | .arithmetic _ => True

/-- A round of the loop has data left when it begins. -/
def ScanAccess.RoundInData : ScanAccess → Prop
  | .refFrameRound size => 0 < size
  | .offsetForRefFrame _ => True
  | .read _ _ => True
  | .arithmetic _ => True

theorem ScanAccess.IsRead.quiet {event : ScanAccess} (isRead : event.IsRead) : event.Quiet := by
  cases event with
  | read start count => trivial
  | refFrameRound size => exact isRead.elim
  | offsetForRefFrame index => exact isRead.elim
  | arithmetic value => trivial

theorem ScanAccess.Quiet.roundInData {event : ScanAccess} (quiet : event.Quiet) :
    event.RoundInData := by
  cases event with
  | read start count => trivial
  | refFrameRound size => exact quiet.elim
  | offsetForRefFrame index => exact quiet.elim
  | arithmetic value => trivial

section OffsetWrites

variable {α β : Type}

theorem offsetWrites_bind (first : Logged ScanAccess α) (next : α → Logged ScanAccess β) :
    offsetWrites (first >>= next) = offsetWrites first ++ offsetWrites (next first.value) := by
  rw [offsetWrites, log_bind, List.filterMap_append]
  rfl

theorem offsetWrites_of_quiet {computation : Logged ScanAccess α}
    (quiet : Safe ScanAccess.Quiet computation) : offsetWrites computation = [] := by
  rw [offsetWrites, List.filterMap_eq_nil_iff]
  intro event member
  have isQuiet := quiet event member
  cases event with
  | read start count => rfl
  | arithmetic value => rfl
  | refFrameRound size => rfl
  | offsetForRefFrame index => exact isQuiet.elim

theorem safe_inArray_iff (computation : Logged ScanAccess α) :
    Safe ScanAccess.InArray computation ↔
      ∀ index, index ∈ offsetWrites computation → index < offsetEntries := by
  constructor
  · intro safe index member
    obtain ⟨event, isEvent, isWrite⟩ := List.mem_filterMap.mp member
    have inArray := safe event isEvent
    cases event with
    | offsetForRefFrame index' =>
        cases isWrite
        exact inArray
    | read start count => cases isWrite
    | arithmetic value => cases isWrite
    | refFrameRound size => cases isWrite
  · intro inArray event member
    cases event with
    | offsetForRefFrame index =>
        exact inArray index (List.mem_filterMap.mpr ⟨.offsetForRefFrame index, member, rfl⟩)
    | read start count => trivial
    | arithmetic value => trivial
    | refFrameRound size => trivial

theorem safe_roundInData_of_quiet {computation : Logged ScanAccess α}
    (quiet : Safe ScanAccess.Quiet computation) : Safe ScanAccess.RoundInData computation :=
  fun event member => (quiet event member).roundInData

end OffsetWrites

/-! ### The readers write nothing -/

section Quiet

variable {memory : Memory}

theorem quiet_getBits1 (cursor : BitCursor) :
    Safe ScanAccess.Quiet (getBits1 memory cursor) := by
  simp only [getBits1, safe_ite, safe_bind, safe_emit, safe_pure, implies_true, and_true, true_and]
  exact fun _ => trivial

theorem quiet_golombPrefix (cursor : BitCursor) (golombBits : Nat) :
    Safe ScanAccess.Quiet (golombPrefix memory cursor golombBits) :=
  fun event member => (isRead_golombPrefix cursor golombBits event member).quiet

theorem quiet_golombSuffix (remaining : Nat) (cursor : BitCursor) (golombInfo : Int) :
    Safe ScanAccess.Quiet (golombSuffix memory remaining cursor golombInfo) := by
  induction remaining generalizing cursor golombInfo with
  | zero => exact safe_pure _ _
  | succ remaining ih =>
      rw [golombSuffix]
      simp only [safe_ite, safe_bind, safe_emit, safe_pure, implies_true, true_and]
      exact fun _ => ⟨trivial, trivial, ih _ _⟩

theorem quiet_golombCode (cursor : BitCursor) :
    Safe ScanAccess.Quiet (golombCode memory cursor) := by
  rw [golombCode, safe_bind]
  refine ⟨quiet_golombPrefix cursor 0, ?_⟩
  generalize (golombPrefix memory cursor 0).value = outcome
  rcases outcome with ⟨golombBits, afterPrefix⟩
  cases golombBits with
  | none => exact safe_pure _ _
  | some golombBits =>
      simp only [safe_bind, safe_emit]
      refine ⟨trivial, quiet_golombSuffix golombBits afterPrefix 0, ?_⟩
      generalize (golombSuffix memory golombBits afterPrefix 0).value = outcome
      rcases outcome with ⟨golombInfo, afterSuffix⟩
      cases golombInfo with
      | none => exact safe_pure _ _
      | some golombInfo =>
          simp only [safe_ite, safe_bind, safe_emit, safe_pure, implies_true, and_true]
          trivial

theorem quiet_getUeGolomb (cursor : BitCursor) :
    Safe ScanAccess.Quiet (getUeGolomb memory cursor) := by
  simp only [getUeGolomb, safe_ite, safe_bind, safe_pure, implies_true, and_true, true_and]
  exact fun _ => quiet_golombCode cursor

theorem quiet_getSeGolomb (cursor : BitCursor) :
    Safe ScanAccess.Quiet (getSeGolomb memory cursor) := by
  simp only [getSeGolomb, safe_ite, safe_bind, safe_pure, implies_true, true_and]
  refine fun _ => ⟨quiet_golombCode cursor, ?_⟩
  generalize (golombCode memory cursor).value = outcome
  rcases outcome with ⟨codeNum, afterCode⟩
  cases codeNum with
  | none => exact safe_pure _ _
  | some codeNum =>
      simp only [safe_bind, safe_emit, safe_pure, and_true]
      trivial

theorem quiet_decodeScalingFlags (remaining : Nat) (sps : SPS) (cursor : BitCursor) :
    Safe ScanAccess.Quiet (decodeScalingFlags memory remaining sps cursor) := by
  induction remaining generalizing sps cursor with
  | zero => exact safe_pure _ _
  | succ remaining ih =>
      rw [decodeScalingFlags, safe_bind]
      exact ⟨quiet_getBits1 cursor, ih _ _⟩

theorem quiet_decodeHighProfile (sps : SPS) (cursor : BitCursor) :
    Safe ScanAccess.Quiet (decodeHighProfile memory sps cursor) := by
  simp only [decodeHighProfile, safe_bind, safe_ite, safe_pure, quiet_getUeGolomb, quiet_getBits1,
    quiet_decodeScalingFlags, implies_true, true_and]

theorem quiet_decodeCropping (sps : SPS) (cursor : BitCursor) :
    Safe ScanAccess.Quiet (decodeCropping memory sps cursor) := by
  simp only [decodeCropping, safe_bind, safe_pure, quiet_getUeGolomb, true_and]

end Quiet

/-! ### The loop -/

/-- The loop writes one entry after the other, whatever the data is. -/
theorem offsetWrites_decodeRefFrameOffsets (memory : Memory) (remaining i : Nat) (sps : SPS)
    (cursor : BitCursor) :
    offsetWrites (decodeRefFrameOffsets memory remaining i sps cursor) =
      List.range' i remaining := by
  induction remaining generalizing i sps cursor with
  | zero => rfl
  | succ remaining ih =>
      have round : offsetWrites (emit (.refFrameRound cursor.size)) = [] := rfl
      rw [decodeRefFrameOffsets, offsetWrites_bind, round, List.nil_append, offsetWrites_bind,
        offsetWrites_of_quiet (quiet_getSeGolomb cursor), List.nil_append, offsetWrites_bind, ih,
        List.range'_succ]
      rfl

theorem safe_roundInData_succ (memory : Memory) (remaining i : Nat) (sps : SPS)
    (cursor : BitCursor) :
    ∃ later, Safe ScanAccess.RoundInData
        (decodeRefFrameOffsets memory (remaining + 1) i sps cursor) ↔
      0 < cursor.size ∧ Safe ScanAccess.RoundInData
        (decodeRefFrameOffsets memory remaining (i + 1) later
          (getSeGolomb memory cursor).value.2) := by
  let stored := ((getSeGolomb memory cursor).value.1 + 32768) % 65536 - 32768
  refine ⟨sps.writeOffset i stored, ?_⟩
  rw [decodeRefFrameOffsets, safe_bind, safe_emit, safe_bind]
  constructor
  · rintro ⟨inData, _, written⟩
    rw [safe_bind] at written
    exact ⟨inData, written.2⟩
  · rintro ⟨inData, later⟩
    refine ⟨inData, safe_roundInData_of_quiet (quiet_getSeGolomb cursor), ?_⟩
    rw [safe_bind, safe_emit]
    exact ⟨trivial, later⟩

theorem Field.length_of_signed {bits rest : List Bool} {value : Int}
    (found : Field.signed bits = some (value, rest)) : rest.length < bits.length := by
  rw [signed, map_apply, Option.map_eq_some_iff] at found
  obtain ⟨⟨suffix, behind⟩, foundCode, same⟩ := found
  rw [← (Prod.mk.inj same).2]
  rw [code] at foundCode
  split at foundCode
  · rename_i isSplit
    cases foundCode
    exact ExpGolomb.length_of_split isSplit
  · cases foundCode

section Rounds

variable {memory : Memory} {finish : Nat}

/-- Every round has data left when all codes but the last are there. -/
theorem safe_roundInData_iff {cursor : BitCursor} (ready : cursor.Ready finish)
    (remaining i : Nat) (sps : SPS) :
    Safe ScanAccess.RoundInData (decodeRefFrameOffsets memory remaining i sps cursor) ↔
      (Field.repeated (remaining - 1) Field.signed (cursor.bitsLeft memory)).isSome = true := by
  induction remaining generalizing i sps cursor with
  | zero => exact iff_of_true (safe_pure _ _) rfl
  | succ remaining ih =>
      obtain ⟨later, roundIff⟩ := safe_roundInData_succ memory remaining i sps cursor
      rw [roundIff, and_iff_right ready.positive, Nat.add_sub_cancel]
      cases remaining with
      | zero => exact iff_of_true (safe_pure _ _) rfl
      | succ remaining =>
          rw [Field.repeated, Field.bind_apply]
          cases found : Field.signed (cursor.bitsLeft memory) with
          | none =>
              have ended := (reads_getSeGolomb.missing ready found).ended
              obtain ⟨_, nextIff⟩ := safe_roundInData_succ memory remaining (i + 1) later
                (getSeGolomb memory cursor).value.2
              rw [nextIff]
              exact iff_of_false (fun both => absurd both.1 (Int.not_lt.mpr ended.runOut))
                Bool.false_ne_true
          | some pair =>
              obtain ⟨_, gives⟩ := reads_getSeGolomb.present ready found
              rw [ih gives.ready, gives.left]
              rfl

/-- Every round that has data left takes up a bit of it. -/
theorem rounds_le_of_roundInData {cursor : BitCursor} (ready : cursor.Ready finish)
    {remaining i : Nat} {sps : SPS}
    (inData : Safe ScanAccess.RoundInData
      (decodeRefFrameOffsets memory remaining i sps cursor)) :
    remaining ≤ (cursor.bitsLeft memory).length := by
  induction remaining generalizing i sps cursor with
  | zero => exact Nat.zero_le _
  | succ remaining ih =>
      obtain ⟨later, roundIff⟩ := safe_roundInData_succ memory remaining i sps cursor
      have behind := (roundIff.mp inData).2
      cases remaining with
      | zero => exact List.length_pos_iff.mpr ready.bitsLeft_ne_nil
      | succ remaining =>
          cases found : Field.signed (cursor.bitsLeft memory) with
          | none =>
              have ended := (reads_getSeGolomb.missing ready found).ended
              obtain ⟨_, nextIff⟩ := safe_roundInData_succ memory remaining (i + 1) later
                (getSeGolomb memory cursor).value.2
              exact absurd (nextIff.mp behind).1 (Int.not_lt.mpr ended.runOut)
          | some pair =>
              obtain ⟨_, gives⟩ := reads_getSeGolomb.present ready found
              have shorter := Field.length_of_signed found
              have few := ih gives.ready behind
              rw [gives.left] at few
              omega

end Rounds

namespace Field

def cycle (high : Bool) : Field Int := do
  let _ ← unsigned
  let _ ← if high = true then highProfile else pure ()
  let _ ← unsigned
  let picOrderCntType ← unsigned
  if picOrderCntType = 1 then cycleThen pure else fun _ => none

def rounds (high : Bool) (bits : List Bool) : Nat :=
  match cycle high bits with
  | some (cycle, _) => cycle.toNat
  | none => 0

def bitsBehindCycle (high : Bool) (bits : List Bool) : Nat :=
  match cycle high bits with
  | some (_, rest) => rest.length
  | none => 0

end Field

structure RunsRounds {α : Type} (computation : Logged ScanAccess α) (rounds : Nat)
    (bits : List Bool) : Prop where
  writes : offsetWrites computation = List.range rounds
  inData : Safe ScanAccess.RoundInData computation ↔
    (Field.repeated (rounds - 1) Field.signed bits).isSome = true
  few : Safe ScanAccess.RoundInData computation → rounds ≤ bits.length

structure WritesCycle {α : Type} (memory : Memory) (finish : Nat) (cursor : BitCursor)
    (computation : Logged ScanAccess α) (field : Field Int) : Prop where
  present : cursor.Ready finish → ∀ cycle rest,
    field (cursor.bitsLeft memory) = some (cycle, rest) →
      RunsRounds computation cycle.toNat rest
  missing : cursor.Ready finish → field (cursor.bitsLeft memory) = none →
    Safe ScanAccess.Quiet computation
  dead : cursor.Dead → Safe ScanAccess.Quiet computation

structure QuietReads {α β : Type} (memory : Memory) (finish : Nat) (project : α → β)
    (reader : BitCursor → Logged ScanAccess (α × BitCursor)) (field : Field β) : Prop
    extends Reads memory finish project reader field where
  quiet : ∀ cursor, Safe ScanAccess.Quiet (reader cursor)
  advances : ∀ cursor, Advances cursor (reader cursor).value.2

section QuietReads

variable {memory : Memory} {finish : Nat}

private theorem agree_self : AgreeBelow 0 memory memory := fun _ _ => rfl

theorem quietReads_getUeGolomb :
    QuietReads memory finish id (getUeGolomb memory) Field.unsigned :=
  { toReads := reads_getUeGolomb
    quiet := quiet_getUeGolomb
    advances := (confined_getUeGolomb agree_self).leftAdvances }

theorem quietReads_getSeGolomb :
    QuietReads memory finish id (getSeGolomb memory) Field.signed :=
  { toReads := reads_getSeGolomb
    quiet := quiet_getSeGolomb
    advances := (confined_getSeGolomb agree_self).leftAdvances }

theorem quietReads_decodeHighProfile (sps : SPS) :
    QuietReads memory finish (fun _ => ()) (decodeHighProfile memory sps) Field.highProfile :=
  { toReads := reads_decodeHighProfile sps
    quiet := quiet_decodeHighProfile sps
    advances := (confined_decodeHighProfile agree_self sps).leftAdvances }

end QuietReads

section WritesCycle

variable {α β γ : Type} {memory : Memory} {finish : Nat}

theorem RunsRounds.afterQuiet {first : Logged ScanAccess α} {next : α → Logged ScanAccess γ}
    {rounds : Nat} {bits : List Bool} (quiet : Safe ScanAccess.Quiet first)
    (runs : RunsRounds (next first.value) rounds bits) :
    RunsRounds (first >>= next) rounds bits := by
  have inDataIff : Safe ScanAccess.RoundInData (first >>= next) ↔
      Safe ScanAccess.RoundInData (next first.value) := by
    rw [safe_bind]
    exact and_iff_right (safe_roundInData_of_quiet quiet)
  refine { writes := ?_, inData := ?_, few := ?_ }
  · rw [offsetWrites_bind, offsetWrites_of_quiet quiet, List.nil_append]
    exact runs.writes
  · rw [inDataIff]
    exact runs.inData
  · rw [inDataIff]
    exact runs.few

theorem RunsRounds.thenQuiet {computation : Logged ScanAccess α}
    {next : α → Logged ScanAccess γ} {rounds : Nat} {bits : List Bool}
    (runs : RunsRounds computation rounds bits)
    (quiet : ∀ value, Safe ScanAccess.Quiet (next value)) :
    RunsRounds (computation >>= next) rounds bits := by
  have inDataIff : Safe ScanAccess.RoundInData (computation >>= next) ↔
      Safe ScanAccess.RoundInData computation := by
    rw [safe_bind]
    exact and_iff_left (safe_roundInData_of_quiet (quiet _))
  refine { writes := ?_, inData := ?_, few := ?_ }
  · rw [offsetWrites_bind, offsetWrites_of_quiet (quiet _), List.append_nil]
    exact runs.writes
  · rw [inDataIff]
    exact runs.inData
  · rw [inDataIff]
    exact runs.few

theorem QuietReads.thenWritesCycle {project : α → β}
    {reader : BitCursor → Logged ScanAccess (α × BitCursor)} {field : Field β}
    {nextReader : α × BitCursor → Logged ScanAccess γ} {nextField : β → Field Int}
    (first : QuietReads memory finish project reader field)
    (next : ∀ value cursor,
      WritesCycle memory finish cursor (nextReader (value, cursor)) (nextField (project value)))
    (cursor : BitCursor) :
    WritesCycle memory finish cursor (reader cursor >>= nextReader) (field >>= nextField) := by
  have quiet := first.quiet cursor
  refine { present := ?_, missing := ?_, dead := ?_ }
  · intro ready cycle rest found
    obtain ⟨between, gives, foundNext⟩ := first.present_bind ready found
    exact ((next _ _).present gives.ready cycle rest foundNext).afterQuiet quiet
  · intro ready absent
    rw [safe_bind]
    refine ⟨quiet, ?_⟩
    rcases first.missing_bind ready absent with runsOut | ⟨between, gives, absentNext⟩
    · exact (next _ _).dead runsOut.ended.runOut
    · exact (next _ _).missing gives.ready absentNext
  · intro dead
    rw [safe_bind]
    exact ⟨quiet, (next _ _).dead (dead.later (first.advances cursor))⟩

theorem WritesCycle.afterQuiet {cursor : BitCursor} {first : Logged ScanAccess α}
    {next : α → Logged ScanAccess γ} {field : Field Int} (quiet : Safe ScanAccess.Quiet first)
    (writes : WritesCycle memory finish cursor (next first.value) field) :
    WritesCycle memory finish cursor (first >>= next) field := by
  refine { present := ?_, missing := ?_, dead := ?_ }
  · intro ready cycle rest found
    exact (writes.present ready cycle rest found).afterQuiet quiet
  · intro ready absent
    rw [safe_bind]
    exact ⟨quiet, writes.missing ready absent⟩
  · intro dead
    rw [safe_bind]
    exact ⟨quiet, writes.dead dead⟩

theorem WritesCycle.afterPure {value : α} {cursor : BitCursor}
    {nextReader : α × BitCursor → Logged ScanAccess γ} {field : Field Int}
    (writes : WritesCycle memory finish cursor (nextReader (value, cursor)) field) :
    WritesCycle memory finish cursor (pure (value, cursor) >>= nextReader) field := writes

theorem WritesCycle.ite {condition condition' : Prop} [Decidable condition] [Decidable condition']
    (same : condition ↔ condition') {cursor : BitCursor} {yes no : Logged ScanAccess γ}
    {yesField noField : Field Int} (yesWrites : WritesCycle memory finish cursor yes yesField)
    (noWrites : WritesCycle memory finish cursor no noField) :
    WritesCycle memory finish cursor (if condition then yes else no)
      (if condition' then yesField else noField) := ite_related same yesWrites noWrites

theorem WritesCycle.thenQuiet {cursor : BitCursor} {computation : Logged ScanAccess α}
    {next : α → Logged ScanAccess γ} {field : Field Int}
    (writes : WritesCycle memory finish cursor computation field)
    (quiet : ∀ value, Safe ScanAccess.Quiet (next value)) :
    WritesCycle memory finish cursor (computation >>= next) field := by
  refine { present := ?_, missing := ?_, dead := ?_ }
  · intro ready cycle rest found
    exact (writes.present ready cycle rest found).thenQuiet quiet
  · intro ready absent
    rw [safe_bind]
    exact ⟨writes.missing ready absent, quiet _⟩
  · intro dead
    rw [safe_bind]
    exact ⟨writes.dead dead, quiet _⟩

theorem writesCycle_of_quiet {cursor : BitCursor} {computation : Logged ScanAccess γ}
    (quiet : Safe ScanAccess.Quiet computation) :
    WritesCycle memory finish cursor computation fun _ => none :=
  { present := fun _ _ _ found => nomatch found
    missing := fun _ _ => quiet
    dead := fun _ => quiet }

theorem getUeGolomb_of_missing {cursor : BitCursor} (ready : cursor.Ready finish)
    (absent : Field.unsigned (cursor.bitsLeft memory) = none) :
    (getUeGolomb memory cursor).value.1 = 0 := by
  rw [Field.unsigned, Field.map_apply, Option.map_eq_none_iff] at absent
  have noCode := (golombCode_missing ready absent).1
  rw [getUeGolomb, if_neg (Int.not_le.mpr ready.positive), value_bind, value_pure, noCode]
  rfl

theorem writesCycle_loop (withCycle : Int × BitCursor → SPS) (cursor : BitCursor) :
    WritesCycle memory finish cursor
      (getUeGolomb memory cursor >>= fun outcome =>
        decodeRefFrameOffsets memory outcome.1.toNat 0 (withCycle outcome) outcome.2)
      (Field.unsigned >>= pure) := by
  rw [bind_pure]
  have quiet := @quiet_getUeGolomb memory cursor
  have noRounds : ∀ outcome : Int × BitCursor, outcome.1 = 0 → Safe ScanAccess.Quiet
      (decodeRefFrameOffsets memory outcome.1.toNat 0 (withCycle outcome) outcome.2) := by
    intro outcome isZero
    rw [isZero]
    exact safe_pure _ _
  refine { present := ?_, missing := ?_, dead := ?_ }
  · intro ready cycle rest found
    obtain ⟨cycleEq, gives⟩ := reads_getUeGolomb.present ready found
    rw [← cycleEq, ← gives.left]
    refine RunsRounds.afterQuiet quiet { writes := ?_, inData := ?_, few := ?_ }
    · rw [List.range_eq_range']
      exact offsetWrites_decodeRefFrameOffsets _ _ _ _ _
    · exact safe_roundInData_iff gives.ready _ _ _
    · exact rounds_le_of_roundInData gives.ready
  · intro ready absent
    rw [safe_bind]
    exact ⟨quiet, noRounds _ (getUeGolomb_of_missing ready absent)⟩
  · intro dead
    rw [safe_bind]
    refine ⟨quiet, noRounds _ ?_⟩
    rw [getUeGolomb_of_dead memory dead]

theorem writesCycle_decodePicOrderCnt (sps : SPS) (cursor : BitCursor) :
    WritesCycle memory finish cursor (decodePicOrderCnt memory sps cursor)
      (Field.unsigned >>= fun picOrderCntType =>
        if picOrderCntType = 1 then Field.cycleThen pure else fun _ => none) := by
  rw [decodePicOrderCnt]
  refine quietReads_getUeGolomb.thenWritesCycle (fun picOrderCntType cursor => ?_) _
  by_cases display : picOrderCntType = 0
  · have notOne : ¬ id picOrderCntType = 1 := by
      rw [id, display]
      decide
    dsimp only
    rw [if_pos display, if_neg notOne]
    apply writesCycle_of_quiet
    rw [safe_bind]
    exact ⟨quiet_getUeGolomb cursor, safe_pure _ _⟩
  · dsimp only
    rw [if_neg display]
    refine WritesCycle.ite Iff.rfl ?_ (writesCycle_of_quiet (safe_pure _ _))
    refine quietReads_getUeGolomb.thenWritesCycle (fun alwaysZero cursor => ?_) _
    refine quietReads_getSeGolomb.thenWritesCycle (fun nonRef cursor => ?_) _
    refine quietReads_getSeGolomb.thenWritesCycle (fun topToBottom cursor => ?_) _
    exact writesCycle_loop _ cursor

theorem writesCycle_h264DecodeSPS (frameData : Nat) (size : Int) (sps : SPS) :
    WritesCycle memory finish
      { frameData := frameData + 3, size := size - 3, fromByteBits := 0 }
      (h264DecodeSPS memory frameData size sps)
      (Field.cycle (readsHighProfile (memory frameData))) := by
  have profile : Safe ScanAccess.Quiet (emit (.read frameData 3)) := (safe_emit _ _).mpr trivial
  rw [h264DecodeSPS]
  apply WritesCycle.afterQuiet profile
  refine quietReads_getUeGolomb.thenWritesCycle (fun seqParameterSetId cursor => ?_) _
  refine WritesCycle.ite decide_eq_true_iff.symm
    ((quietReads_decodeHighProfile _).thenWritesCycle (fun spsThere cursor => ?_) _)
    (WritesCycle.afterPure ?_)
  all_goals
    refine quietReads_getUeGolomb.thenWritesCycle (fun log2MaxFrameNum cursor => ?_) _
    refine (writesCycle_decodePicOrderCnt _ _).thenQuiet fun outcome => ?_
    simp only [safe_bind, safe_ite, safe_pure, quiet_getUeGolomb, quiet_getBits1,
      quiet_decodeCropping, implies_true, and_self]

end WritesCycle

section ParameterSet

variable (memory : Memory) (frameData : Nat) (size : Int) (sps : SPS)

/-- The parser runs as many rounds as the parameter set asks for, and none where it does not. -/
theorem rounds_h264DecodeSPS :
    let field := Field.cycle (readsHighProfile (memory frameData))
      (ofBytes (read memory (frameData + 3) (size - 3).toNat))
    (∀ cycle rest, field = some (cycle, rest) →
        RunsRounds (h264DecodeSPS memory frameData size sps) cycle.toNat rest) ∧
      (field = none → Safe ScanAccess.Quiet (h264DecodeSPS memory frameData size sps)) := by
  intro field
  by_cases positive : 0 < size - 3
  · obtain ⟨finish, finishEq⟩ :=
      Int.eq_ofNat_of_zero_le (by omega : 0 ≤ ((frameData + 3 : Nat) : Int) + (size - 3))
    have writes := @writesCycle_h264DecodeSPS memory finish frameData size sps
    have ready : Ready finish
        { frameData := frameData + 3, size := size - 3, fromByteBits := 0 } :=
      { positive := positive, finish := finishEq, inByte := Nat.zero_lt_succ 7 }
    exact ⟨writes.present ready, writes.missing ready⟩
  · have writes := @writesCycle_h264DecodeSPS memory 0 frameData size sps
    have noBytes : (size - 3).toNat = 0 := by omega
    have absent : field = none := by
      change Field.cycle _ (ofBytes (read memory (frameData + 3) (size - 3).toNat)) = none
      rw [noBytes, read_zero, ofBytes_nil]
      rfl
    refine ⟨fun cycle rest found => ?_, fun _ => writes.dead (Int.not_lt.mp positive)⟩
    rw [absent] at found
    cases found

theorem offsetWrites_h264DecodeSPS :
    offsetWrites (h264DecodeSPS memory frameData size sps) =
      List.range (Field.rounds (readsHighProfile (memory frameData))
        (ofBytes (read memory (frameData + 3) (size - 3).toNat))) := by
  obtain ⟨present, missing⟩ := rounds_h264DecodeSPS memory frameData size sps
  rw [Field.rounds]
  split
  · rename_i cycle rest found
    exact (present cycle rest found).writes
  · rename_i absent
    exact offsetWrites_of_quiet (missing absent)

/-- The writes stay inside the array when the parameter set asks for no more entries. -/
theorem safe_inArray_h264DecodeSPS_iff :
    Safe ScanAccess.InArray (h264DecodeSPS memory frameData size sps) ↔
      Field.rounds (readsHighProfile (memory frameData))
        (ofBytes (read memory (frameData + 3) (size - 3).toNat)) ≤ offsetEntries := by
  rw [safe_inArray_iff, offsetWrites_h264DecodeSPS]
  generalize Field.rounds _ _ = rounds
  constructor
  · intro inArray
    by_contra tooMany
    exact absurd (inArray offsetEntries (List.mem_range.mpr (Nat.not_le.mp tooMany)))
      (Nat.lt_irrefl offsetEntries)
  · intro few index member
    exact Nat.lt_of_lt_of_le (List.mem_range.mp member) few

end ParameterSet

/-- The writes stay inside the array, every round begins with data left, and there are no more
rounds than bits, exactly when the number of reference frames, where there is one, is at most
256 and all offsets but the last are codes with a bit behind them. -/
theorem refFrameLoop_bounded_iff (memory : Memory) (frameData : Nat) (size : Int) (sps : SPS) :
    let high := readsHighProfile (memory frameData)
    let bits := ofBytes (read memory (frameData + 3) (size - 3).toNat)
    let parse := h264DecodeSPS memory frameData size sps
    (Safe ScanAccess.InArray parse ∧ Safe ScanAccess.RoundInData parse ∧
        (offsetWrites parse).length ≤ Field.bitsBehindCycle high bits) ↔
      ∀ cycle rest, Field.cycle high bits = some (cycle, rest) →
        cycle ≤ 256 ∧ (Field.repeated (cycle.toNat - 1) Field.signed rest).isSome = true := by
  intro high bits parse
  obtain ⟨present, missing⟩ := rounds_h264DecodeSPS memory frameData size sps
  have inArrayIff : Safe ScanAccess.InArray parse ↔ Field.rounds high bits ≤ offsetEntries :=
    safe_inArray_h264DecodeSPS_iff memory frameData size sps
  rw [inArrayIff, Field.rounds, Field.bitsBehindCycle]
  cases found : Field.cycle high bits with
  | none =>
      have quiet := missing found
      rw [offsetWrites_of_quiet quiet]
      exact iff_of_true ⟨Nat.zero_le _, safe_roundInData_of_quiet quiet, Nat.le_refl 0⟩
        fun cycle rest impossible => absurd impossible.symm (Option.some_ne_none _)
  | some pair =>
      rcases pair with ⟨cycle, rest⟩
      have runs := present cycle rest found
      dsimp only
      rw [runs.inData, runs.writes, List.length_range]
      constructor
      · rintro ⟨few, inData, _⟩ cycle' rest' same
        cases same
        unfold offsetEntries at few
        exact ⟨by omega, inData⟩
      · intro bounded
        obtain ⟨few, inData⟩ := bounded cycle rest rfl
        refine ⟨?_, inData, runs.few (runs.inData.mpr inData)⟩
        unfold offsetEntries
        omega

/-- Seven bytes that ask for 511 reference frames, with five bits behind the number. -/
theorem not_refFrameLoop_bounded_hostile :
    let bytes : List UInt8 := [0x42, 0, 0x1e, 0xd7, 0, 0x40, 0x10]
    let bits := ofBytes (bytes.drop 3)
    let parse := h264DecodeSPS (ByteMemory.ofBytes bytes) 0 7 default
    Field.bitsBehindCycle (readsHighProfile 0x42) bits = 5 ∧
      ¬ Safe ScanAccess.InArray parse ∧ ¬ Safe ScanAccess.RoundInData parse ∧
      ¬ (offsetWrites parse).length ≤ Field.bitsBehindCycle (readsHighProfile 0x42) bits := by
  intro bytes bits parse
  have behind : Field.cycle (readsHighProfile 0x42) bits =
      some (511, [true, false, false, false, false]) := by decide +kernel
  have bitsEq : ofBytes (read (ByteMemory.ofBytes bytes) (0 + 3) ((7 : Int) - 3).toNat) = bits :=
    rfl
  have runs : RunsRounds parse 511 [true, false, false, false, false] := by
    apply (rounds_h264DecodeSPS (ByteMemory.ofBytes bytes) 0 7 default).1 511 _
    rw [bitsEq]
    exact behind
  rw [Field.bitsBehindCycle, behind, safe_inArray_iff, runs.inData, runs.writes]
  refine ⟨rfl, fun inArray => ?_, by decide +kernel, ?_⟩
  · exact absurd (inArray 256 (List.mem_range.mpr (by decide))) (Nat.lt_irrefl 256)
  · rw [List.length_range]
    decide

end DShowCapture
