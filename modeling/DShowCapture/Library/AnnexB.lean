/-
The byte-stream format of H.264 Annex B.

A NAL unit starts behind the three bytes `00 00 01` and ends where three bytes
`00 00 00` or `00 00 01` begin, or with the stream.  Cutting a stream that was
written with start codes gives back the NAL units that were written.
-/
import Mathlib.Algebra.GroupWithZero.Nat
import Mathlib.Data.List.Infix

namespace AnnexB

/-- A NAL unit starts behind the first three bytes. -/
def BeginsUnit (bytes : List UInt8) : Prop := bytes.take 3 = [0, 0, 1]

/-- A NAL unit that reaches this point ends here. -/
def EndsUnit (bytes : List UInt8) : Prop :=
  bytes.take 3 = [0, 0, 0] ∨ bytes.take 3 = [0, 0, 1]

instance (bytes : List UInt8) : Decidable (BeginsUnit bytes) :=
  inferInstanceAs (Decidable (_ = _))

instance (bytes : List UInt8) : Decidable (EndsUnit bytes) :=
  inferInstanceAs (Decidable (_ ∨ _))

/-- The bytes behind the first start code. -/
def afterStartCode : List UInt8 → Option (List UInt8)
  | [] => none
  | byte :: rest =>
      if BeginsUnit (byte :: rest) then some (rest.drop 2) else afterStartCode rest

/-- The bytes up to the end of the NAL unit that starts here. -/
def unitPrefix : List UInt8 → List UInt8
  | [] => []
  | byte :: rest => if EndsUnit (byte :: rest) then [] else byte :: unitPrefix rest

/-- The bytes from the end of the NAL unit that starts here. -/
def unitSuffix : List UInt8 → List UInt8
  | [] => []
  | byte :: rest => if EndsUnit (byte :: rest) then byte :: rest else unitSuffix rest

theorem afterStartCode_length {bytes rest : List UInt8}
    (found : afterStartCode bytes = some rest) : rest.length < bytes.length := by
  induction bytes with
  | nil => cases found
  | cons byte tail ih =>
      simp only [afterStartCode] at found
      split at found
      · cases found
        simp only [List.length_drop, List.length_cons]
        omega
      · have shorter := ih found
        simp only [List.length_cons]
        omega

theorem unitPrefix_append_unitSuffix (bytes : List UInt8) :
    unitPrefix bytes ++ unitSuffix bytes = bytes := by
  induction bytes with
  | nil => rfl
  | cons byte rest ih =>
      simp only [unitPrefix, unitSuffix]
      split
      · rfl
      · rw [List.cons_append, ih]

theorem unitSuffix_length_le (bytes : List UInt8) :
    (unitSuffix bytes).length ≤ bytes.length := by
  have lengths := congrArg List.length (unitPrefix_append_unitSuffix bytes)
  rw [List.length_append] at lengths
  omega

/-- The NAL units of a byte stream. -/
def units (bytes : List UInt8) : List (List UInt8) :=
  match _found : afterStartCode bytes with
  | none => []
  | some rest => unitPrefix rest :: units (unitSuffix rest)
termination_by bytes.length
decreasing_by
  have shorter := afterStartCode_length _found
  have suffixShorter := unitSuffix_length_le rest
  omega

theorem units_of_none {bytes : List UInt8} (absent : afterStartCode bytes = none) :
    units bytes = [] := by
  rw [units]
  split
  · rfl
  · rename_i found
    rw [absent] at found
    cases found

theorem units_of_some {bytes rest : List UInt8}
    (found : afterStartCode bytes = some rest) :
    units bytes = unitPrefix rest :: units (unitSuffix rest) := by
  rw [units]
  split
  · rename_i absent
    rw [absent] at found
    cases found
  · rename_i other foundOther
    rw [found] at foundOther
    cases foundOther
    rfl

theorem units_eq_nil_iff (bytes : List UInt8) :
    units bytes = [] ↔ afterStartCode bytes = none := by
  cases found : afterStartCode bytes with
  | none => exact ⟨fun _ => rfl, fun _ => units_of_none found⟩
  | some rest => simp [units_of_some found]

theorem length_flatten_units_le (bytes : List UInt8) :
    (units bytes).flatten.length ≤ bytes.length := by
  induction measure : bytes.length using Nat.strongRecOn generalizing bytes with
  | ind count ih =>
      cases found : afterStartCode bytes with
      | none =>
          rw [units_of_none found]
          exact Nat.zero_le count
      | some rest =>
          have shorter := afterStartCode_length found
          have parts := congrArg List.length (unitPrefix_append_unitSuffix rest)
          rw [List.length_append] at parts
          have later := ih (unitSuffix rest).length (by omega) (unitSuffix rest) rfl
          rw [units_of_some found, List.flatten_cons, List.length_append]
          omega

theorem afterStartCode_isSome_iff (bytes : List UInt8) :
    (afterStartCode bytes).isSome ↔ [0, 0, 1] <:+: bytes := by
  induction bytes with
  | nil => simp [afterStartCode]
  | cons byte rest ih =>
      rw [List.infix_cons_iff, List.prefix_iff_eq_take, afterStartCode]
      by_cases here : BeginsUnit (byte :: rest)
      · rw [if_pos here]
        exact ⟨fun _ => Or.inl here.symm, fun _ => rfl⟩
      · rw [if_neg here, ih]
        constructor
        · exact Or.inr
        · rintro (prefixed | later)
          · exact absurd prefixed.symm here
          · exact later

/-- The conditions under which a NAL unit survives the byte-stream format: no start code
or zero sequence inside, and no zero byte at the end. -/
structure Writable (nal : List UInt8) : Prop where
  nonempty : nal ≠ []
  noZeros : ¬ [0, 0, 0] <:+: nal
  noStartCode : ¬ [0, 0, 1] <:+: nal
  lastNonzero : nal.getLast? ≠ some 0

instance (nal : List UInt8) : Decidable (Writable nal) :=
  decidable_of_iff
    (nal ≠ [] ∧ ¬ [0, 0, 0] <:+: nal ∧ ¬ [0, 0, 1] <:+: nal ∧ nal.getLast? ≠ some 0)
    ⟨fun parts => ⟨parts.1, parts.2.1, parts.2.2.1, parts.2.2.2⟩,
      fun writable =>
        ⟨writable.nonempty, writable.noZeros, writable.noStartCode, writable.lastNonzero⟩⟩

theorem writable_of_noZero {nal : List UInt8} (nonempty : nal ≠ []) (noZero : 0 ∉ nal) :
    Writable nal :=
  { nonempty := nonempty
    noZeros := fun inside => noZero (inside.subset List.mem_cons_self)
    noStartCode := fun inside => noZero (inside.subset List.mem_cons_self)
    lastNonzero := fun last => noZero (List.mem_of_getLast? last) }

/-- A start code with the given number of zero bytes before `00 00 01`. -/
def startCode (zeros : Nat) : List UInt8 := List.replicate zeros 0 ++ [0, 0, 1]

/-- The stream of NAL units, each behind a start code of its own length. -/
def write (parts : List (Nat × List UInt8)) : List UInt8 :=
  parts.flatMap fun part => startCode part.1 ++ part.2

@[simp] theorem write_nil : write [] = [] := rfl

theorem write_cons (part : Nat × List UInt8) (rest : List (Nat × List UInt8)) :
    write (part :: rest) = startCode part.1 ++ (part.2 ++ write rest) := by
  simp [write]

theorem write_append (first second : List (Nat × List UInt8)) :
    write (first ++ second) = write first ++ write second := by
  simp only [write, List.flatMap_append]

theorem startCode_succ (zeros : Nat) :
    startCode (zeros + 1) = List.replicate zeros 0 ++ [0, 0, 0, 1] := by
  rw [startCode, List.replicate_succ', List.append_assoc]
  rfl

private theorem startCode_succ_take (zeros : Nat) (rest : List UInt8) :
    (startCode (zeros + 1) ++ rest).take 3 = [0, 0, 0] := by
  cases zeros with
  | zero => rfl
  | succ zeros =>
      cases zeros with
      | zero => rfl
      | succ zeros => simp [startCode, List.replicate_succ]

theorem afterStartCode_startCode (zeros : Nat) (rest : List UInt8) :
    afterStartCode (startCode zeros ++ rest) = some rest := by
  induction zeros with
  | zero => rfl
  | succ zeros ih =>
      have shape : startCode (zeros + 1) ++ rest = 0 :: (startCode zeros ++ rest) := by
        simp [startCode, List.replicate_succ]
      have notHere : ¬ BeginsUnit (startCode (zeros + 1) ++ rest) := by
        rw [BeginsUnit, startCode_succ_take]
        decide
      rw [shape] at notHere
      rw [shape, afterStartCode, if_neg notHere, ih]

theorem endsUnit_write {parts : List (Nat × List UInt8)} (someLeft : parts ≠ []) :
    EndsUnit (write parts) := by
  cases parts with
  | nil => exact absurd rfl someLeft
  | cons part rest =>
      rw [write_cons]
      cases part with
      | mk zeros nal =>
          cases zeros with
          | zero => exact Or.inr rfl
          | succ zeros => exact Or.inl (startCode_succ_take zeros _)

/-- No position inside a writable NAL unit ends it, whatever follows. -/
private theorem not_endsUnit_of_suffix {nal suffix : List UInt8} (writable : Writable nal)
    (isSuffix : suffix <:+ nal) (nonempty : suffix ≠ []) (following : List UInt8) :
    ¬ EndsUnit (suffix ++ following) := by
  have lastEq : suffix.getLast? = nal.getLast? := by
    rcases isSuffix with ⟨front, rfl⟩
    rw [List.getLast?_append_of_ne_nil front nonempty]
  have lastNonzero : suffix.getLast? ≠ some 0 := by
    rw [lastEq]
    exact writable.lastNonzero
  match suffix, nonempty with
  | [first], _ =>
      have firstNonzero : first ≠ 0 := by simpa using lastNonzero
      simp [EndsUnit, firstNonzero]
  | [first, second], _ =>
      have secondNonzero : second ≠ 0 := by simpa using lastNonzero
      simp [EndsUnit, secondNonzero]
  | first :: second :: third :: rest, _ =>
      have inside : [first, second, third] <:+: nal := by
        refine List.IsInfix.trans ?_ isSuffix.isInfix
        exact (List.prefix_append [first, second, third] rest).isInfix
      rintro (zeros | startCode)
      · apply writable.noZeros
        have headEq : [first, second, third] = [0, 0, 0] := by simpa using zeros
        rwa [headEq] at inside
      · apply writable.noStartCode
        have headEq : [first, second, third] = [0, 0, 1] := by simpa using startCode
        rwa [headEq] at inside

private theorem unit_of_nil {following : List UInt8}
    (ends : following = [] ∨ EndsUnit following) :
    unitPrefix following = [] ∧ unitSuffix following = following := by
  cases following with
  | nil => exact ⟨rfl, rfl⟩
  | cons byte rest =>
      have endsHere : EndsUnit (byte :: rest) := ends.resolve_left (List.cons_ne_nil byte rest)
      simp only [unitPrefix, unitSuffix, if_pos endsHere, and_self]

private theorem unit_of_suffix {nal suffix : List UInt8} (writable : Writable nal)
    (isSuffix : suffix <:+ nal) (following : List UInt8) :
    unitPrefix (suffix ++ following) = suffix ++ unitPrefix following ∧
      unitSuffix (suffix ++ following) = unitSuffix following := by
  induction suffix with
  | nil => exact ⟨rfl, rfl⟩
  | cons byte rest ih =>
      have notHere := not_endsUnit_of_suffix writable isSuffix
        (List.cons_ne_nil byte rest) following
      have later := ih ((List.suffix_cons byte rest).trans isSuffix)
      rw [List.cons_append] at notHere ⊢
      simp only [unitPrefix, unitSuffix, if_neg notHere, later.1, later.2, List.cons_append,
        and_self]

/-- A writable NAL unit is not cut, whatever follows it. -/
theorem unitPrefix_append {nal : List UInt8} (writable : Writable nal) (following : List UInt8) :
    unitPrefix (nal ++ following) = nal ++ unitPrefix following :=
  (unit_of_suffix writable (List.suffix_refl nal) following).1

/-- Cutting a written stream gives the NAL units that were written, also those without a
byte. -/
theorem units_write_of_quiet (parts : List (Nat × List UInt8))
    (quiet : ∀ part, part ∈ parts → part.2 = [] ∨ Writable part.2) :
    units (write parts) = parts.map Prod.snd := by
  induction parts with
  | nil =>
      rw [write_nil, units_of_none rfl]
      rfl
  | cons part rest ih =>
      have ends : write rest = [] ∨ EndsUnit (write rest) := by
        by_cases finished : rest = []
        · left
          rw [finished, write_nil]
        · exact Or.inr (endsUnit_write finished)
      have cut : unitPrefix (part.2 ++ write rest) = part.2 ∧
          unitSuffix (part.2 ++ write rest) = write rest := by
        rcases quiet part List.mem_cons_self with isEmpty | writable
        · rw [isEmpty]
          exact unit_of_nil ends
        · have uncut := unit_of_suffix writable (List.suffix_refl part.2) (write rest)
          have behind := unit_of_nil ends
          rw [uncut.1, uncut.2, behind.1, behind.2, List.append_nil]
          exact ⟨rfl, rfl⟩
      have found := afterStartCode_startCode part.1 (part.2 ++ write rest)
      rw [write_cons, units_of_some found, cut.1, cut.2,
        ih (fun later member => quiet later (List.mem_cons_of_mem part member)),
        List.map_cons]

theorem units_write (parts : List (Nat × List UInt8))
    (writable : ∀ part, part ∈ parts → Writable part.2) :
    units (write parts) = parts.map Prod.snd :=
  units_write_of_quiet parts fun part member => Or.inr (writable part member)

example : units (write [(1, [0x67, 0x42]), (0, [0x68])]) = [[0x67, 0x42], [0x68]] :=
  units_write _ (by decide)

/-! ### Positions -/

def startCodes (bytes : List UInt8) : List Nat :=
  (List.range bytes.length).filter fun position => BeginsUnit (bytes.drop position)

structure IsUnit (bytes : List UInt8) (start stop : Nat) : Prop where
  ordered : start ≤ stop
  inside : stop ≤ bytes.length
  ends : stop = bytes.length ∨ EndsUnit (bytes.drop stop)
  goesOn : ∀ position, start ≤ position → position < stop → ¬ EndsUnit (bytes.drop position)

theorem startCodes_cons (byte : UInt8) (rest : List UInt8) :
    startCodes (byte :: rest) =
      (if BeginsUnit (byte :: rest) then [0] else []) ++ (startCodes rest).map (· + 1) := by
  have later : ((List.range rest.length).map Nat.succ).filter
        (fun position => decide (BeginsUnit ((byte :: rest).drop position))) =
      (startCodes rest).map (· + 1) := by
    rw [List.filter_map]
    rfl
  rw [startCodes, List.length_cons, List.range_succ_eq_map, List.filter_cons, later]
  by_cases here : BeginsUnit (byte :: rest) <;> simp [here]

theorem startCodes_of_none {bytes : List UInt8} (absent : afterStartCode bytes = none) :
    startCodes bytes = [] := by
  induction bytes with
  | nil => rfl
  | cons byte rest ih =>
      rw [afterStartCode] at absent
      by_cases here : BeginsUnit (byte :: rest)
      · rw [if_pos here] at absent
        cases absent
      · rw [if_neg here] at absent
        rw [startCodes_cons, if_neg here, ih absent]
        rfl

theorem startCodes_of_some {bytes rest : List UInt8} (found : afterStartCode bytes = some rest) :
    rest.length + 3 ≤ bytes.length ∧
      startCodes bytes =
        (bytes.length - rest.length - 3) ::
          (startCodes rest).map (· + (bytes.length - rest.length)) := by
  induction bytes with
  | nil => cases found
  | cons byte tail ih =>
      rw [afterStartCode] at found
      by_cases here : BeginsUnit (byte :: tail)
      · match tail, here with
        | second :: third :: tail, here =>
            rw [if_pos here] at found
            cases found
            have bytesEq : byte = 0 ∧ second = 0 ∧ third = 1 := by
              simpa [BeginsUnit] using here
            rcases bytesEq with ⟨rfl, rfl, rfl⟩
            have notSecond : ¬ BeginsUnit (0 :: 1 :: tail) := by simp [BeginsUnit]
            have notThird : ¬ BeginsUnit (1 :: tail) := by simp [BeginsUnit]
            have lengthEq : (0 :: 0 :: 1 :: tail).length - tail.length = 3 := by
              simp only [List.length_cons]
              omega
            rw [startCodes_cons, if_pos here, startCodes_cons, if_neg notSecond, startCodes_cons,
              if_neg notThird, List.drop_succ_cons, List.drop_succ_cons, List.drop_zero, lengthEq]
            refine ⟨Nat.le_refl _, ?_⟩
            simp only [List.nil_append, List.map_map]
            rfl
      · rw [if_neg here] at found
        obtain ⟨shorter, later⟩ := ih found
        rw [startCodes_cons, if_neg here, later, List.length_cons]
        refine ⟨by omega, ?_⟩
        rw [List.nil_append, List.map_cons, List.map_map]
        congr 1
        · omega
        · apply List.map_congr_left
          intro position _
          simp only [Function.comp_apply]
          omega

/-- No start code begins before the end of a NAL unit. -/
theorem startCodes_unitSuffix (bytes : List UInt8) :
    startCodes bytes = (startCodes (unitSuffix bytes)).map (· + (unitPrefix bytes).length) := by
  induction bytes with
  | nil => rfl
  | cons byte rest ih =>
      rw [unitPrefix, unitSuffix]
      by_cases here : EndsUnit (byte :: rest)
      · simp [here]
      · have notHere : ¬ BeginsUnit (byte :: rest) := fun begins => here (Or.inr begins)
        rw [if_neg here, if_neg here, startCodes_cons, if_neg notHere, ih, List.nil_append,
          List.map_map]
        apply List.map_congr_left
        intro position _
        simp only [Function.comp_apply, List.length_cons]
        omega

/-- A start code at the very end is one of the positions. -/
theorem suffix_iff_startCodes (bytes : List UInt8) :
    [0, 0, 1] <:+ bytes ↔
      ∃ position, position ∈ startCodes bytes ∧ position + 3 = bytes.length := by
  constructor
  · rintro ⟨front, rfl⟩
    have lengthEq : (front ++ [0, 0, 1]).length = front.length + 3 := List.length_append
    refine ⟨front.length, ?_, lengthEq.symm⟩
    rw [startCodes, List.mem_filter, List.mem_range, List.drop_left]
    exact ⟨by omega, rfl⟩
  · rintro ⟨position, member, atEnd⟩
    have begins := of_decide_eq_true (List.mem_filter.mp member).2
    have short : (bytes.drop position).length ≤ 3 := by
      rw [List.length_drop]
      omega
    rw [BeginsUnit, List.take_of_length_le short] at begins
    rw [← begins]
    exact List.drop_suffix position bytes

/-- Behind the first start code, it is this one or one behind the first unit. -/
theorem suffix_of_afterStartCode {bytes rest : List UInt8}
    (found : afterStartCode bytes = some rest) :
    [0, 0, 1] <:+ bytes ↔ rest = [] ∨ [0, 0, 1] <:+ unitSuffix rest := by
  obtain ⟨long, positions⟩ := startCodes_of_some found
  have parts := congrArg List.length (unitPrefix_append_unitSuffix rest)
  rw [List.length_append] at parts
  rw [suffix_iff_startCodes, suffix_iff_startCodes, positions, startCodes_unitSuffix rest,
    List.map_map]
  constructor
  · rintro ⟨position, member, atEnd⟩
    rcases List.mem_cons.mp member with isFirst | isLater
    · exact Or.inl (List.eq_nil_of_length_eq_zero (by omega))
    · obtain ⟨later, laterMember, rfl⟩ := List.mem_map.mp isLater
      rw [Function.comp_apply] at atEnd
      exact Or.inr ⟨later, laterMember, by omega⟩
  · rintro (isEmpty | ⟨later, member, atEnd⟩)
    · refine ⟨_, List.mem_cons_self, ?_⟩
      rw [isEmpty, List.length_nil] at long ⊢
      omega
    · refine ⟨_, List.mem_cons_of_mem _ (List.mem_map_of_mem member), ?_⟩
      rw [Function.comp_apply]
      omega

theorem IsUnit.of_drop {bytes : List UInt8} {skipped start stop : Nat}
    (skippable : skipped ≤ bytes.length) (isUnit : IsUnit (bytes.drop skipped) start stop) :
    IsUnit bytes (skipped + start) (skipped + stop) := by
  have inside := isUnit.inside
  rw [List.length_drop] at inside
  refine
    { ordered := Nat.add_le_add_left isUnit.ordered skipped
      inside := by omega
      ends := ?_
      goesOn := ?_ }
  · have ends := isUnit.ends
    rw [List.length_drop, List.drop_drop] at ends
    exact ends.imp_left fun atEnd => by omega
  · intro position behind before
    have goesOn := isUnit.goesOn (position - skipped) (by omega) (by omega)
    rwa [List.drop_drop, Nat.add_sub_cancel' (by omega)] at goesOn

theorem isUnit_unitPrefix (bytes : List UInt8) : IsUnit bytes 0 (unitPrefix bytes).length := by
  induction bytes with
  | nil =>
      exact
        { ordered := Nat.le_refl 0
          inside := Nat.le_refl 0
          ends := Or.inl rfl
          goesOn := fun position _ before => absurd before (Nat.not_lt_zero position) }
  | cons byte rest ih =>
      rw [unitPrefix]
      by_cases here : EndsUnit (byte :: rest)
      · rw [if_pos here]
        exact
          { ordered := Nat.le_refl 0
            inside := Nat.zero_le _
            ends := Or.inr here
            goesOn := fun position _ before => absurd before (Nat.not_lt_zero position) }
      · rw [if_neg here, List.length_cons]
        have later : IsUnit (byte :: rest) (1 + 0) (1 + (unitPrefix rest).length) :=
          IsUnit.of_drop (Nat.le_add_left 1 _) ih
        rw [Nat.add_comm 1 (unitPrefix rest).length] at later
        refine { later with ordered := Nat.zero_le _, goesOn := ?_ }
        intro position _ before
        cases position with
        | zero => exact here
        | succ position => exact later.goesOn (position + 1) (by omega) before

theorem startCode_take_two (zeros : Nat) (rest : List UInt8) :
    (startCode zeros ++ rest).take 2 = [0, 0] := by
  match zeros with
  | 0 => rfl
  | 1 => rfl
  | zeros + 2 => simp [startCode, List.replicate_succ]

/-- Inside a start code, the bytes `00 00 01` stand only at its end. -/
private theorem position_in_startCode {zeros position : Nat} {rest following : List UInt8}
    (inside : position < zeros + 3)
    (here : (startCode zeros ++ rest).drop position = [0, 0, 1] ++ following) :
    position = zeros ∧ following = rest := by
  induction zeros generalizing position with
  | zero =>
      match position, inside with
      | 0, _ =>
          refine ⟨rfl, ?_⟩
          simpa [startCode] using here.symm
      | 1, _ => simp [startCode] at here
      | 2, _ => simp [startCode] at here
  | succ zeros ih =>
      have shape : startCode (zeros + 1) ++ rest = 0 :: (startCode zeros ++ rest) := by
        simp [startCode, List.replicate_succ]
      cases position with
      | zero =>
          have three := startCode_succ_take zeros rest
          rw [List.drop_zero] at here
          rw [here] at three
          simp at three
      | succ position =>
          rw [shape, List.drop_succ_cons] at here
          obtain ⟨positionEq, followingEq⟩ := ih (by omega) here
          exact ⟨by rw [positionEq], followingEq⟩

/-- No start code begins inside of a NAL unit that is free of them. -/
private theorem not_startCode_in_nal {nal suffix following : List UInt8}
    {rest : List (Nat × List UInt8)} (free : ¬ [0, 0, 1] <:+: nal) (isSuffix : suffix <:+ nal)
    (nonempty : suffix ≠ []) : suffix ++ write rest ≠ [0, 0, 1] ++ following := by
  intro here
  have twoZeros : write rest = [] ∨ (write rest).take 2 = [0, 0] := by
    cases rest with
    | nil => exact Or.inl rfl
    | cons part rest =>
        rw [write_cons]
        exact Or.inr (startCode_take_two part.1 _)
  match suffix, nonempty with
  | [first], _ =>
      rcases twoZeros with isEmpty | zeros
      · simp [isEmpty] at here
      · have tailEq : write rest = 0 :: 1 :: following := by simpa using (List.cons.inj here).2
        rw [tailEq] at zeros
        simp at zeros
  | [first, second], _ =>
      rcases twoZeros with isEmpty | zeros
      · simp [isEmpty] at here
      · have tailEq : write rest = 1 :: following := by
          simpa using (List.cons.inj (List.cons.inj here).2).2
        rw [tailEq] at zeros
        simp at zeros
  | first :: second :: third :: others, _ =>
      have bytesEq : first = 0 ∧ second = 0 ∧ third = 1 ∧ others ++ write rest = following := by
        simpa using here
      rcases bytesEq with ⟨rfl, rfl, rfl, _⟩
      exact free ((List.prefix_append [0, 0, 1] others).isInfix.trans isSuffix.isInfix)

/-- In a written stream whose NAL units are free of start codes, the bytes `00 00 01` stand
where a NAL unit begins, and only there. -/
theorem unit_of_startCode {parts : List (Nat × List UInt8)}
    (free : ∀ part, part ∈ parts → ¬ [0, 0, 1] <:+: part.2) {position : Nat}
    {following : List UInt8} (here : (write parts).drop position = [0, 0, 1] ++ following) :
    ∃ before zeros nal after, parts = before ++ (zeros, nal) :: after ∧
      position = (write before).length + zeros ∧ following = nal ++ write after := by
  induction parts generalizing position with
  | nil =>
      rw [write_nil, List.drop_nil] at here
      cases here
  | cons part rest ih =>
      rcases part with ⟨zeros, nal⟩
      rw [write_cons] at here
      dsimp only at here
      have codeLength : (startCode zeros).length = zeros + 3 := by simp [startCode]
      by_cases inCode : position < zeros + 3
      · obtain ⟨positionEq, followingEq⟩ := position_in_startCode inCode here
        exact ⟨[], zeros, nal, rest, rfl, by simp [positionEq], followingEq⟩
      · obtain ⟨inUnit, rfl⟩ := Nat.exists_eq_add_of_le (Nat.not_lt.mp inCode)
        rw [← codeLength, List.drop_length_add_append] at here
        by_cases inNal : inUnit < nal.length
        · rw [List.drop_append_of_le_length (by omega)] at here
          have nonempty : nal.drop inUnit ≠ [] := by
            rw [ne_eq, List.drop_eq_nil_iff]
            omega
          exact absurd here (not_startCode_in_nal (free _ List.mem_cons_self)
            (List.drop_suffix inUnit nal) nonempty)
        · obtain ⟨behind, rfl⟩ := Nat.exists_eq_add_of_le (Nat.not_lt.mp inNal)
          rw [List.drop_length_add_append] at here
          obtain ⟨before, zeros', nal', after, restEq, behindEq, followingEq⟩ :=
            ih (fun part member => free part (List.mem_cons_of_mem _ member)) here
          refine ⟨(zeros, nal) :: before, zeros', nal', after, by rw [restEq, List.cons_append],
            ?_, followingEq⟩
          rw [write_cons, List.length_append, List.length_append, codeLength, behindEq]
          dsimp only
          omega

/-- The stream in which every NAL unit follows a four-byte start code. -/
def byteStream (nals : List (List UInt8)) : List UInt8 :=
  nals.flatMap fun nal => [0, 0, 0, 1] ++ nal

@[simp] theorem byteStream_nil : byteStream [] = [] := rfl

theorem byteStream_cons (nal : List UInt8) (rest : List (List UInt8)) :
    byteStream (nal :: rest) = [0, 0, 0, 1] ++ nal ++ byteStream rest := by
  simp [byteStream]

theorem byteStream_append (first second : List (List UInt8)) :
    byteStream (first ++ second) = byteStream first ++ byteStream second := by
  simp [byteStream]

theorem byteStream_singleton (nal : List UInt8) :
    byteStream [nal] = [0, 0, 0, 1] ++ nal := by
  simp [byteStream]

theorem byteStream_eq_write (nals : List (List UInt8)) :
    byteStream nals = write (nals.map fun nal => (1, nal)) := by
  simp [byteStream, write, startCode, List.flatMap_map]

/-- The same for a stream in which every start code has four bytes. -/
theorem unit_of_fourByteCode {nals : List (List UInt8)}
    (free : ∀ nal, nal ∈ nals → ¬ [0, 0, 1] <:+: nal) {position : Nat} {following : List UInt8}
    (here : (byteStream nals).drop (position + 1) = [0, 0, 1] ++ following) :
    ∃ front nal back, nals = front ++ nal :: back ∧ position = (byteStream front).length ∧
      following = nal ++ byteStream back := by
  rw [byteStream_eq_write] at here
  have freeParts : ∀ part, part ∈ nals.map (fun nal => (1, nal)) → ¬ [0, 0, 1] <:+: part.2 := by
    intro part member
    obtain ⟨nal, nalMember, rfl⟩ := List.mem_map.mp member
    exact free nal nalMember
  obtain ⟨before, zeros, nal, after, partsEq, positionEq, followingEq⟩ :=
    unit_of_startCode freeParts here
  obtain ⟨front, others, nalsEq, frontEq, othersEq⟩ := List.map_eq_append_iff.mp partsEq
  obtain ⟨first, back, rfl, firstEq, backEq⟩ := List.map_eq_cons_iff.mp othersEq
  obtain ⟨rfl, rfl⟩ := Prod.mk.inj firstEq
  refine ⟨front, first, back, nalsEq, ?_, ?_⟩
  · rw [byteStream_eq_write, frontEq]
    omega
  · rw [byteStream_eq_write, backEq, followingEq]

theorem length_byteStream (nals : List (List UInt8)) :
    (byteStream nals).length = (nals.map fun nal => nal.length + 4).sum := by
  induction nals with
  | nil => rfl
  | cons nal rest ih =>
      rw [byteStream_cons, List.map_cons, List.sum_cons, ← ih]
      simp only [List.length_append, List.length_cons, List.length_nil]
      omega

end AnnexB
