/-
The scanner finds the NAL units of the byte-stream format.

Each function of the scanner has one lemma in terms of the bytes it looks at; the last
one says that the entries found are the units of the buffer, as far as the result array
has room.
-/
import DShowCapture.KeyFrame.NalScanner
import DShowCapture.Library.AnnexB

namespace DShowCapture

open ByteMemory Logged AnnexB

/-! ### Start codes -/

theorem beginsUnit_read_iff (memory : Memory) (data size : Nat) :
    BeginsUnit (read memory data size) ↔
      3 ≤ size ∧ memory data = 0 ∧ memory (data + 1) = 0 ∧ memory (data + 2) = 1 := by
  match size with
  | 0 => simp [BeginsUnit]
  | 1 => simp [BeginsUnit, read_succ]
  | 2 => simp [BeginsUnit, read_succ]
  | size + 3 => simp [BeginsUnit, read_succ, Nat.add_assoc]

theorem endsUnit_read_iff (memory : Memory) (data size : Nat) :
    EndsUnit (read memory data size) ↔
      3 ≤ size ∧ memory data = 0 ∧ memory (data + 1) = 0 ∧
        (memory (data + 2) = 0 ∨ memory (data + 2) = 1) := by
  match size with
  | 0 => simp [EndsUnit]
  | 1 => simp [EndsUnit, read_succ]
  | 2 => simp [EndsUnit, read_succ]
  | size + 3 =>
      simp only [EndsUnit, read_succ, List.take_succ_cons, List.take_zero, List.cons.injEq,
        and_true, Nat.add_assoc, Nat.reduceAdd, Nat.le_add_left, true_and]
      tauto

def FourByteHead (memory : Memory) (data size : Nat) : Prop :=
  4 ≤ size ∧ memory data = 0 ∧ memory (data + 1) = 0 ∧ memory (data + 2) = 0 ∧
    memory (data + 3) = 1

theorem isNalHead_cases (memory : Memory) (data size : Nat) :
    let signLen := (isNalHead memory data size).value
    (signLen = 4 ∧ FourByteHead memory data size) ∨
      (signLen = 3 ∧ BeginsUnit (read memory data size)) ∨
      (signLen = 0 ∧ ¬ FourByteHead memory data size ∧
        ¬ BeginsUnit (read memory data size)) := by
  simp only [isNalHead, value_bind, value_ite, value_pure, beginsUnit_read_iff]
  by_cases four : FourByteHead memory data size
  · exact Or.inl ⟨if_pos four, four⟩
  · right
    have notFour : ¬ (size ≥ 4 ∧ memory data = 0 ∧ memory (data + 1) = 0 ∧
        memory (data + 2) = 0 ∧ memory (data + 3) = 1) := four
    rw [if_neg notFour]
    split
    · rename_i three
      exact Or.inl ⟨rfl, three⟩
    · rename_i notThree
      exact Or.inr ⟨rfl, four, notThree⟩

theorem afterStartCode_of_isNalHead {memory : Memory} {data size : Nat}
    (found : (isNalHead memory data size).value ≠ 0) :
    let signLen := (isNalHead memory data size).value
    signLen ≤ size ∧
      afterStartCode (read memory data size) =
        some (read memory (data + signLen) (size - signLen)) := by
  rcases isNalHead_cases memory data size with ⟨signLen, four⟩ | ⟨signLen, three⟩ | ⟨none, _⟩
  · rcases four with ⟨long, zeros⟩
    obtain ⟨rest, rfl⟩ := Nat.exists_eq_add_of_le' long
    have shape : read memory data (rest + 4) = startCode 1 ++ read memory (data + 4) rest := by
      simp [read_succ, startCode, zeros.1, zeros.2.1, zeros.2.2.1, zeros.2.2.2,
        Nat.add_assoc]
    simp only [signLen]
    refine ⟨long, ?_⟩
    rw [shape, afterStartCode_startCode, Nat.add_sub_cancel]
  · have three' := (beginsUnit_read_iff memory data size).mp three
    rcases three' with ⟨long, zeros⟩
    obtain ⟨rest, rfl⟩ := Nat.exists_eq_add_of_le' long
    have shape : read memory data (rest + 3) = startCode 0 ++ read memory (data + 3) rest := by
      simp [read_succ, startCode, zeros.1, zeros.2.1, zeros.2.2, Nat.add_assoc]
    simp only [signLen]
    refine ⟨long, ?_⟩
    rw [shape, afterStartCode_startCode, Nat.add_sub_cancel]
  · exact absurd none found

theorem afterStartCode_of_not_isNalHead {memory : Memory} {data size : Nat}
    (notFound : (isNalHead memory data (size + 1)).value = 0) :
    afterStartCode (read memory data (size + 1)) =
      afterStartCode (read memory (data + 1) size) := by
  rcases isNalHead_cases memory data (size + 1) with ⟨four, _⟩ | ⟨three, _⟩ | ⟨_, _, notHere⟩
  · omega
  · omega
  · rw [read_succ] at notHere ⊢
    rw [afterStartCode, if_neg notHere]

theorem isNalTail_eq_zero_iff (memory : Memory) (data size : Nat) :
    (isNalTail memory data size).value = 0 ↔ ¬ EndsUnit (read memory data size) := by
  simp only [isNalTail, value_bind, value_ite, value_pure]
  rcases isNalHead_cases memory data size with
    ⟨signLen, four⟩ | ⟨signLen, three⟩ | ⟨signLen, _, notThree⟩
  · have ends : EndsUnit (read memory data size) :=
      (endsUnit_read_iff memory data size).mpr
        ⟨by have long := four.1; omega, four.2.1, four.2.2.1, Or.inl four.2.2.2.1⟩
    simp [signLen, ends]
  · have ends : EndsUnit (read memory data size) := Or.inr three
    simp [signLen, ends]
  · rw [beginsUnit_read_iff] at notThree
    simp only [signLen, endsUnit_read_iff]
    split
    · simp_all
    · split
      · rename_i zeros
        simp [zeros.1, zeros.2.1, zeros.2.2.1, zeros.2.2.2]
      · rename_i notZeros
        simp only [true_iff]
        tauto

/-! ### `GetNALSize` -/

/-- Where the loop of `GetNALSize` says that the unit ends. -/
def unitEnd (nSize : Nat) (stopped : Nat × Nat) : Nat :=
  if stopped.2 = 0 then nSize else stopped.1

theorem getNALSizeLoop_spec (memory : Memory) (data nSize i : Nat) (inRange : i ≤ nSize) :
    let stop := unitEnd nSize (getNALSizeLoop memory data nSize i).value
    i ≤ stop ∧ stop ≤ nSize ∧
      unitPrefix (read memory (data + i) (nSize - i)) = read memory (data + i) (stop - i) ∧
      unitSuffix (read memory (data + i) (nSize - i)) =
        read memory (data + stop) (nSize - stop) := by
  fun_induction getNALSizeLoop memory data nSize i with
  | case1 i left ih =>
      have countEq : nSize - i = nSize - (i + 1) + 1 := by omega
      have tail := isNalTail_eq_zero_iff memory (data + i) (nSize - i)
      simp only [value_bind, value_ite, value_pure]
      by_cases goesOn : (isNalTail memory (data + i) (nSize - i)).value = 0
      · have notEnd := tail.mp goesOn
        have later := ih (by omega)
        simp only [if_pos goesOn]
        rcases later with ⟨lower, upper, prefixEq, suffixEq⟩
        refine ⟨by omega, upper, ?_, ?_⟩
        · rw [countEq, read_succ] at notEnd ⊢
          rw [unitPrefix, if_neg notEnd, Nat.add_assoc, prefixEq]
          generalize unitEnd nSize (getNALSizeLoop memory data nSize (i + 1)).value = stop
            at lower
          rw [show stop - i = stop - (i + 1) + 1 by omega, read_succ, Nat.add_assoc]
        · rw [countEq, read_succ] at notEnd ⊢
          rw [unitSuffix, if_neg notEnd, Nat.add_assoc, suffixEq]
      · have ends : EndsUnit (read memory (data + i) (nSize - i)) := by
          by_contra notEnds
          exact goesOn (tail.mpr notEnds)
        simp only [if_neg goesOn, unitEnd]
        rw [countEq, read_succ] at ends ⊢
        refine ⟨Nat.le_refl i, inRange, ?_, ?_⟩
        · rw [unitPrefix, if_pos ends, Nat.sub_self, read_zero]
        · rw [unitSuffix, if_pos ends]
  | case2 i finished =>
      have atEnd : i = nSize := by omega
      subst atEnd
      simp [unitEnd, unitPrefix, unitSuffix]

/-- Behind the start code lies the first unit, and behind this the rest of the buffer. -/
theorem getNALSize_spec (memory : Memory) (data nSize : Nat)
    (inRange : (isNalHead memory data nSize).value ≤ nSize) :
    let signLen := (isNalHead memory data nSize).value
    let result := (getNALSize memory data nSize).value
    result.1 = signLen ∧ signLen + result.2 ≤ nSize ∧
      unitPrefix (read memory (data + signLen) (nSize - signLen)) =
        read memory (data + signLen) result.2 ∧
      unitSuffix (read memory (data + signLen) (nSize - signLen)) =
        read memory (data + (signLen + result.2)) (nSize - (signLen + result.2)) := by
  have loop := getNALSizeLoop_spec memory data nSize (isNalHead memory data nSize).value inRange
  simp only [getNALSize, value_bind, value_pure]
  have sizeEq : (if (getNALSizeLoop memory data nSize (isNalHead memory data nSize).value).value.2
        = 0 then nSize - (isNalHead memory data nSize).value
      else (getNALSizeLoop memory data nSize (isNalHead memory data nSize).value).value.1 -
        (isNalHead memory data nSize).value) =
      unitEnd nSize (getNALSizeLoop memory data nSize (isNalHead memory data nSize).value).value -
        (isNalHead memory data nSize).value := by
    unfold unitEnd
    split <;> rfl
  rw [sizeEq]
  generalize unitEnd nSize
    (getNALSizeLoop memory data nSize (isNalHead memory data nSize).value).value = stop at loop
  generalize (isNalHead memory data nSize).value = signLen at loop
  rcases loop with ⟨lower, upper, prefixEq, suffixEq⟩
  have endEq : signLen + (stop - signLen) = stop := by omega
  refine ⟨trivial, by omega, prefixEq, ?_⟩
  rw [endEq, suffixEq]

/-! ### `GetNalSize` -/

theorem searchNalHead_spec (memory : Memory) (data dataSize : Nat) :
    let result := (searchNalHead memory data dataSize).value
    data ≤ result.2.1 ∧ result.2.1 + result.2.2 = data + dataSize ∧
      (if result.1 = 0 then afterStartCode (read memory data dataSize) = none
      else
        (isNalHead memory result.2.1 result.2.2).value = result.1 ∧
          afterStartCode (read memory data dataSize) =
            some (read memory (result.2.1 + result.1) (result.2.2 - result.1))) := by
  induction dataSize generalizing data with
  | zero => exact ⟨Nat.le_refl data, rfl, rfl⟩
  | succ dataSize ih =>
      simp only [searchNalHead, value_bind, value_ite, value_pure]
      by_cases found : (isNalHead memory data (dataSize + 1)).value ≠ 0
      · simp only [if_pos found, if_neg found]
        exact ⟨Nat.le_refl data, trivial, trivial, (afterStartCode_of_isNalHead found).2⟩
      · have later := ih (data + 1)
        rw [not_not] at found
        rw [if_neg (by simp [found]), afterStartCode_of_not_isNalHead found]
        exact ⟨by omega, by omega, later.2.2⟩

structure H264Nal.Describes (nal : H264Nal) (memory : Memory) (data dataSize : Nat) :
    Prop where
  type : nal.type = memory nal.pdata &&& 0x1f
  lower : data ≤ nal.pdata
  upper : nal.pdata + nal.len ≤ data + dataSize

def H264Nal.bytes (nal : H264Nal) (memory : Memory) : List UInt8 :=
  read memory nal.pdata nal.len

/-- One round of the outer loop finds the unit `nal` in the bytes `rest` behind the first
start code, and goes on behind the unit. -/
structure Round (memory : Memory) (data dataSize : Nat) (rest : List UInt8) (nal : H264Nal)
    (left : Nat) : Prop where
  found : afterStartCode (read memory data dataSize) = some rest
  type : nal.type = memory nal.pdata &&& 0x1f
  lower : data ≤ nal.pdata
  behind : nal.pdata + rest.length = data + dataSize
  restEq : read memory nal.pdata rest.length = rest
  bytes : unitPrefix rest = nal.bytes memory
  total : nal.pdata + nal.len + left = data + dataSize
  suffix : unitSuffix rest = read memory (nal.pdata + nal.len) left

theorem getNalSize_cases (memory : Memory) (room data dataSize : Nat) :
    let nals := getNalSize memory (room + 1) data dataSize
    (nals.value = [] ∧ afterStartCode (read memory data dataSize) = none ∧
        ∀ allowed, Safe allowed (searchNalHead memory data dataSize) → Safe allowed nals) ∨
      ∃ rest nal left start, Round memory data dataSize rest nal left ∧
        start ≤ data + dataSize ∧
        nals.value = nal :: (getNalSize memory room (nal.pdata + nal.len) left).value ∧
        ∀ allowed, Safe allowed nals ↔
          Safe allowed (searchNalHead memory data dataSize) ∧
            Safe allowed (getNALSize memory start (data + dataSize - start)) ∧
            allowed (.read nal.pdata 1) ∧
            Safe allowed (getNalSize memory room (nal.pdata + nal.len) left) := by
  by_cases finished : dataSize = 0
  · subst finished
    refine Or.inl ⟨by simp [getNalSize], rfl, fun allowed _ => ?_⟩
    rw [getNalSize, if_pos rfl]
    exact safe_pure _ _
  · have search := searchNalHead_spec memory data dataSize
    simp only [getNalSize, if_neg finished, value_bind, value_ite, value_pure, safe_bind,
      safe_ite, safe_emit, safe_pure]
    generalize (searchNalHead memory data dataSize).value = found at search
    rcases found with ⟨signLen, start, size⟩
    simp only at search ⊢
    rcases search with ⟨lower, total, found⟩
    by_cases absent : signLen = 0
    · rw [if_pos absent] at found
      refine Or.inl ⟨if_pos absent, found, fun allowed safe => ⟨safe, fun _ => trivial, ?_⟩⟩
      exact fun present => absurd absent present
    · rw [if_neg absent] at found
      rcases found with ⟨head, behind⟩
      have headFound : (isNalHead memory start size).value ≠ 0 := by
        rw [head]
        exact absent
      have unit := getNALSize_spec memory start size (afterStartCode_of_isNalHead headFound).1
      have sizeEq : data + dataSize - start = size := by omega
      rw [head] at unit
      generalize (getNALSize memory start size).value = measured at unit
      rcases measured with ⟨sameLen, len⟩
      simp only at unit ⊢
      rcases unit with ⟨rfl, inside, prefixEq, suffixEq⟩
      rw [if_neg absent]
      refine Or.inr ⟨read memory (start + sameLen) (size - sameLen),
        { type := memory (start + sameLen) &&& 0x1f, pdata := start + sameLen, len := len },
        size - (sameLen + len), start, ?_, by omega, ?_, fun allowed => ?_⟩
      · exact
          { found := behind
            type := rfl
            lower := by dsimp only; omega
            behind := by rw [length_read]; dsimp only; omega
            restEq := by rw [length_read]
            bytes := prefixEq
            total := by dsimp only; omega
            suffix := by rw [suffixEq, Nat.add_assoc] }
      · rw [Nat.add_assoc]
      · rw [Nat.add_assoc, sizeEq]
        simp only [absent, false_imp_iff, not_false_eq_true, true_imp_iff, true_and, and_true]

/-- `GetNalSize` finds the units of the buffer, as many as the array has room for. -/
theorem getNalSize_spec (memory : Memory) (maxNal data dataSize : Nat) :
    let nals := (getNalSize memory maxNal data dataSize).value
    nals.map (fun nal => nal.bytes memory) =
        (units (read memory data dataSize)).take maxNal ∧
      ∀ nal, nal ∈ nals → nal.Describes memory data dataSize := by
  induction maxNal generalizing data dataSize with
  | zero => simp [getNalSize]
  | succ room ih =>
      rcases getNalSize_cases memory room data dataSize with
        ⟨nalsEq, absent, _⟩ | ⟨rest, nal, left, _, round, _, nalsEq, _⟩
      · simp [nalsEq, units_of_none absent]
      · have later := ih (nal.pdata + nal.len) left
        have lower := round.lower
        have total := round.total
        rw [nalsEq, units_of_some round.found, round.bytes, round.suffix]
        constructor
        · rw [List.map_cons, later.1, List.take_succ_cons]
        · intro other member
          rcases List.mem_cons.mp member with isHead | isLater
          · rw [isHead]
            exact { type := round.type, lower := lower, upper := by omega }
          · have described := later.2 other isLater
            have lowerLater := described.lower
            have upperLater := described.upper
            exact { type := described.type, lower := by omega, upper := by omega }

theorem getNalSize_positions (memory : Memory) (maxNal data dataSize : Nat) :
    let nals := (getNalSize memory maxNal data dataSize).value
    nals.map (fun nal => nal.pdata) =
        ((startCodes (read memory data dataSize)).take maxNal).map (data + · + 3) ∧
      ∀ nal, nal ∈ nals →
        IsUnit (read memory data dataSize) (nal.pdata - data) (nal.pdata - data + nal.len) := by
  induction maxNal generalizing data dataSize with
  | zero => simp [getNalSize]
  | succ room ih =>
      rcases getNalSize_cases memory room data dataSize with
        ⟨nalsEq, absent, _⟩ | ⟨rest, nal, left, _, round, _, nalsEq, _⟩
      · simp [nalsEq, startCodes_of_none absent]
      · have later := ih (nal.pdata + nal.len) left
        have lower := round.lower
        have behind := round.behind
        have total := round.total
        obtain ⟨shorter, codesEq⟩ := startCodes_of_some round.found
        rw [length_read] at shorter codesEq
        have lenEq : (unitPrefix rest).length = nal.len := by
          rw [round.bytes, H264Nal.bytes, length_read]
        rw [startCodes_unitSuffix rest, round.suffix, lenEq] at codesEq
        rw [nalsEq, codesEq]
        constructor
        · rw [List.map_cons, later.1, List.take_succ_cons, List.map_cons, List.map_map,
            ← List.map_take, List.map_map]
          congr 1
          · omega
          · apply List.map_congr_left
            intro position _
            simp only [Function.comp_apply]
            omega
        · intro other member
          rcases List.mem_cons.mp member with isHead | isLater
          · subst isHead
            have restEq : (read memory data dataSize).drop (other.pdata - data) = rest := by
              rw [drop_read _ _ _ _ (by omega), ← round.restEq]
              congr 1 <;> omega
            have isUnit := isUnit_unitPrefix rest
            rw [← restEq] at isUnit
            have inBytes := IsUnit.of_drop (by rw [length_read]; omega) isUnit
            rwa [restEq, lenEq] at inBytes
          · have described := (getNalSize_spec memory room (nal.pdata + nal.len) left).2 other
              isLater
            have lowerLater := described.lower
            have isUnit := later.2 other isLater
            have suffixEq : (read memory data dataSize).drop (nal.pdata + nal.len - data) =
                read memory (nal.pdata + nal.len) left := by
              rw [drop_read _ _ _ _ (by omega)]
              congr 1 <;> omega
            rw [← suffixEq] at isUnit
            have inBytes := IsUnit.of_drop (by rw [length_read]; omega) isUnit
            have startEq : nal.pdata + nal.len - data + (other.pdata - (nal.pdata + nal.len)) =
                other.pdata - data := by
              omega
            rwa [← Nat.add_assoc, startEq] at inBytes

structure SplitsUnits (memory : Memory) (maxNal data dataSize : Nat) (bytes : List UInt8)
    (nals : List H264Nal) : Prop where
  count : nals.length = min maxNal (startCodes bytes).length
  units : ∀ (index : Nat) (nal : H264Nal), nals[index]? = some nal →
    ∃ position, (startCodes bytes)[index]? = some position ∧
      nal.pdata = data + (position + 3) ∧
      IsUnit bytes (position + 3) (position + 3 + nal.len) ∧
      (0 < nal.len → bytes[position + 3]?.map (· &&& 0x1f) = some nal.type)
  written : ∀ parts : List (Nat × List UInt8), bytes = write parts → parts.length ≤ maxNal →
    (∀ part, part ∈ parts → part.2 = [] ∨ Writable part.2) →
      nals.map (fun nal => nal.bytes memory) = parts.map Prod.snd

theorem splitsUnits_getNalSize (memory : Memory) (maxNal data dataSize : Nat) :
    SplitsUnits memory maxNal data dataSize (read memory data dataSize)
      (getNalSize memory maxNal data dataSize).value := by
  obtain ⟨starts, isUnits⟩ := getNalSize_positions memory maxNal data dataSize
  obtain ⟨bytesEq, describes⟩ := getNalSize_spec memory maxNal data dataSize
  generalize (getNalSize memory maxNal data dataSize).value = nals at *
  refine
    { count := ?_
      units := ?_
      written := ?_ }
  · have lengths := congrArg List.length starts
    simpa using lengths
  · intro index nal atIndex
    have member := List.mem_of_getElem? atIndex
    have startEq := congrArg (fun all => all[index]?) starts
    simp only [List.getElem?_map, atIndex, Option.map_some, List.getElem?_take] at startEq
    split at startEq
    · cases codeEq : (startCodes (read memory data dataSize))[index]? with
      | none =>
          rw [codeEq] at startEq
          cases startEq
      | some position =>
          rw [codeEq, Option.map_some, Option.some.injEq] at startEq
          have isUnit := isUnits nal member
          have startEq' : nal.pdata - data = position + 3 := by omega
          rw [startEq'] at isUnit
          refine ⟨position, rfl, by omega, isUnit, ?_⟩
          intro positive
          have inside := isUnit.inside
          rw [length_read] at inside
          rw [getElem?_read _ _ _ _ (by omega), (describes nal member).type, Option.map_some]
          congr 3
          omega
    · cases startEq
  · intro parts written room quiet
    rw [bytesEq, written, units_write_of_quiet parts quiet, List.take_of_length_le (by simpa)]

end DShowCapture
