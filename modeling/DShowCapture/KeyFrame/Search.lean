/-
The search for a parameter set, through all bytes that it looks at.

The search comes to one start code after the other and stops at the first one with the header
of a parameter set behind it.  Until then it does nothing but read.
-/
import DShowCapture.KeyFrame.Detect
import DShowCapture.KeyFrame.NalUnits
import Mathlib.Data.Nat.Find

namespace DShowCapture

open ByteMemory FixedWidth Logged

/-! ### Start codes -/

def StartCodeAt (memory : Memory) (data : Nat) : Prop :=
  memory data = 0 ∧ memory (data + 1) = 0 ∧ memory (data + 2) = 0 ∧ memory (data + 3) = 1

instance (memory : Memory) (data : Nat) : Decidable (StartCodeAt memory data) :=
  inferInstanceAs (Decidable (_ ∧ _ ∧ _ ∧ _))

theorem isNalHead_of_startCodeAt {memory : Memory} {data nSize : Nat} (long : 4 ≤ nSize)
    (startCode : StartCodeAt memory data) : (isNalHead memory data nSize).value = 4 := by
  have four : nSize ≥ 4 ∧ memory data = 0 ∧ memory (data + 1) = 0 ∧ memory (data + 2) = 0 ∧
      memory (data + 3) = 1 := ⟨long, startCode⟩
  simp only [isNalHead, value_bind, value_pure, if_pos four]

theorem getNALSize_inside {memory : Memory} {data : Nat} (nSize : Nat) (long : 4 ≤ nSize)
    (startCode : StartCodeAt memory data) :
    (getNALSize memory data nSize).value.2 + 4 ≤ nSize := by
  have headEq := isNalHead_of_startCodeAt long startCode
  have spec := getNALSize_spec memory data nSize (by omega)
  dsimp only at spec
  omega

theorem StartCodeAt.apart {memory : Memory} {first second : Nat}
    (here : StartCodeAt memory first) (there : StartCodeAt memory second)
    (behind : first < second) : first + 4 ≤ second := by
  have last := here.2.2.2
  by_contra near
  have cases : second = first + 1 ∨ second = first + 2 ∨ second = first + 3 := by omega
  rcases cases with rfl | rfl | rfl
  · have zero : memory (first + 3) = 0 := there.2.2.1
    rw [last] at zero
    exact absurd zero (by decide)
  · have zero : memory (first + 3) = 0 := there.2.1
    rw [last] at zero
    exact absurd zero (by decide)
  · have zero : memory (first + 3) = 0 := there.1
    rw [last] at zero
    exact absurd zero (by decide)

/-- A start code with the header of a parameter set behind it. -/
def SpsAt (memory : Memory) (data : Nat) : Prop :=
  StartCodeAt memory data ∧ memory (data + 4) &&& 0x1f = 7

instance (memory : Memory) (data : Nat) : Decidable (SpsAt memory data) :=
  inferInstanceAs (Decidable (_ ∧ _))

theorem read_of_startCodeAt {memory : Memory} {data : Nat} (startCode : StartCodeAt memory data) :
    read memory data 4 = [0, 0, 0, 1] := by
  rcases startCode with ⟨first, second, third, fourth⟩
  simp only [read_succ, read_zero, Nat.add_assoc, Nat.reduceAdd, first, second, third, fourth]

/-! ### The search for a start code -/

theorem value_skipToStartCode (memory : Memory) (nSize frameData nNaluSize : Nat) :
    (skipToStartCode memory nSize frameData nNaluSize).value =
      if ¬ StartCodeAt memory frameData ∧ nNaluSize < nSize - 3 then
        (skipToStartCode memory nSize (frameData + 1) (nNaluSize + 1)).value
      else (frameData, nNaluSize) := by
  rw [skipToStartCode]
  have startCodeIff : (!(memory frameData == 0 && memory (frameData + 1) == 0 &&
      memory (frameData + 2) == 0 && memory (frameData + 3) == 1)) = true ↔
        ¬ StartCodeAt memory frameData := by
    rw [Bool.not_eq_true', ← Bool.not_eq_true]
    simp [StartCodeAt, and_assoc]
  simp only [value_bind, value_ite, value_pure, startCodeIff]

theorem skipToStartCode_spec (memory : Memory) (nSize frameData nNaluSize : Nat) :
    ∃ skipped, (skipToStartCode memory nSize frameData nNaluSize).value =
        (frameData + skipped, nNaluSize + skipped) ∧
      (nNaluSize + skipped < nSize - 3 → StartCodeAt memory (frameData + skipped)) ∧
      ∀ index, index < skipped → ¬ StartCodeAt memory (frameData + index) := by
  induction gap : nSize - nNaluSize generalizing frameData nNaluSize with
  | zero =>
      rw [value_skipToStartCode, if_neg (by omega)]
      exact ⟨0, rfl, fun inRange => absurd inRange (by omega), fun index below => by omega⟩
  | succ gap ih =>
      rw [value_skipToStartCode]
      by_cases goesOn : ¬ StartCodeAt memory frameData ∧ nNaluSize < nSize - 3
      · obtain ⟨skipped, foundEq, startCode, none⟩ :=
          ih (frameData + 1) (nNaluSize + 1) (by omega)
        rw [if_pos goesOn]
        refine ⟨skipped + 1, ?_, ?_, ?_⟩
        · rw [foundEq, Nat.add_assoc, Nat.add_assoc, Nat.add_comm 1]
        · intro inRange
          have here := startCode (by omega)
          rwa [Nat.add_assoc, Nat.add_comm 1] at here
        · intro index below
          cases index with
          | zero => exact goesOn.1
          | succ index =>
              have notThere := none index (by omega)
              rwa [Nat.add_assoc, Nat.add_comm 1] at notThere
      · rw [if_neg goesOn]
        refine ⟨0, rfl, fun inRange => ?_, fun index below => by omega⟩
        by_contra notHere
        exact goesOn ⟨notHere, inRange⟩

theorem skipToStartCode_reaches (memory : Memory) (nSize nNaluSize : Nat) :
    ∃ stop, nNaluSize ≤ stop ∧
      (skipToStartCode memory nSize nNaluSize nNaluSize).value = (stop, stop) ∧
      (stop < nSize - 3 → StartCodeAt memory stop) ∧
      ∀ earlier, nNaluSize ≤ earlier → earlier < stop → ¬ StartCodeAt memory earlier := by
  obtain ⟨skipped, foundEq, stopsAt, none⟩ :=
    skipToStartCode_spec memory nSize nNaluSize nNaluSize
  refine ⟨nNaluSize + skipped, Nat.le_add_right _ _, foundEq, stopsAt, ?_⟩
  intro earlier behind before
  obtain ⟨index, rfl⟩ := Nat.exists_eq_add_of_le behind
  exact none index (by omega)

/-! ### Reads in front of a computation -/

def ScanAccess.IsRead : ScanAccess → Prop
  | .read _ _ => True
  | .refFrameRound _ => False
  | .offsetForRefFrame _ => False
  | .arithmetic _ => False

structure ReadsThen {α : Type} (computation rest : Logged ScanAccess α) : Prop where
  value : computation.value = rest.value
  log : ∃ reads, (∀ event, event ∈ reads → ScanAccess.IsRead event) ∧
    computation.log = reads ++ rest.log

section ReadsThen

variable {α β : Type}

theorem ReadsThen.refl (computation : Logged ScanAccess α) : ReadsThen computation computation :=
  { value := rfl, log := ⟨[], List.forall_mem_nil _, rfl⟩ }

theorem ReadsThen.trans {computation between rest : Logged ScanAccess α}
    (first : ReadsThen computation between) (second : ReadsThen between rest) :
    ReadsThen computation rest := by
  obtain ⟨reads, areReads, logEq⟩ := first.log
  obtain ⟨more, areMore, logEqMore⟩ := second.log
  refine { value := first.value.trans second.value, log := ⟨reads ++ more, ?_, ?_⟩ }
  · intro event member
    rcases List.mem_append.mp member with inReads | inMore
    · exact areReads event inReads
    · exact areMore event inMore
  · rw [logEq, logEqMore, List.append_assoc]

theorem readsThen_bind {first : Logged ScanAccess α} (reads : Safe ScanAccess.IsRead first)
    (next : α → Logged ScanAccess β) : ReadsThen (first >>= next) (next first.value) :=
  { value := value_bind first next, log := ⟨first.log, reads, log_bind first next⟩ }

end ReadsThen

/-! ### The search for a parameter set -/

section Search

variable {memory : Memory}

theorem isRead_isNalHead (data size : Nat) :
    Safe ScanAccess.IsRead (isNalHead memory data size) := by
  simp only [isNalHead, safe_bind, safe_emitIf, safe_ite, safe_pure, implies_true, and_true,
    true_and]
  exact ⟨fun _ => trivial, fun _ _ => trivial⟩

theorem isRead_isNalTail (data size : Nat) :
    Safe ScanAccess.IsRead (isNalTail memory data size) := by
  simp only [isNalTail, safe_bind, safe_ite, safe_pure, implies_true, and_true]
  exact isRead_isNalHead data size

theorem isRead_getNALSizeLoop (data nSize i : Nat) :
    Safe ScanAccess.IsRead (getNALSizeLoop memory data nSize i) := by
  fun_induction getNALSizeLoop memory data nSize i with
  | case1 i left ih =>
      simp only [safe_bind, safe_ite, safe_pure, implies_true, and_true]
      exact ⟨isRead_isNalTail _ _, fun _ => ih⟩
  | case2 i finished => exact safe_pure _ _

theorem isRead_getNALSize (data nSize : Nat) :
    Safe ScanAccess.IsRead (getNALSize memory data nSize) := by
  simp only [getNALSize, safe_bind, safe_pure, and_true]
  exact ⟨isRead_isNalHead data nSize, isRead_getNALSizeLoop data nSize _⟩

theorem isRead_skipToStartCode (nSize frameData nNaluSize : Nat) :
    Safe ScanAccess.IsRead (skipToStartCode memory nSize frameData nNaluSize) := by
  fun_induction skipToStartCode memory nSize frameData nNaluSize with
  | case1 frameData nNaluSize ih =>
      simp only [safe_bind, safe_emit, safe_ite, safe_pure, implies_true, and_true]
      exact ⟨trivial, ih⟩

theorem isRead_golombPrefix (cursor : BitCursor) (golombBits : Nat) :
    Safe ScanAccess.IsRead (golombPrefix memory cursor golombBits) := by
  induction cursor, golombBits using golombPrefix.induct with
  | case1 cursor golombBits behindByte inByte =>
      rw [golombPrefix]
      simp only [safe_ite, safe_bind, safe_emit, safe_pure, implies_true, true_and]
      exact ⟨trivial, fun _ => ⟨fun _ goesOn => behindByte goesOn, fun within => inByte within⟩⟩

theorem readsThen_round (nSize nNaluSize : Nat) :
    ((∀ data, nNaluSize ≤ data → data < nSize - 3 → ¬ StartCodeAt memory data) ∧
        ReadsThen (keyFrameLoop memory nSize nNaluSize nNaluSize) (pure .notKey)) ∨
      ∃ data, nNaluSize ≤ data ∧ data < nSize - 3 ∧ StartCodeAt memory data ∧
        (∀ earlier, nNaluSize ≤ earlier → earlier < data → ¬ StartCodeAt memory earlier) ∧
        ReadsThen (keyFrameLoop memory nSize nNaluSize nNaluSize)
          (if memory (data + 4) &&& 0x1f = 7 then reportSize memory nSize data data
          else keyFrameLoop memory nSize (data + 4) (data + 4)) := by
  obtain ⟨stop, behind, foundEq, stopsAt, noneBefore⟩ :=
    skipToStartCode_reaches memory nSize nNaluSize
  by_cases goesOn : nNaluSize < nSize
  · rw [keyFrameLoop, if_pos goesOn]
    dsimp only
    rw [foundEq]
    have search := @isRead_skipToStartCode memory nSize nNaluSize nNaluSize
    by_cases inRange : stop < nSize - 3
    · have header : Safe ScanAccess.IsRead (emit (.read (stop + 4) 1)) :=
        (safe_emit _ _).mpr trivial
      refine Or.inr ⟨stop, behind, inRange, stopsAt inRange, noneBefore, ?_⟩
      rw [if_pos inRange]
      exact (readsThen_bind search _).trans (readsThen_bind header _)
    · rw [if_neg inRange]
      exact Or.inl ⟨fun data isBehind before => noneBefore data isBehind (by omega),
        readsThen_bind search _⟩
  · rw [keyFrameLoop, if_neg goesOn]
    exact Or.inl ⟨fun data behind before => by omega, ReadsThen.refl _⟩

/-- The search stops at the first parameter set, and all that it does before is to read. -/
theorem readsThen_keyFrameLoop (nSize nNaluSize : Nat) :
    ((∀ data, nNaluSize ≤ data → data < nSize - 3 → ¬ SpsAt memory data) ∧
        ReadsThen (keyFrameLoop memory nSize nNaluSize nNaluSize) (pure .notKey)) ∨
      ∃ sps, nNaluSize ≤ sps ∧ sps < nSize - 3 ∧ SpsAt memory sps ∧
        (∀ data, nNaluSize ≤ data → data < sps → ¬ SpsAt memory data) ∧
        ReadsThen (keyFrameLoop memory nSize nNaluSize nNaluSize)
          (reportSize memory nSize sps sps) := by
  induction gap : nSize - nNaluSize using Nat.strongRecOn generalizing nNaluSize with
  | ind gap ih =>
      rcases @readsThen_round memory nSize nNaluSize with
        ⟨none, ends⟩ | ⟨data, behind, inRange, startCode, noneBefore, goesOn⟩
      · exact Or.inl ⟨fun data isBehind before isSps => none data isBehind before isSps.1, ends⟩
      · by_cases type : memory (data + 4) &&& 0x1f = 7
        · rw [if_pos type] at goesOn
          exact Or.inr ⟨data, behind, inRange, ⟨startCode, type⟩,
            fun earlier isBehind before isSps => noneBefore earlier isBehind before isSps.1,
            goesOn⟩
        · rw [if_neg type] at goesOn
          have later : ∀ other, nNaluSize ≤ other → SpsAt memory other → data + 4 ≤ other := by
            intro other isBehind isSps
            have notBefore : ¬ other < data := fun before =>
              noneBefore other isBehind before isSps.1
            have notHere : other ≠ data := by
              rintro rfl
              exact type isSps.2
            exact startCode.apart isSps.1 (by omega)
          rcases ih _ (by omega) (data + 4) rfl with
            ⟨none, ends⟩ | ⟨sps, spsBehind, spsInRange, isSps, first, reaches⟩
          · exact Or.inl ⟨fun other isBehind before isSps =>
              none other (later other isBehind isSps) before isSps, goesOn.trans ends⟩
          · refine Or.inr ⟨sps, by omega, spsInRange, isSps, ?_, goesOn.trans reaches⟩
            exact fun other isBehind before isOther =>
              first other (later other isBehind isOther) before isOther

theorem keyFrameLoop_of_none {nSize nNaluSize : Nat}
    (noSps : ∀ data, nNaluSize ≤ data → data < nSize - 3 → ¬ SpsAt memory data) :
    (keyFrameLoop memory nSize nNaluSize nNaluSize).value = .notKey := by
  rcases @readsThen_keyFrameLoop memory nSize nNaluSize with
    ⟨_, ends⟩ | ⟨sps, behind, inRange, isSps, _⟩
  · exact ends.value
  · exact absurd isSps (noSps sps behind inRange)

/-- The search reports the first parameter set. -/
theorem keyFrameLoop_of_sps {nSize nNaluSize sps : Nat}
    (behind : nNaluSize ≤ sps) (inRange : sps < nSize - 3) (isSps : SpsAt memory sps)
    (first : ∀ data, nNaluSize ≤ data → data < sps → ¬ SpsAt memory data) :
    (keyFrameLoop memory nSize nNaluSize nNaluSize).value =
      (reportSize memory nSize sps sps).value := by
  rcases @readsThen_keyFrameLoop memory nSize nNaluSize with
    ⟨none, _⟩ | ⟨other, otherBehind, _, isOther, otherFirst, reaches⟩
  · exact absurd isSps (none sps behind inRange)
  · have same : other = sps := by
      by_contra different
      rcases Nat.lt_or_gt_of_ne different with before | after
      · exact first other otherBehind before isOther
      · exact otherFirst sps behind after isSps
    rw [reaches.value, same]

theorem returned_reportSize (memory : Memory) (nSize frameData nNaluSize : Nat) :
    (reportSize memory nSize frameData nNaluSize).value.returned = true := by
  simp only [reportSize, value_bind, value_pure]

theorem returned_keyFrameLoop_iff (memory : Memory) (nSize : Nat) :
    (keyFrameLoop memory nSize 0 0).value.returned = true ↔
      ∃ data, data < nSize - 3 ∧ SpsAt memory data := by
  by_cases found : ∃ data, data < nSize - 3 ∧ SpsAt memory data
  · have isFirst := Nat.find_spec found
    rw [keyFrameLoop_of_sps (Nat.zero_le _) isFirst.1 isFirst.2 fun data _ before isSps =>
      Nat.find_min found before ⟨by omega, isSps⟩]
    exact iff_of_true (returned_reportSize _ _ _ _) found
  · rw [keyFrameLoop_of_none fun data _ inRange isSps => found ⟨data, inRange, isSps⟩]
    exact iff_of_false Bool.false_ne_true found

end Search

end DShowCapture
