/-
Where the search for a key frame writes its offsets.

The parameter set that the search parses lives on its stack, with room for 256 offsets.  Whether
the writes stay inside is decided by the first parameter set among the first 1024 bytes.
-/
import DShowCapture.KeyFrame.RefFrameLoop
import DShowCapture.KeyFrame.ScanBounds

namespace DShowCapture

open ByteMemory hiding ofBytes
open BitString hiding value
open FixedWidth Logged AnnexB

/-- The unit asks for no more offsets than the array has entries. -/
def CycleFits : List UInt8 → Prop
  | _ :: profile :: _ :: _ :: behindProfile =>
      Field.rounds (readsHighProfile profile) (ofBytes behindProfile) ≤ offsetEntries
  | _ => True

instance : DecidablePred CycleFits
  | _ :: _ :: _ :: _ :: _ => inferInstanceAs (Decidable (_ ≤ _))
  | [] => inferInstanceAs (Decidable True)
  | [_] => inferInstanceAs (Decidable True)
  | [_, _] => inferInstanceAs (Decidable True)
  | [_, _, _] => inferInstanceAs (Decidable True)

theorem Field.rounds_nil (high : Bool) : Field.rounds high [] = 0 := rfl

theorem cycleFits_of_short {unit : List UInt8} (short : unit.length ≤ 4) : CycleFits unit := by
  rcases unit with _ | ⟨header, _ | ⟨profile, _ | ⟨flags, _ | ⟨level, rest⟩⟩⟩⟩
  · trivial
  · trivial
  · trivial
  · trivial
  · have noBytes : rest = [] := by
      simp only [List.length_cons] at short
      exact List.eq_nil_of_length_eq_zero (by omega)
    rw [noBytes, CycleFits, ofBytes_nil, Field.rounds_nil]
    exact Nat.zero_le offsetEntries

/-- The first parameter set that the search comes to asks for no more offsets. -/
def FirstCycleFits (bytes : List UInt8) : Prop :=
  ∀ position, SpsIn bytes position → (∀ earlier, earlier < position → ¬ SpsIn bytes earlier) →
    CycleFits (scannedUnit bytes position)

theorem firstCycleFits_iff_below {bytes : List UInt8} :
    FirstCycleFits bytes ↔ ∀ position, position < bytes.length → SpsIn bytes position →
      (∀ earlier, earlier < position → ¬ SpsIn bytes earlier) →
        CycleFits (scannedUnit bytes position) :=
  ⟨fun fits position _ => fits position, fun fits position isSps =>
    fits position isSps.lt_length isSps⟩

instance : DecidablePred FirstCycleFits := fun _ => decidable_of_iff' _ firstCycleFits_iff_below

theorem firstCycleFits_iff_of_begins {bytes : List UInt8} (isSps : SpsIn bytes 0) :
    FirstCycleFits bytes ↔ CycleFits (scannedUnit bytes 0) := by
  constructor
  · intro fits
    exact fits 0 isSps fun earlier before => absurd before (Nat.not_lt_zero earlier)
  · intro fits position _ first
    have atStart : position = 0 := by
      by_contra later
      exact first 0 (by omega) isSps
    rw [atStart]
    exact fits

section Report

variable {memory : Memory} {position : Nat}

theorem ReadsThen.inArray_congr {α : Type} {computation rest : Logged ScanAccess α}
    (readsThen : ReadsThen computation rest) :
    Safe ScanAccess.InArray computation ↔ Safe ScanAccess.InArray rest := by
  obtain ⟨reads, areReads, logEq⟩ := readsThen.log
  have inArray : ∀ event, event ∈ reads → event.InArray := by
    intro event member
    have isRead := areReads event member
    cases event with
    | read start count => trivial
    | arithmetic value => trivial
    | refFrameRound size => exact isRead.elim
    | offsetForRefFrame index => exact isRead.elim
  rw [Safe, logEq, List.forall_mem_append]
  exact and_iff_right inArray

theorem cycleFits_read_iff (size : Nat) (sps : SPS) :
    Safe ScanAccess.InArray (h264DecodeSPS memory (position + 5) ((size : Int) - 1) sps) ↔
      CycleFits (read memory (position + 4) size) := by
  have countEq : ((size : Int) - 1 - 3).toNat = size - 4 := by omega
  rw [safe_inArray_h264DecodeSPS_iff, countEq]
  by_cases short : size ≤ 4
  · have fits : CycleFits (read memory (position + 4) size) :=
      cycleFits_of_short (by rw [length_read]; exact short)
    rw [show size - 4 = 0 by omega, read_zero, ofBytes_nil, Field.rounds_nil]
    exact iff_of_true (Nat.zero_le offsetEntries) fits
  · obtain ⟨rest, rfl⟩ := Nat.exists_eq_add_of_le' (by omega : 4 ≤ size)
    rw [Nat.add_sub_cancel]
    exact Iff.rfl

theorem safe_inArray_reportSize_iff (nSize : Nat) :
    Safe ScanAccess.InArray (reportSize memory nSize position position) ↔
      CycleFits (read memory (position + 4)
        (getNALSize memory position (nSize - position)).value.2) := by
  have measured := @isRead_getNALSize memory position (nSize - position)
  rw [← cycleFits_read_iff _ default, reportSize, (readsThen_bind measured _).inArray_congr]
  simp only [safe_bind, safe_emit, safe_pure]
  exact ⟨fun all => all.1, fun parse => ⟨parse, trivial, trivial, trivial⟩⟩

end Report

/-- The search writes no offset behind the array exactly when the first parameter set asks for
no more offsets than the array has entries. -/
theorem safe_inArray_isH264KeyFrame_iff {memory : Memory} {bytes : List UInt8}
    (held : read memory 0 bytes.length = bytes) :
    Safe ScanAccess.InArray (isH264KeyFrame memory 0 bytes.length) ↔ FirstCycleFits bytes :=
  isH264KeyFrame_iff_first held (fun _ _ readsThen => readsThen.inArray_congr)
    (safe_pure _ _) trivial fun nSize _ _ _ => safe_inArray_reportSize_iff nSize

end DShowCapture
