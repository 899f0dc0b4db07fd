/-
Numbers that wrap, and the indices that they stand for.

A sender numbers its items modulo the span of the number; a receiver that knows the highest
index so far takes a number that is not behind it to lie in the same cycle, and a number more
than half a span behind it to lie in the next one.  It finds the index of an item exactly when
the item lies in the window that this rule sees.
-/
import Mathlib.Tactic.Common

namespace SequenceNumbers

variable {span highest index number : Nat}

def unwrap (span highest number : Nat) : Nat :=
  let cycles := highest / span * span
  if highest % span ≤ number then cycles + number
  else if span < 2 * (highest % span - number) then cycles + span + number
  else cycles + number

/-- The window: from half a span behind the highest index to half a span in front of it,
where the part behind ends with the cycle and the part in front may fill it. -/
def InWindow (span highest index : Nat) : Prop :=
  (index / span = highest / span ∧ 2 * (highest - index) ≤ span) ∨
    (index / span = highest / span + 1 ∧ 2 * (index - highest) < span)

instance : Decidable (InWindow span highest index) :=
  inferInstanceAs (Decidable (_ ∨ _))

theorem split (index span : Nat) : index = index / span * span + index % span := by
  rw [Nat.mul_comm]
  exact (Nat.div_add_mod index span).symm

theorem eq_cycle_add_iff (positive : 0 < span) (cycle : Nat) :
    cycle * span + index % span = index ↔ index / span = cycle := by
  have whole := split index span
  constructor
  · intro same
    have equal : cycle * span = index / span * span := by omega
    exact (Nat.eq_of_mul_eq_mul_right positive equal).symm
  · rintro rfl
    exact whole.symm

/-- A number is read as the index it stands for exactly when the index is in the window. -/
theorem unwrap_eq_iff (positive : 0 < span) :
    unwrap span highest (index % span) = index ↔ InWindow span highest index := by
  have highestEq := split highest span
  have indexEq := split index span
  have same : highest / span * span + index % span = index ↔ index / span = highest / span :=
    eq_cycle_add_iff positive (highest / span)
  have next : highest / span * span + span + index % span = index ↔
      index / span = highest / span + 1 := by
    rw [← Nat.succ_mul]
    exact eq_cycle_add_iff positive (highest / span + 1)
  have apart : highest / span * span + span = (highest / span + 1) * span :=
    (Nat.succ_mul _ _).symm
  unfold unwrap InWindow
  simp only
  split
  · rename_i notBehind
    rw [same]
    constructor
    · intro cycleEq
      refine Or.inl ⟨cycleEq, ?_⟩
      rw [cycleEq] at indexEq
      omega
    · rintro (⟨cycleEq, _⟩ | ⟨cycleEq, close⟩)
      · exact cycleEq
      · rw [cycleEq] at indexEq
        omega
  · rename_i behind
    split
    · rename_i farBehind
      rw [next]
      constructor
      · intro cycleEq
        refine Or.inr ⟨cycleEq, ?_⟩
        rw [cycleEq] at indexEq
        omega
      · rintro (⟨cycleEq, close⟩ | ⟨cycleEq, _⟩)
        · rw [cycleEq] at indexEq
          omega
        · exact cycleEq
    · rename_i near
      rw [same]
      constructor
      · intro cycleEq
        refine Or.inl ⟨cycleEq, ?_⟩
        rw [cycleEq] at indexEq
        omega
      · rintro (⟨cycleEq, _⟩ | ⟨cycleEq, close⟩)
        · exact cycleEq
        · rw [cycleEq] at indexEq
          omega

def AllInWindow (span : Nat) : Nat → List Nat → Prop
  | _, [] => True
  | highest, index :: rest =>
      InWindow span highest index ∧ AllInWindow span (max highest index) rest

instance decidableAllInWindow (span : Nat) :
    (highest : Nat) → (indices : List Nat) → Decidable (AllInWindow span highest indices)
  | _, [] => .isTrue trivial
  | highest, index :: rest =>
      have := decidableAllInWindow span (max highest index) rest
      inferInstanceAs (Decidable (_ ∧ _))

end SequenceNumbers
