/-
Cutting a list into pieces of a given size, the last of which may be shorter.
-/
import Mathlib.Data.List.Basic

namespace Chunks

variable {α : Type}

/-- The pieces of `items`.  A list that fits into one piece is one piece, also when it
is empty. -/
def chunks (size : Nat) (items : List α) : List (List α) :=
  if items.length ≤ size ∨ size = 0 then [items]
  else items.take size :: chunks size (items.drop size)
termination_by items.length
decreasing_by
  simp only [List.length_drop]
  omega

theorem chunks_of_le {size : Nat} {items : List α} (short : items.length ≤ size) :
    chunks size items = [items] := by
  rw [chunks, if_pos (Or.inl short)]

theorem chunks_of_lt {size : Nat} {items : List α} (positive : 0 < size)
    (long : size < items.length) :
    chunks size items = items.take size :: chunks size (items.drop size) := by
  rw [chunks, if_neg (by omega)]

theorem chunks_induction {motive : List α → Prop} (size : Nat) (positive : 0 < size)
    (last : ∀ items, items.length ≤ size → motive items)
    (more : ∀ items, size < items.length → motive (items.drop size) → motive items)
    (items : List α) : motive items := by
  induction measure : items.length using Nat.strongRecOn generalizing items with
  | ind count ih =>
      by_cases short : items.length ≤ size
      · exact last items short
      · apply more items (by omega)
        apply ih (items.drop size).length _ (items.drop size) rfl
        rw [List.length_drop]
        omega

theorem chunks_ne_nil (size : Nat) (items : List α) : chunks size items ≠ [] := by
  rw [chunks]
  split
  · exact List.cons_ne_nil items []
  · exact List.cons_ne_nil _ _

theorem flatten_chunks (size : Nat) (positive : 0 < size) (items : List α) :
    (chunks size items).flatten = items := by
  induction items using chunks_induction size positive with
  | last items short => simp [chunks_of_le short]
  | more items long ih =>
      rw [chunks_of_lt positive long, List.flatten_cons, ih, List.take_append_drop]

theorem length_chunks (size : Nat) (positive : 0 < size) (items : List α)
    (nonempty : items ≠ []) :
    (chunks size items).length = (items.length + size - 1) / size := by
  induction items using chunks_induction size positive with
  | last items short =>
      have long := List.length_pos_iff.mpr nonempty
      have quotient : (items.length + size - 1) / size = 1 := by
        apply Nat.div_eq_of_lt_le <;> omega
      rw [chunks_of_le short, quotient, List.length_singleton]
  | more items long ih =>
      have dropLength : (items.drop size).length = items.length - size :=
        List.length_drop
      have rest := ih (by
        apply List.ne_nil_of_length_pos
        omega)
      have shifted : items.length + size - 1 = items.length - size + size - 1 + size := by
        omega
      rw [chunks_of_lt positive long, List.length_cons, rest, dropLength, shifted,
        Nat.add_div_right _ positive]

theorem length_le_of_mem_chunks {size : Nat} (positive : 0 < size) {items piece : List α}
    (member : piece ∈ chunks size items) : piece.length ≤ size := by
  induction items using chunks_induction size positive with
  | last items short =>
      rw [chunks_of_le short, List.mem_singleton] at member
      rw [member]
      exact short
  | more items long ih =>
      rw [chunks_of_lt positive long] at member
      rcases List.mem_cons.mp member with isHead | later
      · rw [isHead, List.length_take]
        exact Nat.min_le_left size items.length
      · exact ih later

theorem ne_nil_of_mem_chunks {size : Nat} (positive : 0 < size) {items piece : List α}
    (nonempty : items ≠ []) (member : piece ∈ chunks size items) : piece ≠ [] := by
  induction items using chunks_induction size positive with
  | last items short =>
      rw [chunks_of_le short, List.mem_singleton] at member
      rwa [member]
  | more items long ih =>
      rw [chunks_of_lt positive long] at member
      rcases List.mem_cons.mp member with isHead | later
      · rw [isHead]
        apply List.ne_nil_of_length_pos
        rw [List.length_take]
        omega
      · refine ih (List.ne_nil_of_length_pos ?_) later
        rw [List.length_drop]
        omega

theorem two_le_length_chunks {size : Nat} (positive : 0 < size) {items : List α}
    (long : size < items.length) : 2 ≤ (chunks size items).length := by
  have restLong : 0 < (items.drop size).length := by
    rw [List.length_drop]
    omega
  have restNonempty := List.length_pos_iff.mp restLong
  rw [chunks_of_lt positive long, List.length_cons,
    length_chunks size positive _ restNonempty]
  have atLeastOne : 1 ≤ ((items.drop size).length + size - 1) / size :=
    (Nat.one_le_div_iff positive).mpr (by omega)
  omega

theorem length_getLastD_le {size : Nat} (positive : 0 < size) {items piece : List α}
    (member : piece ∈ chunks size items) :
    ((chunks size items).getLastD []).length ≤ piece.length := by
  induction items using chunks_induction size positive with
  | last items short =>
      rw [chunks_of_le short] at member ⊢
      rw [List.mem_singleton.mp member]
      exact Nat.le_refl _
  | more items long ih =>
      rw [chunks_of_lt positive long] at member ⊢
      obtain ⟨next, others, shape⟩ :=
        List.exists_cons_of_ne_nil (chunks_ne_nil size (items.drop size))
      rw [shape] at member ih ⊢
      rw [List.getLastD_cons, List.getLastD_cons]
      rw [List.getLastD_cons] at ih
      rcases List.mem_cons.mp member with rfl | later
      · have inside : others.getLastD next ∈ chunks size (items.drop size) := by
          rw [shape]
          exact List.getLastD_mem_cons
        have bound := length_le_of_mem_chunks positive inside
        rw [List.length_take]
        omega
      · exact ih later

end Chunks
