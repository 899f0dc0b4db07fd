/-
Stores whose values come from one image.

A routine may fill a buffer in any order and more than once: as long as each store takes its
value from the same image, only the region it covers matters.
-/
import Mathlib.Data.Set.Insert
import Mathlib.Logic.Function.Basic

variable {α β : Type}

/-- The region shows the image, and nothing else has changed. -/
structure Painted (image before after : α → β) (region : Set α) : Prop where
  inside : ∀ place, place ∈ region → after place = image place
  outside : ∀ place, place ∉ region → after place = before place

namespace Painted

variable {image before between after : α → β} {region first second : Set α}

theorem blank (image before : α → β) : Painted image before before ∅ where
  inside _ impossible := absurd impossible (Set.notMem_empty _)
  outside _ _ := rfl

theorem update [DecidableEq α] (before : α → β) {place : α} {value : β}
    (shown : value = image place) :
    Painted image before (Function.update before place value) {place} := by
  constructor
  · intro other same
    rw [Set.mem_singleton_iff.mp same, Function.update_self, shown]
  · intro other different
    exact Function.update_of_ne different value before

theorem trans (painted : Painted image before between first)
    (continued : Painted image between after second) :
    Painted image before after (first ∪ second) := by
  constructor
  · intro place member
    by_cases again : place ∈ second
    · exact continued.inside place again
    · rw [continued.outside place again]
      exact painted.inside place (member.resolve_right again)
  · intro place member
    have apart : ¬ (place ∈ first ∨ place ∈ second) := member
    rw [not_or] at apart
    rw [continued.outside place apart.2]
    exact painted.outside place apart.1

theorem region_congr (painted : Painted image before after first)
    (same : ∀ place, place ∈ first ↔ place ∈ second) : Painted image before after second :=
  Set.ext same ▸ painted

/-- Another image shows in the region if and only if it is the same there. -/
theorem shows_iff {other : α → β} (painted : Painted image before after region) :
    Painted other before after region ↔ ∀ place, place ∈ region → image place = other place := by
  constructor
  · intro shown place member
    rw [← painted.inside place member, shown.inside place member]
  · intro same
    constructor
    · intro place member
      rw [painted.inside place member, same place member]
    · exact painted.outside

end Painted
