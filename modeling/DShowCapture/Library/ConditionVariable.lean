/-
The threads at a condition variable.

A thread that waits is asleep until a signal or a spurious wake-up reaches it, and then
woken until it has re-acquired the mutex.
-/
import Mathlib.Data.Finset.Card

namespace ConditionVariable

structure Waiters (Thread : Type) where
  asleep : Finset Thread
  woken : Finset Thread
  apart : Disjoint asleep woken

namespace Waiters

variable {Thread : Type}

def nobody : Waiters Thread := { asleep := ∅, woken := ∅, apart := Finset.disjoint_empty_left ∅ }

variable [DecidableEq Thread]

def Outside (self : Waiters Thread) (thread : Thread) : Prop :=
  thread ∉ self.asleep ∧ thread ∉ self.woken

instance (self : Waiters Thread) (thread : Thread) : Decidable (self.Outside thread) :=
  inferInstanceAs (Decidable (_ ∧ _))

/-- The thread enters the wait, for the first time or again. -/
def sleep (self : Waiters Thread) (thread : Thread) : Waiters Thread :=
  { asleep := insert thread self.asleep
    woken := self.woken.erase thread
    apart := by
      refine Finset.disjoint_insert_left.mpr ⟨Finset.notMem_erase thread self.woken, ?_⟩
      exact Finset.disjoint_of_subset_right (Finset.erase_subset thread self.woken) self.apart }

def wake (self : Waiters Thread) (thread : Thread) : Waiters Thread :=
  { asleep := self.asleep.erase thread
    woken := insert thread self.woken
    apart := by
      refine Finset.disjoint_insert_right.mpr ⟨Finset.notMem_erase thread self.asleep, ?_⟩
      exact Finset.disjoint_of_subset_left (Finset.erase_subset thread self.asleep) self.apart }

def leave (self : Waiters Thread) (thread : Thread) : Waiters Thread :=
  { asleep := self.asleep
    woken := self.woken.erase thread
    apart := Finset.disjoint_of_subset_right (Finset.erase_subset thread self.woken) self.apart }

def signal (self : Waiters Thread) : Option Thread → Option (Waiters Thread)
  | none => if self.asleep = ∅ then some self else none
  | some thread => if thread ∈ self.asleep then some (self.wake thread) else none

theorem card_wake {self : Waiters Thread} {thread : Thread} (sleeping : thread ∈ self.asleep) :
    (self.wake thread).woken.card = self.woken.card + 1 :=
  Finset.card_insert_of_notMem (Finset.disjoint_left.mp self.apart sleeping)

section Outside

variable {self : Waiters Thread} {thread other : Thread}

theorem Outside.wake (outside : self.Outside thread) (isAsleep : other ∈ self.asleep) :
    (self.wake other).Outside thread := by
  have differ : thread ≠ other := by
    rintro rfl
    exact outside.1 isAsleep
  exact ⟨fun member => outside.1 (Finset.mem_of_mem_erase member),
    fun member => (Finset.mem_insert.mp member).elim differ outside.2⟩

theorem Outside.sleep (outside : self.Outside thread) (differ : thread ≠ other) :
    (self.sleep other).Outside thread :=
  ⟨fun member => (Finset.mem_insert.mp member).elim differ outside.1,
    fun member => outside.2 (Finset.mem_of_mem_erase member)⟩

theorem Outside.leave (outside : self.Outside thread) : (self.leave other).Outside thread :=
  ⟨outside.1, fun member => outside.2 (Finset.mem_of_mem_erase member)⟩

theorem outside_leave_of_mem (isWoken : thread ∈ self.woken) :
    (self.leave thread).Outside thread :=
  ⟨fun isAsleep => Finset.disjoint_left.mp self.apart isAsleep isWoken,
    Finset.notMem_erase thread self.woken⟩

end Outside

theorem signal_cases {self after : Waiters Thread} {choice : Option Thread}
    (signalled : self.signal choice = some after) :
    (self.asleep = ∅ ∧ after = self) ∨
      ∃ thread, thread ∈ self.asleep ∧ after = self.wake thread := by
  cases choice with
  | none =>
      simp only [signal] at signalled
      split at signalled
      · rename_i noneAsleep
        exact Or.inl ⟨noneAsleep, (Option.some.inj signalled).symm⟩
      · cases signalled
  | some thread =>
      simp only [signal] at signalled
      split at signalled
      · rename_i sleeping
        exact Or.inr ⟨thread, sleeping, (Option.some.inj signalled).symm⟩
      · cases signalled

theorem Outside.signal {self after : Waiters Thread} {thread : Thread} {choice : Option Thread}
    (outside : self.Outside thread) (signalled : self.signal choice = some after) :
    after.Outside thread := by
  rcases signal_cases signalled with ⟨_, rfl⟩ | ⟨woken, isAsleep, rfl⟩
  · exact outside
  · exact outside.wake isAsleep

end Waiters

end ConditionVariable
