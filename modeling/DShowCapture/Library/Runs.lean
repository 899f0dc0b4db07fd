/-
Runs of a state machine.

The machine is a partial step function: an action that is not enabled has no successor.
A run may be restricted to steps that are permitted in the state they are taken in.
-/

namespace Runs

variable {State Action : Type}

/-- The states that permitted steps reach. -/
inductive Reaches (step : State → Action → Option State) (permitted : State → Action → Prop)
    (initial : State) : State → Prop
  | start : Reaches step permitted initial initial
  | next {before after : State} {action : Action}
      (reached : Reaches step permitted initial before) (allowed : permitted before action)
      (taken : step before action = some after) : Reaches step permitted initial after

def anyStep : State → Action → Prop := fun _ _ => True

variable {step : State → Action → Option State} {permitted : State → Action → Prop}
  {initial : State}

/-- What holds at the start and is preserved by each permitted step holds in every state
reached. -/
theorem Reaches.invariant {property : State → Prop} (holds : property initial)
    (preserved : ∀ before action after, property before → permitted before action →
      step before action = some after → property after)
    {state : State} (reached : Reaches step permitted initial state) : property state := by
  induction reached with
  | start => exact holds
  | next _ allowed taken ih => exact preserved _ _ _ ih allowed taken

def run (step : State → Action → Option State) (check : State → Action → Bool) :
    State → List Action → Option State
  | state, [] => some state
  | state, action :: rest =>
      if check state action then (step state action).bind fun next => run step check next rest
      else none

theorem reaches_of_run {check : State → Action → Bool}
    (permits : ∀ state action, check state action = true → permitted state action)
    {state final : State} {actions : List Action}
    (reached : Reaches step permitted initial state)
    (ran : run step check state actions = some final) : Reaches step permitted initial final := by
  induction actions generalizing state with
  | nil =>
      cases ran
      exact reached
  | cons action rest ih =>
      simp only [run] at ran
      split at ran
      · rename_i checked
        obtain ⟨next, taken, later⟩ := Option.bind_eq_some_iff.mp ran
        exact ih (.next reached (permits state action checked) taken) later
      · cases ran

end Runs
