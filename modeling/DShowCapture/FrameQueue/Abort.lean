/-
Whom an abort releases.

An abort wakes one sleeping getter.  The others stay asleep, although every getter that
enters or wakes up from then on returns at once; so nobody is left behind exactly when at
most one getter slept.
-/
import DShowCapture.FrameQueue.Wakeup

namespace DShowCapture

open ConditionVariable Runs

variable {Thread : Type} [DecidableEq Thread]

def QueueState.AbortsSafely (state : QueueState Thread) (action : QueueAction Thread) : Prop :=
  action.isAbort = true → state.waiters.asleep.card ≤ 1

def QueueState.Released (state : QueueState Thread) : Prop :=
  state.memory.queue.abortRequest = true → state.waiters.asleep = ∅

namespace Monitor

def Released (monitor : Monitor Thread) : Prop :=
  monitor.aborted = true → monitor.waiters.asleep = ∅

theorem Released.get {monitor : Monitor Thread} (released : monitor.Released) (thread : Thread)
    (block : Bool) : (monitor.get thread block).Released := by
  cases abortedEq : monitor.aborted with
  | true =>
      simp only [Monitor.get, abortedEq, if_true]
      exact fun _ => released abortedEq
  | false =>
      have stays : (monitor.get thread block).aborted = false := by
        simp only [Monitor.get, abortedEq, Bool.false_eq_true, if_false]
        cases monitor.frames with
        | nil => cases block <;> first | rfl | exact abortedEq
        | cons frame rest => rfl
      intro aborted
      rw [stays] at aborted
      cases aborted

theorem asleep_wake_eq_empty {waiters : Waiters Thread} {thread : Thread}
    (isAsleep : thread ∈ waiters.asleep) :
    (waiters.wake thread).asleep = ∅ ↔ waiters.asleep.card ≤ 1 := by
  have card := Finset.card_erase_of_mem isAsleep
  have positive := Finset.card_pos.mpr ⟨thread, isAsleep⟩
  rw [← Finset.card_eq_zero]
  change (waiters.asleep.erase thread).card = 0 ↔ _
  omega

theorem asleep_signal_eq_empty {waiters after : Waiters Thread} {choice : Option Thread}
    (signalled : waiters.signal choice = some after) :
    after.asleep = ∅ ↔ waiters.asleep.card ≤ 1 := by
  rcases Waiters.signal_cases signalled with ⟨nobody, rfl⟩ | ⟨thread, isAsleep, rfl⟩
  · simp [nobody]
  · exact asleep_wake_eq_empty isAsleep

theorem Released.step {monitor after : Monitor Thread} {action : QueueAction Thread}
    (released : monitor.Released)
    (safely : action.isAbort = true → monitor.waiters.asleep.card ≤ 1)
    (taken : monitor.step action = some after) : after.Released := by
  cases action with
  | put thread frame frame1 choice =>
      obtain ⟨_, stepEq⟩ := Option.ite_none_right_eq_some.mp taken
      cases abortedEq : monitor.aborted with
      | true =>
          rw [if_pos abortedEq] at stepEq
          cases stepEq
          exact released
      | false =>
          rw [if_neg (by simp [abortedEq])] at stepEq
          obtain ⟨waiters, _, rfl⟩ := Option.map_eq_some_iff.mp stepEq
          intro aborted
          rw [show monitor.aborted = true from aborted] at abortedEq
          cases abortedEq
  | get thread block =>
      obtain ⟨_, stepEq⟩ := Option.ite_none_right_eq_some.mp taken
      cases stepEq
      exact released.get thread block
  | resume thread =>
      obtain ⟨_, stepEq⟩ := Option.ite_none_right_eq_some.mp taken
      cases stepEq
      exact released.get thread true
  | wakeUp thread =>
      obtain ⟨isAsleep, stepEq⟩ := Option.ite_none_right_eq_some.mp taken
      cases stepEq
      intro aborted
      rw [released aborted] at isAsleep
      exact absurd isAsleep (Finset.notMem_empty thread)
  | flush thread rounds =>
      obtain ⟨_, stepEq⟩ := Option.ite_none_right_eq_some.mp taken
      cases stepEq
      exact released
  | abort thread choice =>
      obtain ⟨_, stepEq⟩ := Option.ite_none_right_eq_some.mp taken
      obtain ⟨waiters, signalled, rfl⟩ := Option.map_eq_some_iff.mp stepEq
      exact fun _ => (asleep_signal_eq_empty signalled).mpr (safely rfl)
  | start thread =>
      obtain ⟨_, stepEq⟩ := Option.ite_none_right_eq_some.mp taken
      cases stepEq
      intro aborted
      cases aborted
  | count thread =>
      obtain ⟨_, stepEq⟩ := Option.ite_none_right_eq_some.mp taken
      cases stepEq
      exact released

end Monitor

namespace QueueState

/-- In every run whose aborts find at most one getter asleep, no getter sleeps on an aborted
queue. -/
theorem released_of_reaches {state : QueueState Thread}
    (reached : Reaches step AbortsSafely started state) : state.Released := by
  let property (state : QueueState Thread) : Prop :=
    ∃ monitor cells, state.Represents monitor cells ∧ monitor.Released
  have holds : property state := by
    have atStart : property started :=
      ⟨Monitor.started, [], represents_started, fun aborted => by cases aborted⟩
    apply reached.invariant atStart
    rintro before action after ⟨monitor, cells, represents, released⟩ safely taken
    obtain ⟨monitorAfter, cellsAfter, monitorTaken, representsAfter⟩ := represents.step taken
    refine ⟨monitorAfter, cellsAfter, representsAfter, released.step ?_ monitorTaken⟩
    rw [represents.waiters]
    exact safely
  rcases holds with ⟨monitor, cells, represents, released⟩
  intro aborted
  rw [← represents.waiters]
  exact released (represents.aborted.trans aborted)

/-- The condition cannot be weakened: an abort that finds more getters asleep leaves one
behind. -/
theorem released_abort_iff {state after : QueueState Thread} {thread : Thread}
    {choice : Option Thread} (taken : state.step (.abort thread choice) = some after) :
    after.Released ↔ state.AbortsSafely (.abort thread choice) := by
  obtain ⟨_, stepEq⟩ := Option.ite_none_right_eq_some.mp taken
  obtain ⟨waiters, signalled, rfl⟩ := Option.map_eq_some_iff.mp stepEq
  have released := Monitor.asleep_signal_eq_empty signalled
  exact ⟨fun empty _ => released.mp (empty rfl), fun safely _ => released.mpr (safely rfl)⟩

/-- One getter sleeps when the queue is aborted. -/
theorem released_of_reaches_oneGetter :
    let actions : List (QueueAction Nat) := [.get 1 true, .abort 0 (some 1), .resume 1]
    ∃ state, run step
        (fun before action => !action.isAbort || before.waiters.asleep.card ≤ 1)
        started actions = some state ∧
      state.memory.queue.abortRequest = true ∧ state.Released := by
  intro actions
  have runs : ((run step
        (fun before action => !action.isAbort || before.waiters.asleep.card ≤ 1)
        started actions).map fun state => state.memory.queue.abortRequest) = some true := by
    decide
  obtain ⟨state, ran, aborted⟩ := Option.map_eq_some_iff.mp runs
  refine ⟨state, ran, aborted, released_of_reaches (reaches_of_run ?_ .start ran)⟩
  intro before action checked isAbort
  simpa [isAbort] using checked

/-- Two getters sleep when the queue is aborted, and one of them stays asleep. -/
theorem not_released_twoGetters :
    let actions : List (QueueAction Nat) :=
      [.get 1 true, .get 2 true, .abort 0 (some 1), .resume 1]
    ∃ state, run step (fun _ _ => true) started actions = some state ∧
      state.memory.queue.abortRequest = true ∧ 2 ∈ state.waiters.asleep ∧
      2 ∉ state.waiters.woken := by
  intro actions
  have runs : ((run step (fun _ _ => true) started actions).map fun state =>
      (state.memory.queue.abortRequest, decide (2 ∈ state.waiters.asleep),
        decide (2 ∉ state.waiters.woken))) = some (true, true, true) := by
    decide
  obtain ⟨state, ran, result⟩ := Option.map_eq_some_iff.mp runs
  obtain ⟨aborted, later⟩ := Prod.mk.inj result
  obtain ⟨asleep, notWoken⟩ := Prod.mk.inj later
  exact ⟨state, ran, aborted, of_decide_eq_true asleep, of_decide_eq_true notWoken⟩

end QueueState

end DShowCapture
