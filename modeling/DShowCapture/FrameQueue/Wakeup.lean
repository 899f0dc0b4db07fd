/-
No wake-up is lost.

As long as a getter sleeps, there are at least as many woken getters on their way to the
mutex as frames queued: each put wakes one, and a getter that comes in first takes a frame
for which a woken one then finds nothing.
-/
import DShowCapture.FrameQueue.Monitor

namespace DShowCapture

open LinkedList ConditionVariable Runs

variable {Thread : Type}

def QueueState.started : QueueState Thread :=
  { memory := { queue := { FrameQueue.init with abortRequest := false }, nodes := fun _ => none }
    waiters := Waiters.nobody
    history := [] }

def QueueAction.isAbort : QueueAction Thread → Bool
  | .abort _ _ => true
  | _ => false

namespace Monitor

def started : Monitor Thread :=
  { frames := [], aborted := false, waiters := Waiters.nobody, history := [] }

structure WakesEnough (monitor : Monitor Thread) : Prop where
  running : monitor.aborted = false
  enough : monitor.waiters.asleep.Nonempty →
    monitor.frames.length ≤ monitor.waiters.woken.card

variable [DecidableEq Thread]

theorem WakesEnough.get {monitor : Monitor Thread} (wakes : monitor.WakesEnough)
    (thread : Thread) (block : Bool) : (monitor.get thread block).WakesEnough := by
  have running := wakes.running
  simp only [Monitor.get, running, Bool.false_eq_true, if_false]
  cases framesEq : monitor.frames with
  | nil =>
      cases block with
      | true => exact { running := rfl, enough := fun _ => Nat.zero_le _ }
      | false =>
          refine { running := running, enough := fun _ => ?_ }
          change monitor.frames.length ≤ _
          rw [framesEq]
          exact Nat.zero_le _
  | cons frame rest =>
      refine { running := rfl, enough := fun sleeping => ?_ }
      have before := wakes.enough sleeping
      have leaves : monitor.waiters.woken.card - 1 ≤ (monitor.waiters.woken.erase thread).card :=
        Finset.pred_card_le_card_erase
      rw [framesEq, List.length_cons] at before
      exact Nat.le_trans (Nat.le_sub_one_of_lt before) leaves

theorem WakesEnough.step {monitor after : Monitor Thread} {action : QueueAction Thread}
    (wakes : monitor.WakesEnough) (running : action.isAbort = false)
    (taken : monitor.step action = some after) : after.WakesEnough := by
  have notAborted := wakes.running
  cases action with
  | put thread frame frame1 choice =>
      obtain ⟨_, stepEq⟩ := Option.ite_none_right_eq_some.mp taken
      rw [if_neg (by simp [notAborted])] at stepEq
      obtain ⟨waiters, signalled, rfl⟩ := Option.map_eq_some_iff.mp stepEq
      refine { running := notAborted, enough := fun sleeping => ?_ }
      rcases Waiters.signal_cases signalled with ⟨nobody, rfl⟩ | ⟨woken, isAsleep, rfl⟩
      · rw [nobody] at sleeping
        exact absurd sleeping Finset.not_nonempty_empty
      · have before := wakes.enough ⟨woken, isAsleep⟩
        rw [Waiters.card_wake isAsleep, List.length_append, List.length_singleton]
        omega
  | get thread block =>
      obtain ⟨_, stepEq⟩ := Option.ite_none_right_eq_some.mp taken
      cases stepEq
      exact wakes.get thread block
  | resume thread =>
      obtain ⟨_, stepEq⟩ := Option.ite_none_right_eq_some.mp taken
      cases stepEq
      exact wakes.get thread true
  | wakeUp thread =>
      obtain ⟨isAsleep, stepEq⟩ := Option.ite_none_right_eq_some.mp taken
      cases stepEq
      refine { running := notAborted, enough := fun _ => ?_ }
      have before := wakes.enough ⟨thread, isAsleep⟩
      rw [Waiters.card_wake isAsleep]
      exact Nat.le_succ_of_le before
  | flush thread rounds =>
      obtain ⟨_, stepEq⟩ := Option.ite_none_right_eq_some.mp taken
      cases stepEq
      exact { running := notAborted, enough := fun _ => Nat.zero_le _ }
  | abort thread choice => cases running
  | start thread =>
      obtain ⟨_, stepEq⟩ := Option.ite_none_right_eq_some.mp taken
      cases stepEq
      exact { running := rfl, enough := wakes.enough }
  | count thread =>
      obtain ⟨_, stepEq⟩ := Option.ite_none_right_eq_some.mp taken
      cases stepEq
      exact { running := notAborted, enough := wakes.enough }

end Monitor

namespace QueueState

theorem represents_started :
    (started : QueueState Thread).Represents Monitor.started [] :=
  { holds :=
      { list := rfl
        last := rfl
        count := rfl
        addresses := fun _ member => absurd member List.not_mem_nil }
    frames := rfl
    aborted := rfl
    waiters := rfl
    history := rfl }

variable [DecidableEq Thread]

/-- On a started queue that is never aborted, no more frames are queued than getters have
been woken, as long as some getter sleeps; so nobody sleeps next to a frame that is left to
itself. -/
theorem queued_le_woken {state : QueueState Thread}
    (reached : Reaches step (fun _ action => action.isAbort = false) started state)
    (sleeping : state.waiters.asleep.Nonempty) :
    ∃ cells, IsList state.memory.nodes state.memory.queue.firstFrame cells ∧
      state.memory.queue.nbPackets = cells.length ∧
      cells.length ≤ state.waiters.woken.card ∧
      (cells ≠ [] → state.waiters.woken.Nonempty) := by
  obtain ⟨monitor, cells, monitorReached, represents⟩ :=
    represents_of_reaches represents_started reached
  have wakes : monitor.WakesEnough := monitorReached.invariant
    { running := rfl, enough := fun _ => Nat.zero_le _ }
    fun _ _ _ before running taken => before.step running taken
  have bound := wakes.enough (by rw [represents.waiters]; exact sleeping)
  rw [represents.frames, List.length_map, represents.waiters] at bound
  refine ⟨cells, represents.holds.list, represents.holds.count, bound, fun someFrame => ?_⟩
  exact Finset.card_pos.mp (Nat.lt_of_lt_of_le (List.length_pos_iff.mpr someFrame) bound)

/-- Two getters sleep when a frame arrives. -/
theorem queued_le_woken_two_getters :
    let actions : List (QueueAction Nat) :=
      [.get 1 true, .get 2 true, .put 0 { frame := 1, bufsize := 6 } 8 (some 1)]
    ∃ state, run step (fun _ action => !action.isAbort) started actions = some state ∧
      ∃ cells, IsList state.memory.nodes state.memory.queue.firstFrame cells ∧
        state.memory.queue.nbPackets = cells.length ∧
        cells.length ≤ state.waiters.woken.card ∧
        (cells ≠ [] → state.waiters.woken.Nonempty) := by
  intro actions
  have runs : (run step (fun _ action => !action.isAbort) started actions).isSome = true ∧
      ∀ state, run step (fun _ action => !action.isAbort) started actions = some state →
        state.waiters.asleep = {2} := by
    decide
  obtain ⟨state, ran⟩ := Option.isSome_iff_exists.mp runs.1
  refine ⟨state, ran, queued_le_woken (reaches_of_run ?_ .start ran) ?_⟩
  · intro _ action checked
    simpa using checked
  · rw [runs.2 state ran]
    exact Finset.singleton_nonempty 2

end QueueState

end DShowCapture
