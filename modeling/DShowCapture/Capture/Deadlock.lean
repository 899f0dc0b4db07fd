/-
Whether the capture callback can block itself.

In the YUY2 branch the callback asks for the number of frames and then takes one, in two
sections of the mutex.  When the sender takes the frame in between, the callback waits for
a put that nobody but itself would do.
-/
import DShowCapture.Capture

namespace DShowCapture

open ConditionVariable Runs

namespace Capture

/-- The callback waits inside `frame_queue_get` on an empty queue. -/
def CallbackBlocked (capture : Capture) : Prop :=
  (.callback ∈ capture.queue.waiters.asleep ∨ .callback ∈ capture.queue.waiters.woken) ∧
    capture.queue.memory.queue.firstFrame = none

/-- The sender takes a frame between the count of the callback and its get. -/
def StealsFrame (capture : Capture) (action : CaptureAction) : Prop :=
  capture.point = .dropping ∧ action.senderTakes = true ∧
    capture.queue.memory.queue.firstFrame ≠ none

structure Unblocked (capture : Capture) : Prop where
  queues : ∃ frames, capture.queue.Queues frames ∧ (capture.point = .dropping → frames ≠ [])
  outside : capture.queue.waiters.Outside .callback

theorem unblocked_initial : initial.Unblocked :=
  { queues := ⟨[], QueueState.queues_started, fun atGet => by cases atGet⟩
    outside := ⟨Finset.notMem_empty _, Finset.notMem_empty _⟩ }

theorem Unblocked.senderGet {capture : Capture} (unblocked : capture.Unblocked)
    (notDropping : capture.point ≠ .dropping) : capture.senderGet.Unblocked := by
  rcases unblocked with ⟨⟨frames, queues, _⟩, outside⟩
  cases frames with
  | nil =>
      obtain ⟨_, after⟩ := queues.get_of_empty .sender
      refine { queues := ⟨[], ?_, fun atGet => absurd atGet notDropping⟩, outside := ?_ }
      · simp only [Capture.senderGet, after]
        exact { cells := queues.cells, running := queues.running }
      · simp only [Capture.senderGet, after]
        exact outside.sleep (by decide)
  | cons frame rest =>
      obtain ⟨_, after, waitersEq, _⟩ := queues.get .sender
      refine { queues := ⟨rest, after, fun atGet => absurd atGet notDropping⟩, outside := ?_ }
      simp only [Capture.senderGet, waitersEq]
      exact outside.leave

theorem Unblocked.step {video : VidParam} {before after : Capture} {action : CaptureAction}
    (unblocked : before.Unblocked) (fair : ¬ before.StealsFrame action)
    (taken : before.step video action = some after) : after.Unblocked := by
  have takes := unblocked.senderGet
  rcases unblocked with ⟨⟨frames, queues, counted⟩, outside⟩
  have notDropping : action.senderTakes = true → before.point ≠ .dropping := by
    intro isTake atGet
    refine fair ⟨atGet, isTake, ?_⟩
    rcases queues.cells with ⟨cells, holds, rfl⟩
    cases cells with
    | nil => exact absurd rfl (counted atGet)
    | cons cell rest =>
        rw [holds.list.1]
        exact Option.some_ne_none _
  cases action with
  | convert =>
      obtain ⟨_, stepEq⟩ := Option.ite_none_right_eq_some.mp taken
      cases stepEq
      refine { queues := ⟨frames, queues, ?_⟩, outside := outside }
      intro atGet
      by_cases isYuy2 : video.nColorFormat = .yuy2
      · simp [isYuy2] at atGet
      · simp [isYuy2] at atGet
  | count =>
      obtain ⟨_, stepEq⟩ := Option.ite_none_right_eq_some.mp taken
      obtain ⟨queue, counts, rfl⟩ := Option.map_eq_some_iff.mp stepEq
      obtain rfl := QueueState.step_count counts
      refine
        { queues := ⟨frames, { cells := queues.cells, running := queues.running }, ?_⟩
          outside := outside }
      intro atGet
      by_cases some : 0 < before.queue.memory.queue.nbPackets
      · rw [queues.count] at some
        exact List.ne_nil_of_length_pos (by omega)
      · simp [some] at atGet
  | drop =>
      obtain ⟨enabled, stepEq⟩ := Option.ite_none_right_eq_some.mp taken
      cases stepEq
      obtain ⟨frame, rest, rfl⟩ := List.exists_cons_of_ne_nil (counted enabled.1)
      obtain ⟨roundEq, queuesAfter, waitersEq, _⟩ := queues.get .callback
      refine { queues := ⟨rest, queuesAfter, ?_⟩, outside := ?_ }
      · simp [callbackGet, roundEq]
      · simp only [callbackGet, waitersEq]
        exact outside.leave
  | put frame1 wakes =>
      obtain ⟨_, stepEq⟩ := Option.ite_none_right_eq_some.mp taken
      obtain ⟨queue, puts, rfl⟩ := Option.map_eq_some_iff.mp stepEq
      obtain ⟨queuesAfter, signalled, _⟩ := queues.put puts
      exact
        { queues := ⟨_, queuesAfter, fun atGet => by cases atGet⟩
          outside := outside.signal signalled }
  | senderGet =>
      obtain ⟨_, stepEq⟩ := Option.ite_none_right_eq_some.mp taken
      cases stepEq
      exact takes (notDropping rfl)
  | encode =>
      obtain ⟨entry, _, rfl⟩ := Option.map_eq_some_iff.mp taken
      exact { queues := ⟨frames, queues, counted⟩, outside := outside }
  | resume thread =>
      cases thread with
      | callback =>
          obtain ⟨isWoken, _⟩ := Option.ite_none_right_eq_some.mp taken
          exact absurd isWoken outside.2
      | sender =>
          obtain ⟨_, stepEq⟩ := Option.ite_none_right_eq_some.mp taken
          cases stepEq
          exact takes (notDropping rfl)
  | wakeUp thread =>
      obtain ⟨queue, wakes, rfl⟩ := Option.map_eq_some_iff.mp taken
      obtain ⟨isAsleep, rfl⟩ := QueueState.step_wakeUp wakes
      exact
        { queues := ⟨frames, { cells := queues.cells, running := queues.running }, counted⟩
          outside := outside.wake isAsleep }

/-- As long as the sender takes no frame between the count of the callback and its get, the
callback never waits on an empty queue. -/
theorem not_callbackBlocked {video : VidParam} {capture : Capture}
    (reached : Reaches (step video) (fun before action => ¬ before.StealsFrame action) initial
      capture) : ¬ capture.CallbackBlocked := by
  have unblocked := reached.invariant unblocked_initial
    fun _ _ _ before fair taken => before.step fair taken
  rintro ⟨isAsleep | isWoken, _⟩
  · exact unblocked.outside.1 isAsleep
  · exact unblocked.outside.2 isWoken

private def smallVideo (format : ColorFormat) : VidParam :=
  { nColorFormat := format, nWidth := 2, nHeight := 2, pYUVBuf := 4096 }

private def stealsFrame? (capture : Capture) (action : CaptureAction) : Bool :=
  capture.point == .dropping && action.senderTakes &&
    capture.queue.memory.queue.firstFrame.isSome

/-- The callback drops its first frame for the second, and the sender takes that. -/
theorem not_callbackBlocked_drop :
    let actions : List CaptureAction :=
      [.convert, .count, .put 8 none, .convert, .count, .drop, .put 8 none, .senderGet]
    ∃ capture, run (step (smallVideo .yuy2)) (fun before action => !stealsFrame? before action)
        initial actions = some capture ∧ ¬ capture.CallbackBlocked := by
  intro actions
  have runs : (run (step (smallVideo .yuy2))
      (fun before action => !stealsFrame? before action) initial actions).isSome = true := by
    decide
  obtain ⟨capture, ran⟩ := Option.isSome_iff_exists.mp runs
  refine ⟨capture, ran, not_callbackBlocked (reaches_of_run ?_ .start ran)⟩
  rintro before action fair ⟨atGet, takes, someFrame⟩
  have found := Option.isSome_iff_ne_none.mpr someFrame
  simp [stealsFrame?, atGet, takes, found] at fair

/-- The sender takes the only frame after the callback has counted it. -/
theorem callbackBlocked_reached :
    ∃ capture, Reaches (step (smallVideo .yuy2)) anyStep initial capture ∧
      capture.CallbackBlocked := by
  let actions : List CaptureAction :=
    [.convert, .count, .put 8 none, .convert, .count, .senderGet, .drop]
  have runs : (run (step (smallVideo .yuy2)) (fun _ _ => true) initial actions).isSome = true ∧
      ∀ capture, run (step (smallVideo .yuy2)) (fun _ _ => true) initial actions = some capture →
        .callback ∈ capture.queue.waiters.asleep ∧
          capture.queue.memory.queue.firstFrame = none := by
    decide
  obtain ⟨capture, ran⟩ := Option.isSome_iff_exists.mp runs.1
  have final := runs.2 capture ran
  exact ⟨capture, reaches_of_run (fun _ _ _ => trivial) .start ran, Or.inl final.1, final.2⟩

end Capture

end DShowCapture
