/-
What the frame queue guarantees over all interleavings.

The calls leave a history.  In every state that is reached, the list of nodes is sound,
the frames come out in the order they went in, and every frame that was handed to the
queue is in one place.
-/
import DShowCapture.FrameQueue.Monitor
import Mathlib.Data.List.Perm.Basic

namespace DShowCapture

open FixedWidth LinkedList ConditionVariable Runs

/-! ### Histories -/

namespace QueueEvent

def accepted? : QueueEvent → Option StreamBuf
  | .put frame ret _ => if ret < 0 then none else some frame
  | _ => none

def refused : QueueEvent → List StreamBuf
  | .put _ _ freed => freed
  | _ => []

def handed? : QueueEvent → Option StreamBuf
  | .put frame _ _ => some frame
  | _ => none

def delivered? : QueueEvent → Option StreamBuf
  | .get _ frame => frame
  | _ => none

def flushed : QueueEvent → List StreamBuf
  | .flush freed => freed
  | _ => []

end QueueEvent

def accepted (history : List QueueEvent) : List StreamBuf :=
  history.filterMap QueueEvent.accepted?

def refused (history : List QueueEvent) : List StreamBuf := history.flatMap QueueEvent.refused

def handed (history : List QueueEvent) : List StreamBuf := history.filterMap QueueEvent.handed?

def delivered (history : List QueueEvent) : List StreamBuf :=
  history.filterMap QueueEvent.delivered?

def flushed (history : List QueueEvent) : List StreamBuf := history.flatMap QueueEvent.flushed

section Append

variable (history : List QueueEvent) (event : QueueEvent)

theorem accepted_append_singleton :
    accepted (history ++ [event]) = accepted history ++ event.accepted?.toList := by
  cases shape : event.accepted? <;> simp [accepted, shape]

theorem refused_append_singleton :
    refused (history ++ [event]) = refused history ++ event.refused := by
  simp [refused]

theorem handed_append_singleton :
    handed (history ++ [event]) = handed history ++ event.handed?.toList := by
  cases shape : event.handed? <;> simp [handed, shape]

theorem delivered_append_singleton :
    delivered (history ++ [event]) = delivered history ++ event.delivered?.toList := by
  cases shape : event.delivered? <;> simp [delivered, shape]

theorem flushed_append_singleton :
    flushed (history ++ [event]) = flushed history ++ event.flushed := by
  simp [flushed]

end Append

/-- The events of `epoch`, which follow those of `earlier`, begin at the start or right
behind a flush, and no flush is among them. -/
structure Epoch (earlier epoch : List QueueEvent) : Prop where
  begins : earlier = [] ∨ ∃ before freed, earlier = before ++ [.flush freed]
  noFlush : ∀ freed, QueueEvent.flush freed ∉ epoch

/-! ### The effect of a step -/

inductive Effect : List StreamBuf → QueueEvent → List StreamBuf → Prop
  | accept (frames : List StreamBuf) (frame : StreamBuf) :
      Effect frames (.put frame 0 []) (frames ++ [frame])
  | refuse (frames : List StreamBuf) (frame : StreamBuf) :
      Effect frames (.put frame (-1) [frame]) frames
  | deliver (frame : StreamBuf) (rest : List StreamBuf) :
      Effect (frame :: rest) (.get 1 (some frame)) rest
  | nothing (frames : List StreamBuf) (ret : Int) : Effect frames (.get ret none) frames
  | flush (frames : List StreamBuf) : Effect frames (.flush frames) []
  | count (frames : List StreamBuf) : Effect frames (.count frames.length) frames

namespace Monitor

variable {Thread : Type}

def Moves (before after : Monitor Thread) : Prop :=
  (after.frames = before.frames ∧ after.history = before.history) ∨
    ∃ event, Effect before.frames event after.frames ∧ after.history = before.history ++ [event]

variable [DecidableEq Thread]

theorem moves_get (monitor : Monitor Thread) (thread : Thread) (block : Bool) :
    monitor.Moves (monitor.get thread block) := by
  simp only [get, returns]
  split
  · exact Or.inr ⟨.get (-1) none, .nothing _ _, rfl⟩
  · split
    · rename_i frame rest framesEq
      refine Or.inr ⟨.get 1 (some frame), ?_, rfl⟩
      rw [framesEq]
      exact .deliver frame rest
    · rename_i framesEq
      split
      · refine Or.inr ⟨.get 0 none, ?_, rfl⟩
        exact .nothing _ _
      · exact Or.inl ⟨rfl, rfl⟩

theorem moves_step {monitor after : Monitor Thread} {action : QueueAction Thread}
    (taken : monitor.step action = some after) : monitor.Moves after := by
  cases action with
  | put thread frame frame1 wakes =>
      obtain ⟨_, stepEq⟩ := Option.ite_none_right_eq_some.mp taken
      split at stepEq
      · cases stepEq
        exact Or.inr ⟨.put frame (-1) [frame], .refuse _ _, rfl⟩
      · obtain ⟨waiters, _, rfl⟩ := Option.map_eq_some_iff.mp stepEq
        exact Or.inr ⟨.put frame 0 [], .accept _ _, rfl⟩
  | get thread block =>
      obtain ⟨_, stepEq⟩ := Option.ite_none_right_eq_some.mp taken
      cases stepEq
      exact moves_get monitor thread block
  | resume thread =>
      obtain ⟨_, stepEq⟩ := Option.ite_none_right_eq_some.mp taken
      cases stepEq
      exact moves_get monitor thread true
  | wakeUp thread =>
      obtain ⟨_, stepEq⟩ := Option.ite_none_right_eq_some.mp taken
      cases stepEq
      exact Or.inl ⟨rfl, rfl⟩
  | flush thread rounds =>
      obtain ⟨_, stepEq⟩ := Option.ite_none_right_eq_some.mp taken
      cases stepEq
      exact Or.inr ⟨.flush monitor.frames, .flush _, rfl⟩
  | abort thread wakes =>
      obtain ⟨_, stepEq⟩ := Option.ite_none_right_eq_some.mp taken
      obtain ⟨waiters, _, rfl⟩ := Option.map_eq_some_iff.mp stepEq
      exact Or.inl ⟨rfl, rfl⟩
  | start thread =>
      obtain ⟨_, stepEq⟩ := Option.ite_none_right_eq_some.mp taken
      cases stepEq
      exact Or.inl ⟨rfl, rfl⟩
  | count thread =>
      obtain ⟨_, stepEq⟩ := Option.ite_none_right_eq_some.mp taken
      cases stepEq
      exact Or.inr ⟨.count monitor.frames.length, .count _, rfl⟩

end Monitor

/-! ### Order -/

/-- Frames that are accepted in an epoch are delivered in it or still queued. -/
def QueuesInOrder (history : List QueueEvent) (frames : List StreamBuf) : Prop :=
  ∀ earlier epoch, history = earlier ++ epoch → Epoch earlier epoch →
    accepted epoch = delivered epoch ++ frames

/-- Within each epoch the frames that gets return are those that were put, in the same order
and with none left out. -/
def DeliversInOrder (history : List QueueEvent) : Prop :=
  ∀ earlier epoch later, history = earlier ++ (epoch ++ later) → Epoch earlier epoch →
    delivered epoch <+: accepted epoch

theorem Effect.accepted_eq {frames after : List StreamBuf} {event : QueueEvent}
    (effect : Effect frames event after) {epoch : List QueueEvent}
    (noFlush : ∀ freed, event ≠ .flush freed)
    (before : accepted epoch = delivered epoch ++ frames) :
    accepted (epoch ++ [event]) = delivered (epoch ++ [event]) ++ after := by
  rw [accepted_append_singleton, delivered_append_singleton, before]
  cases effect with
  | flush frames => exact absurd rfl (noFlush _)
  | accept frames frame => simp [QueueEvent.accepted?, QueueEvent.delivered?]
  | refuse frames frame => simp [QueueEvent.accepted?, QueueEvent.delivered?]
  | deliver frame rest => simp [QueueEvent.accepted?, QueueEvent.delivered?]
  | nothing frames ret => simp [QueueEvent.accepted?, QueueEvent.delivered?]
  | count frames => simp [QueueEvent.accepted?, QueueEvent.delivered?]

theorem QueuesInOrder.effect {history : List QueueEvent} {frames after : List StreamBuf}
    {event : QueueEvent} (inOrder : QueuesInOrder history frames)
    (effect : Effect frames event after) : QueuesInOrder (history ++ [event]) after := by
  intro earlier epoch shape isEpoch
  rcases List.eq_nil_or_concat' epoch with rfl | ⟨front, last, rfl⟩
  · rw [List.append_nil] at shape
    rcases isEpoch.begins with rfl | ⟨before, freed, rfl⟩
    · exact absurd shape (List.append_ne_nil_of_right_ne_nil _ (List.cons_ne_nil _ _))
    · obtain ⟨_, eventEq⟩ := List.append_inj' shape rfl
      obtain rfl : event = .flush freed := by simpa using eventEq
      cases effect
      rfl
  · rw [← List.append_assoc] at shape
    obtain ⟨frontEq, lastEq⟩ := List.append_inj' shape rfl
    obtain rfl : event = last := by simpa using lastEq
    refine effect.accepted_eq ?_ (inOrder earlier front frontEq ?_)
    · rintro freed rfl
      exact isEpoch.noFlush freed (List.mem_append_right _ List.mem_cons_self)
    · exact
        { begins := isEpoch.begins
          noFlush := fun freed member =>
            isEpoch.noFlush freed (List.mem_append_left _ member) }

theorem DeliversInOrder.effect {history : List QueueEvent} {after : List StreamBuf}
    {event : QueueEvent} (delivers : DeliversInOrder history)
    (inOrder : QueuesInOrder (history ++ [event]) after) :
    DeliversInOrder (history ++ [event]) := by
  intro earlier epoch later shape isEpoch
  rcases List.eq_nil_or_concat' later with rfl | ⟨front, last, rfl⟩
  · rw [List.append_nil] at shape
    rw [inOrder earlier epoch shape isEpoch]
    exact List.prefix_append _ _
  · rw [← List.append_assoc, ← List.append_assoc] at shape
    refine delivers earlier epoch front ?_ isEpoch
    rw [(List.append_inj' shape rfl).1, List.append_assoc]

/-! ### Places -/

/-- Every frame handed to the queue is queued, or was delivered, or was freed by a flush, or
was freed by the put that refused it. -/
def KeepsFrames (history : List QueueEvent) (frames : List StreamBuf) : Prop :=
  (handed history).Perm (frames ++ (delivered history ++ (flushed history ++ refused history)))

theorem KeepsFrames.effect {history : List QueueEvent} {frames after : List StreamBuf}
    {event : QueueEvent} (keeps : KeepsFrames history frames)
    (effect : Effect frames event after) : KeepsFrames (history ++ [event]) after := by
  rw [KeepsFrames, List.perm_iff_count] at keeps ⊢
  intro buffer
  have before := keeps buffer
  rw [handed_append_singleton, delivered_append_singleton, flushed_append_singleton,
    refused_append_singleton]
  simp only [List.count_append] at before ⊢
  cases effect with
  | accept frames frame =>
      simp only [QueueEvent.handed?, QueueEvent.delivered?, QueueEvent.flushed,
        QueueEvent.refused, Option.toList_none, Option.toList_some, List.count_append,
        List.count_nil]
      omega
  | refuse frames frame =>
      simp only [QueueEvent.handed?, QueueEvent.delivered?, QueueEvent.flushed,
        QueueEvent.refused, Option.toList_none, Option.toList_some, List.count_nil]
      omega
  | deliver frame rest =>
      simp only [QueueEvent.handed?, QueueEvent.delivered?, QueueEvent.flushed,
        QueueEvent.refused, Option.toList_none, Option.toList_some, List.count_nil]
      rw [← List.singleton_append, List.count_append] at before
      omega
  | nothing frames ret =>
      simp only [QueueEvent.handed?, QueueEvent.delivered?, QueueEvent.flushed,
        QueueEvent.refused, Option.toList_none, List.count_nil]
      omega
  | flush frames =>
      simp only [QueueEvent.handed?, QueueEvent.delivered?, QueueEvent.flushed,
        QueueEvent.refused, Option.toList_none, List.count_nil]
      omega
  | count frames =>
      simp only [QueueEvent.handed?, QueueEvent.delivered?, QueueEvent.flushed,
        QueueEvent.refused, Option.toList_none, List.count_nil]
      omega

/-! ### Runs -/

structure Monitor.Sound {Thread : Type} (monitor : Monitor Thread) : Prop where
  queues : QueuesInOrder monitor.history monitor.frames
  delivers : DeliversInOrder monitor.history
  keeps : KeepsFrames monitor.history monitor.frames

theorem Monitor.sound_initial {Thread : Type} : (initial : Monitor Thread).Sound := by
  refine { queues := ?_, delivers := ?_, keeps := List.Perm.nil }
  · intro earlier epoch shape _
    rw [(List.append_eq_nil_iff.mp shape.symm).2]
    rfl
  · intro earlier epoch later shape _
    rw [(List.append_eq_nil_iff.mp (List.append_eq_nil_iff.mp shape.symm).2).1]
    exact List.nil_prefix

theorem Monitor.Sound.step {Thread : Type} [DecidableEq Thread] {monitor after : Monitor Thread}
    {action : QueueAction Thread} (sound : monitor.Sound)
    (taken : monitor.step action = some after) : after.Sound := by
  rcases Monitor.moves_step taken with ⟨framesEq, historyEq⟩ | ⟨event, effect, historyEq⟩
  · refine { queues := ?_, delivers := ?_, keeps := ?_ }
    · rw [framesEq, historyEq]
      exact sound.queues
    · rw [historyEq]
      exact sound.delivers
    · rw [framesEq, historyEq]
      exact sound.keeps
  · have queues := sound.queues.effect effect
    refine { queues := ?_, delivers := ?_, keeps := ?_ }
    · rw [historyEq]
      exact queues
    · rw [historyEq]
      exact sound.delivers.effect queues
    · rw [historyEq]
      exact sound.keeps.effect effect

namespace QueueState

variable {Thread : Type}

/-- The queue holds the frames of these nodes, and has lost or repeated none. -/
structure Correct (state : QueueState Thread) (cells : List (Nat × StreamBuf)) : Prop where
  list : IsList state.memory.nodes state.memory.queue.firstFrame cells
  empty : state.memory.queue.firstFrame = none ↔ state.memory.queue.lastFrame = none
  last : state.memory.queue.lastFrame = cells.getLast?.map Prod.fst
  count : state.memory.queue.nbPackets = cells.length
  ordered : DeliversInOrder state.history
  places : (handed state.history).Perm
    (cells.map Prod.snd ++
      (delivered state.history ++ (flushed state.history ++ refused state.history)))
  once : (handed state.history).Nodup →
    (cells.map Prod.snd ++
      (delivered state.history ++ (flushed state.history ++ refused state.history))).Nodup

theorem correct_of_represents {state : QueueState Thread} {monitor : Monitor Thread}
    {cells : List (Nat × StreamBuf)} (represents : state.Represents monitor cells)
    (sound : monitor.Sound) : state.Correct cells := by
  have holds := represents.holds
  have places := sound.keeps
  have delivers := sound.delivers
  rw [KeepsFrames, represents.history, represents.frames] at places
  rw [represents.history] at delivers
  refine
    { list := holds.list
      empty := ?_
      last := holds.last
      count := holds.count
      ordered := delivers
      places := places
      once := places.nodup_iff.mp }
  rw [holds.last]
  cases cells with
  | nil => exact ⟨fun _ => rfl, fun _ => holds.list⟩
  | cons cell cells =>
      have firstEq := holds.list.1
      rw [firstEq, List.getLast?_cons]
      exact ⟨fun impossible => (nomatch impossible), fun impossible => (nomatch impossible)⟩

variable [DecidableEq Thread]

/-- In every state that any interleaving reaches, the queue is correct. -/
theorem frameQueue_correct {state : QueueState Thread}
    (reached : Reaches step anyStep initial state) :
    ∃ cells, state.Correct cells := by
  obtain ⟨monitor, cells, monitorReached, represents⟩ :=
    represents_of_reaches represents_initial reached
  have sound := monitorReached.invariant Monitor.sound_initial
    fun _ _ _ before _ taken => before.step taken
  exact ⟨cells, correct_of_represents represents sound⟩

/-- Two threads put a frame each before the first of them takes one. -/
theorem frameQueue_correct_two_puts :
    let actions : List (QueueAction Nat) :=
      [.start 0, .put 0 { frame := 1, bufsize := 6 } 8 none,
        .put 1 { frame := 2, bufsize := 6 } 32 none, .get 0 true]
    ∃ state, run step (fun _ _ => true) initial actions = some state ∧
      ∃ cells, state.Correct cells := by
  intro actions
  have runs : (run step (fun _ _ => true) initial actions).isSome = true := by decide
  obtain ⟨state, ran⟩ := Option.isSome_iff_exists.mp runs
  exact ⟨state, ran, frameQueue_correct (reaches_of_run (fun _ _ _ => trivial) .start ran)⟩

/-- The loop of a flush comes to its end. -/
theorem Correct.flush_enabled {state : QueueState Thread} {cells : List (Nat × StreamBuf)}
    (correct : state.Correct cells) {thread : Thread} (outside : state.waiters.Outside thread) :
    ∃ after, state.step (.flush thread cells.length) = some after := by
  have freed := correct.list.freeAll cells.length
  rw [if_pos (Nat.le_refl _)] at freed
  rcases freed with ⟨nodes, run⟩
  simp only [QueueState.step, if_pos outside, QueueMemory.frameQueueFlush, run, Option.map_some]
  exact ⟨_, rfl⟩

end QueueState

end DShowCapture
