/-
The capture callback and the sender thread at the two ends of the video queue.

`CSampleGrabberCB::BufferCB` converts each sample into the one buffer `pYUVBuf` and puts
an entry that points to it; in the YUY2 branch it first takes an entry off when one is
queued.  `SendDataThread` takes an entry and encodes what it points to.  Samples are
numbered from one in the order of their conversion, and a picture is the number of its
sample.
-/
import DShowCapture.FrameQueue.Correctness
import DShowCapture.FrameQueue.Wakeup

namespace DShowCapture

open FixedWidth LinkedList ConditionVariable Runs

inductive ColorFormat
  | yuy2
  | rgb24
  deriving DecidableEq, Repr

structure VidParam where
  nColorFormat : ColorFormat
  nWidth : Int
  nHeight : Int
  pYUVBuf : Nat

def VidParam.buf (self : VidParam) : StreamBuf :=
  { frame := self.pYUVBuf, bufsize := i32 ((self.nWidth * self.nHeight * 3).tdiv 2) }

inductive CaptureThread
  | callback
  | sender
  deriving DecidableEq, Repr

inductive CallbackPoint
  | converting
  | counting
  | dropping
  | putting
  deriving DecidableEq, Repr

structure Capture where
  queue : QueueState CaptureThread
  point : CallbackPoint
  /-- The number of samples converted so far. -/
  samples : Nat
  /-- The picture in `pYUVBuf`, zero before the first. -/
  yuvBuf : Nat
  /-- The picture in `pYUVBuf` when each entry was put. -/
  puts : List Nat
  /-- The number of the entry that the sender has taken and not encoded yet. -/
  holding : Option Nat
  /-- The entries that were encoded, with the picture that `Encode` read. -/
  reads : List (Nat × Nat)

inductive CaptureAction
  | convert
  | count
  | drop
  | put (frame1 : Nat) (wakes : Option CaptureThread)
  | senderGet
  | encode
  | resume (thread : CaptureThread)
  | wakeUp (thread : CaptureThread)
  deriving DecidableEq, Repr

namespace Capture

def initial : Capture :=
  { queue := QueueState.started
    point := .converting
    samples := 0
    yuvBuf := 0
    puts := []
    holding := none
    reads := [] }

def callbackGet (self : Capture) : Capture :=
  { self with
    queue := self.queue.runGet .callback true
    point :=
      match (self.queue.memory.getRound true).1 with
      | .returns _ _ => .putting
      | .waits => self.point }

/-- A round of the sender's `frame_queue_get`.  An entry of size zero is not encoded. -/
def senderGet (self : Capture) : Capture :=
  { self with
    queue := self.queue.runGet .sender true
    holding :=
      match (self.queue.memory.getRound true).1 with
      | .returns _ (some frame) =>
          if 0 < frame.bufsize then some (delivered self.queue.history).length else none
      | _ => none }

def step (video : VidParam) (self : Capture) : CaptureAction → Option Capture
  | .convert =>
      if self.point = .converting then
        some
          { self with
            point := if video.nColorFormat = .yuy2 then .counting else .putting
            samples := self.samples + 1
            yuvBuf := self.samples + 1 }
      else none
  | .count =>
      if self.point = .counting then
        (self.queue.step (.count .callback)).map fun queue =>
          { self with
            queue := queue
            point := if 0 < self.queue.memory.queue.nbPackets then .dropping else .putting }
      else none
  | .drop =>
      if self.point = .dropping ∧ self.queue.waiters.Outside .callback then
        some self.callbackGet
      else none
  | .put frame1 wakes =>
      if self.point = .putting then
        (self.queue.step (.put .callback video.buf frame1 wakes)).map fun queue =>
          { self with
            queue := queue
            point := .converting
            puts :=
              if self.queue.memory.queue.abortRequest then self.puts
              else self.puts ++ [self.yuvBuf] }
      else none
  | .senderGet =>
      if self.holding = none ∧ self.queue.waiters.Outside .sender then some self.senderGet
      else none
  | .encode =>
      self.holding.map fun entry =>
        { self with holding := none, reads := self.reads ++ [(entry, self.yuvBuf)] }
  | .resume .callback =>
      if .callback ∈ self.queue.waiters.woken then some self.callbackGet else none
  | .resume .sender =>
      if .sender ∈ self.queue.waiters.woken then some self.senderGet else none
  | .wakeUp thread =>
      (self.queue.step (.wakeUp thread)).map fun queue => { self with queue := queue }

end Capture

/-! ### The queue, step by step -/

namespace QueueState

variable {Thread : Type}

structure Queues (state : QueueState Thread) (frames : List StreamBuf) : Prop where
  cells : ∃ cells, state.memory.Holds cells ∧ frames = cells.map Prod.snd
  running : state.memory.queue.abortRequest = false

theorem queues_started : (started : QueueState Thread).Queues [] :=
  { cells := ⟨[], represents_started.holds, rfl⟩, running := rfl }

theorem Queues.count {state : QueueState Thread} {frames : List StreamBuf}
    (queues : state.Queues frames) : state.memory.queue.nbPackets = frames.length := by
  rcases queues.cells with ⟨cells, holds, rfl⟩
  rw [holds.count, List.length_map]

variable [DecidableEq Thread]

theorem Queues.get {state : QueueState Thread} {frame : StreamBuf} {rest : List StreamBuf}
    (queues : state.Queues (frame :: rest)) (thread : Thread) :
    (state.memory.getRound true).1 = .returns 1 (some frame) ∧
      (state.runGet thread true).Queues rest ∧
      (state.runGet thread true).waiters = state.waiters.leave thread ∧
      (state.runGet thread true).history = state.history ++ [.get 1 (some frame)] := by
  rcases queues.cells with ⟨cells, holds, framesEq⟩
  cases cells with
  | nil => cases framesEq
  | cons cell cells =>
      obtain ⟨rfl, rfl⟩ := List.cons.inj framesEq
      obtain ⟨roundEq, holdsAfter, running⟩ := holds.get queues.running true
      simp only [runGet, roundEq]
      exact ⟨trivial, { cells := ⟨cells, holdsAfter, rfl⟩, running := running }, trivial, trivial⟩

theorem Queues.get_of_empty {state : QueueState Thread} (queues : state.Queues [])
    (thread : Thread) :
    (state.memory.getRound true).1 = .waits ∧
      state.runGet thread true = { state with waiters := state.waiters.sleep thread } := by
  rcases queues.cells with ⟨cells, holds, framesEq⟩
  obtain rfl := List.map_eq_nil_iff.mp framesEq.symm
  have roundEq := holds.get_of_empty queues.running true
  simp only [runGet, roundEq, if_true]
  exact ⟨trivial, trivial⟩

theorem Queues.put {state after : QueueState Thread} {frames : List StreamBuf}
    (queues : state.Queues frames) {thread : Thread} {frame : StreamBuf} {frame1 : Nat}
    {wakes : Option Thread} (taken : state.step (.put thread frame frame1 wakes) = some after) :
    after.Queues (frames ++ [frame]) ∧ state.waiters.signal wakes = some after.waiters ∧
      after.history = state.history ++ [.put frame 0 []] := by
  rcases queues.cells with ⟨cells, holds, rfl⟩
  obtain ⟨enabled, stepEq⟩ := Option.ite_none_right_eq_some.mp taken
  obtain ⟨retEq, holdsAfter, running⟩ := holds.put queues.running frame enabled.2
  simp only [retEq, lt_irrefl, if_false] at stepEq
  obtain ⟨waiters, signalled, rfl⟩ := Option.map_eq_some_iff.mp stepEq
  refine ⟨{ cells := ⟨_, holdsAfter, ?_⟩, running := running }, signalled, rfl⟩
  rw [List.map_append, List.map_singleton]

theorem step_count {state after : QueueState Thread} {thread : Thread}
    (taken : state.step (.count thread) = some after) :
    after = { state with history := state.history ++ [.count state.memory.queue.nbPackets] } := by
  obtain ⟨_, stepEq⟩ := Option.ite_none_right_eq_some.mp taken
  exact (Option.some.inj stepEq).symm

theorem step_wakeUp {state after : QueueState Thread} {thread : Thread}
    (taken : state.step (.wakeUp thread) = some after) :
    thread ∈ state.waiters.asleep ∧
      after = { state with waiters := state.waiters.wake thread } := by
  obtain ⟨isAsleep, stepEq⟩ := Option.ite_none_right_eq_some.mp taken
  exact ⟨isAsleep, (Option.some.inj stepEq).symm⟩

end QueueState

def CaptureAction.senderTakes : CaptureAction → Bool
  | .senderGet => true
  | .resume .sender => true
  | _ => false

end DShowCapture
