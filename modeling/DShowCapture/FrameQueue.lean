/-
The frame queue of `src/framequeue.cpp`, shared by any number of threads.

Each function is one section under the mutex.  Only `frame_queue_get` can give the mutex
up in between, when it waits on the condition variable; then the rest of its loop is a
section of its own.  The state of the threads and of the queue is explicit, and a step is
one section, a wake-up, or nothing else.
-/
import DShowCapture.Library.ConditionVariable
import DShowCapture.Library.FixedWidth
import DShowCapture.Library.LinkedList

namespace DShowCapture

open FixedWidth LinkedList ConditionVariable

structure StreamBuf where
  frame : Nat
  bufsize : Int
  deriving DecidableEq, Inhabited, Repr

structure FrameQueue where
  firstFrame : Option Nat
  lastFrame : Option Nat
  nbPackets : Int
  abortRequest : Bool

def FrameQueue.init : FrameQueue :=
  { firstFrame := none, lastFrame := none, nbPackets := 0, abortRequest := true }

/-- The queue and the `MyAVFrameList` nodes that are allocated.  The buffer of a node is the
value of its cell. -/
structure QueueMemory where
  queue : FrameQueue
  nodes : Heap StreamBuf

/-- What `malloc` can return: the address of a block that is not in use, aligned to eight
bytes, in the 32-bit address space. -/
def Allocates (nodes : Heap StreamBuf) (address : Nat) : Prop :=
  nodes address = none ∧ 0 < address ∧ address < 4294967296 ∧ address % 8 = 0

instance (nodes : Heap StreamBuf) (address : Nat) : Decidable (Allocates nodes address) :=
  inferInstanceAs (Decidable (_ ∧ _ ∧ _ ∧ _))

namespace QueueMemory

/-- `frame_queue_put_private`, up to the signal at its end. -/
def frameQueuePutPrivate (self : QueueMemory) (frame : StreamBuf) (frame1 : Nat) :
    Int × QueueMemory :=
  if self.queue.abortRequest then (-1, self)
  else
    let nodes := self.nodes.write frame1 { value := frame, next := none }
    let linked : QueueMemory :=
      match self.queue.lastFrame with
      | none => { queue := { self.queue with firstFrame := some frame1 }, nodes := nodes }
      | some last => { queue := self.queue, nodes := nodes.setNext last (some frame1) }
    (0,
      { linked with
        queue :=
          { linked.queue with
            lastFrame := some frame1
            nbPackets := i32 (linked.queue.nbPackets + 1) } })

/-- How one round of the loop of `frame_queue_get` ends. -/
inductive GetRound
  | returns (ret : Int) (frame : Option StreamBuf)
  | waits

/-- One round of the loop of `frame_queue_get`. -/
def getRound (self : QueueMemory) (block : Bool) : GetRound × QueueMemory :=
  if self.queue.abortRequest then (.returns (-1) none, self)
  else
    match self.queue.firstFrame with
    | some frame1 =>
        let node := self.nodes.read frame1
        (.returns 1 (some node.value),
          { queue :=
              { self.queue with
                firstFrame := node.next
                lastFrame := if node.next.isNone then none else self.queue.lastFrame
                nbPackets := i32 (self.queue.nbPackets - 1) }
            nodes := self.nodes.free frame1 })
    | none => if !block then (.returns 0 none, self) else (.waits, self)

/-- `frame_queue_flush`, with the buffers that its loop frees.  Nothing when the loop takes
more than `rounds` rounds. -/
def frameQueueFlush (self : QueueMemory) (rounds : Nat) :
    Option (List StreamBuf × QueueMemory) :=
  (freeAll rounds self.nodes self.queue.firstFrame).map fun freed =>
    (freed.1,
      { queue := { self.queue with firstFrame := none, lastFrame := none, nbPackets := 0 }
        nodes := freed.2 })

end QueueMemory

/-- What a call has returned to its thread, and what it has freed. -/
inductive QueueEvent
  | put (frame : StreamBuf) (ret : Int) (freed : List StreamBuf)
  | get (ret : Int) (frame : Option StreamBuf)
  | flush (freed : List StreamBuf)
  | count (count : Int)
  deriving DecidableEq, Repr

structure QueueState (Thread : Type) where
  memory : QueueMemory
  waiters : Waiters Thread
  history : List QueueEvent

/-- One step of one of the threads.  The choices that the program leaves open are part of
it: the address from `malloc`, and the thread that a signal wakes. -/
inductive QueueAction (Thread : Type)
  | put (thread : Thread) (frame : StreamBuf) (frame1 : Nat) (wakes : Option Thread)
  | get (thread : Thread) (block : Bool)
  /-- A woken thread has the mutex again. -/
  | resume (thread : Thread)
  /-- A spurious wake-up. -/
  | wakeUp (thread : Thread)
  | flush (thread : Thread) (rounds : Nat)
  | abort (thread : Thread) (wakes : Option Thread)
  | start (thread : Thread)
  | count (thread : Thread)

namespace QueueState

variable {Thread : Type}

def initial : QueueState Thread :=
  { memory := { queue := FrameQueue.init, nodes := fun _ => none }
    waiters := Waiters.nobody
    history := [] }

variable [DecidableEq Thread]

/-- A round of `frame_queue_get`, and what follows it. -/
def runGet (self : QueueState Thread) (thread : Thread) (block : Bool) : QueueState Thread :=
  let round := self.memory.getRound block
  match round.1 with
  | .returns ret frame =>
      { memory := round.2
        waiters := self.waiters.leave thread
        history := self.history ++ [.get ret frame] }
  | .waits => { self with memory := round.2, waiters := self.waiters.sleep thread }

def step (self : QueueState Thread) : QueueAction Thread → Option (QueueState Thread)
  | .put thread frame frame1 wakes =>
      if self.waiters.Outside thread ∧ Allocates self.memory.nodes frame1 then
        let put := self.memory.frameQueuePutPrivate frame frame1
        if put.1 < 0 then
          some
            { self with memory := put.2, history := self.history ++ [.put frame put.1 [frame]] }
        else
          (self.waiters.signal wakes).map fun waiters =>
            { memory := put.2
              waiters := waiters
              history := self.history ++ [.put frame put.1 []] }
      else none
  | .get thread block =>
      if self.waiters.Outside thread then some (self.runGet thread block) else none
  | .resume thread =>
      if thread ∈ self.waiters.woken then some (self.runGet thread true) else none
  | .wakeUp thread =>
      if thread ∈ self.waiters.asleep then
        some { self with waiters := self.waiters.wake thread }
      else none
  | .flush thread rounds =>
      if self.waiters.Outside thread then
        (self.memory.frameQueueFlush rounds).map fun flushed =>
          { self with memory := flushed.2, history := self.history ++ [.flush flushed.1] }
      else none
  | .abort thread wakes =>
      if self.waiters.Outside thread then
        (self.waiters.signal wakes).map fun waiters =>
          { self with
            memory :=
              { self.memory with queue := { self.memory.queue with abortRequest := true } }
            waiters := waiters }
      else none
  | .start thread =>
      if self.waiters.Outside thread then
        some
          { self with
            memory :=
              { self.memory with queue := { self.memory.queue with abortRequest := false } } }
      else none
  | .count thread =>
      if self.waiters.Outside thread then
        some { self with history := self.history ++ [.count self.memory.queue.nbPackets] }
      else none

end QueueState

end DShowCapture
