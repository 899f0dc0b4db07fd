/-
The frame queue as a monitor.

Seen from outside, the queue is a list of frames and a flag.  The linked list, its two
end pointers and the counter represent the list of frames in every state that is reached,
and each step of the program is one of the monitor.
-/
import DShowCapture.FrameQueue
import DShowCapture.Library.Runs
import Mathlib.Data.Finset.Card

namespace DShowCapture

open FixedWidth LinkedList ConditionVariable Runs

structure Monitor (Thread : Type) where
  frames : List StreamBuf
  aborted : Bool
  waiters : Waiters Thread
  history : List QueueEvent

namespace Monitor

variable {Thread : Type}

def initial : Monitor Thread :=
  { frames := [], aborted := true, waiters := Waiters.nobody, history := [] }

variable [DecidableEq Thread]

def returns (self : Monitor Thread) (thread : Thread) (ret : Int) (frame : Option StreamBuf) :
    Monitor Thread :=
  { self with
    waiters := self.waiters.leave thread
    history := self.history ++ [.get ret frame] }

def get (self : Monitor Thread) (thread : Thread) (block : Bool) : Monitor Thread :=
  if self.aborted then self.returns thread (-1) none
  else
    match self.frames with
    | frame :: rest => { self with frames := rest }.returns thread 1 (some frame)
    | [] =>
        if !block then self.returns thread 0 none
        else { self with waiters := self.waiters.sleep thread }

def step (self : Monitor Thread) : QueueAction Thread → Option (Monitor Thread)
  | .put thread frame _ wakes =>
      if self.waiters.Outside thread then
        if self.aborted then
          some { self with history := self.history ++ [.put frame (-1) [frame]] }
        else
          (self.waiters.signal wakes).map fun waiters =>
            { self with
              frames := self.frames ++ [frame]
              waiters := waiters
              history := self.history ++ [.put frame 0 []] }
      else none
  | .get thread block => if self.waiters.Outside thread then some (self.get thread block) else none
  | .resume thread => if thread ∈ self.waiters.woken then some (self.get thread true) else none
  | .wakeUp thread =>
      if thread ∈ self.waiters.asleep then
        some { self with waiters := self.waiters.wake thread }
      else none
  | .flush thread _ =>
      if self.waiters.Outside thread then
        some { self with frames := [], history := self.history ++ [.flush self.frames] }
      else none
  | .abort thread wakes =>
      if self.waiters.Outside thread then
        (self.waiters.signal wakes).map fun waiters =>
          { self with aborted := true, waiters := waiters }
      else none
  | .start thread =>
      if self.waiters.Outside thread then some { self with aborted := false } else none
  | .count thread =>
      if self.waiters.Outside thread then
        some { self with history := self.history ++ [.count self.frames.length] }
      else none

end Monitor

/-! ### The memory of the queue -/

/-- The memory holds these cells in order, and the end pointer and the counter agree. -/
structure QueueMemory.Holds (memory : QueueMemory) (cells : List (Nat × StreamBuf)) : Prop where
  list : IsList memory.nodes memory.queue.firstFrame cells
  last : memory.queue.lastFrame = cells.getLast?.map Prod.fst
  count : memory.queue.nbPackets = cells.length
  addresses : ∀ cell, cell ∈ cells → 0 < cell.1 ∧ cell.1 < 4294967296 ∧ cell.1 % 8 = 0

namespace QueueMemory

/-- The nodes are at least eight bytes apart, so the counter stays below its limit. -/
theorem Holds.few {memory : QueueMemory} {cells : List (Nat × StreamBuf)}
    (holds : memory.Holds cells) : cells.length < 536870912 := by
  have inRange : ∀ address, address ∈ cells.map Prod.fst →
      0 < address ∧ address < 4294967296 ∧ address % 8 = 0 := by
    intro address member
    obtain ⟨cell, cellMember, rfl⟩ := List.mem_map.mp member
    exact holds.addresses cell cellMember
  have nodup : ((cells.map Prod.fst).map fun address => address / 8 - 1).Nodup := by
    apply holds.list.nodup.map_on
    intro left leftMember right rightMember same
    have leftRange := inRange left leftMember
    have rightRange := inRange right rightMember
    omega
  have below : ((cells.map Prod.fst).map fun address => address / 8 - 1).toFinset ⊆
      Finset.range 536870911 := by
    intro block member
    obtain ⟨address, addressMember, rfl⟩ := List.mem_map.mp (List.mem_toFinset.mp member)
    have addressRange := inRange address addressMember
    rw [Finset.mem_range]
    omega
  have bound := Finset.card_le_card below
  rw [List.toFinset_card_of_nodup nodup, Finset.card_range, List.length_map,
    List.length_map] at bound
  omega

theorem holds_init (nodes : Heap StreamBuf) :
    ({ queue := FrameQueue.init, nodes := nodes } : QueueMemory).Holds [] :=
  { list := rfl
    last := rfl
    count := rfl
    addresses := fun _ member => absurd member List.not_mem_nil }

theorem Holds.put {memory : QueueMemory} {cells : List (Nat × StreamBuf)}
    (holds : memory.Holds cells) (notAborted : memory.queue.abortRequest = false)
    (frame : StreamBuf) {frame1 : Nat} (allocates : Allocates memory.nodes frame1) :
    let put := memory.frameQueuePutPrivate frame frame1
    put.1 = 0 ∧ put.2.Holds (cells ++ [(frame1, frame)]) ∧
      put.2.queue.abortRequest = false := by
  have few := holds.few
  have countEq : i32 (memory.queue.nbPackets + 1) = (cells.length + 1 : Nat) := by
    rw [holds.count]
    exact i32_natCast (cells.length + 1) (by omega)
  have addresses : ∀ cell, cell ∈ cells ++ [(frame1, frame)] →
      0 < cell.1 ∧ cell.1 < 4294967296 ∧ cell.1 % 8 = 0 := by
    intro cell member
    rcases List.mem_append.mp member with old | new
    · exact holds.addresses cell old
    · rw [List.mem_singleton.mp new]
      exact allocates.2
  rcases List.eq_nil_or_concat' cells with rfl | ⟨front, last, rfl⟩
  · have lastEq : memory.queue.lastFrame = none := holds.last
    simp only [frameQueuePutPrivate, notAborted, Bool.false_eq_true, if_false, lastEq, countEq]
    exact
      ⟨trivial,
        { list := isList_singleton frame1 frame
          last := rfl
          count := rfl
          addresses := addresses },
        trivial⟩
  · have lastEq : memory.queue.lastFrame = some last.1 := by
      rw [holds.last, List.getLast?_concat]
      rfl
    simp only [frameQueuePutPrivate, notAborted, Bool.false_eq_true, if_false, lastEq, countEq]
    refine
      ⟨trivial,
        { list := ?_
          last := by rw [List.getLast?_concat]; rfl
          count := by simp only [List.length_append, List.length_singleton]
          addresses := addresses },
        trivial⟩
    rw [List.append_assoc]
    exact IsList.append holds.list allocates.1 frame

theorem put_of_aborted {memory : QueueMemory} (aborted : memory.queue.abortRequest = true)
    (frame : StreamBuf) (frame1 : Nat) :
    memory.frameQueuePutPrivate frame frame1 = (-1, memory) := by
  rw [frameQueuePutPrivate, if_pos aborted]

theorem Holds.get {memory : QueueMemory} {cell : Nat × StreamBuf}
    {cells : List (Nat × StreamBuf)} (holds : memory.Holds (cell :: cells))
    (notAborted : memory.queue.abortRequest = false) (block : Bool) :
    let round := memory.getRound block
    round.1 = .returns 1 (some cell.2) ∧ round.2.Holds cells ∧
      round.2.queue.abortRequest = false := by
  have few := holds.few
  rcases holds.list.free with ⟨firstEq, next, held, rest⟩
  have readEq := read_of_eq held
  have countEq : i32 (memory.queue.nbPackets - 1) = cells.length := by
    rw [List.length_cons] at few
    have before := holds.count
    rw [List.length_cons] at before
    rw [before, ← i32_natCast cells.length (by omega)]
    congr 1
    omega
  simp only [getRound, notAborted, Bool.false_eq_true, if_false, firstEq, readEq, countEq]
  refine
    ⟨trivial,
      { list := rest
        last := ?_
        count := rfl
        addresses := fun other member => holds.addresses other (List.mem_cons_of_mem cell member) },
      trivial⟩
  cases cells with
  | nil =>
      cases rest
      rfl
  | cons second cells =>
      have nextEq : next = some second.1 := rest.1
      rw [nextEq, holds.last, List.getLast?_cons_cons]
      rfl

theorem Holds.get_of_empty {memory : QueueMemory} (holds : memory.Holds [])
    (notAborted : memory.queue.abortRequest = false) (block : Bool) :
    memory.getRound block = (if block then .waits else .returns 0 none, memory) := by
  have firstEq : memory.queue.firstFrame = none := holds.list
  simp only [getRound, notAborted, Bool.false_eq_true, if_false, firstEq]
  cases block <;> rfl

theorem get_of_aborted {memory : QueueMemory} (aborted : memory.queue.abortRequest = true)
    (block : Bool) : memory.getRound block = (.returns (-1) none, memory) := by
  rw [getRound, if_pos aborted]

theorem Holds.abortRequest {memory : QueueMemory} {cells : List (Nat × StreamBuf)}
    (holds : memory.Holds cells) (abort : Bool) :
    { memory with queue := { memory.queue with abortRequest := abort } }.Holds cells :=
  { list := holds.list
    last := holds.last
    count := holds.count
    addresses := holds.addresses }

theorem Holds.flush {memory : QueueMemory} {cells : List (Nat × StreamBuf)}
    (holds : memory.Holds cells) (rounds : Nat) :
    if cells.length ≤ rounds then
      ∃ after, memory.frameQueueFlush rounds = some (cells.map Prod.snd, after) ∧
        after.Holds [] ∧ after.queue.abortRequest = memory.queue.abortRequest
    else memory.frameQueueFlush rounds = none := by
  have freed := holds.list.freeAll rounds
  by_cases enough : cells.length ≤ rounds
  · rw [if_pos enough] at freed ⊢
    rcases freed with ⟨nodes, run⟩
    rw [frameQueueFlush, run]
    exact
      ⟨_, rfl,
        { list := rfl
          last := rfl
          count := rfl
          addresses := fun _ member => absurd member List.not_mem_nil },
        rfl⟩
  · rw [if_neg enough] at freed ⊢
    rw [frameQueueFlush, freed]
    rfl

end QueueMemory

/-! ### Simulation -/

namespace QueueState

variable {Thread : Type}

structure Represents (state : QueueState Thread) (monitor : Monitor Thread)
    (cells : List (Nat × StreamBuf)) : Prop where
  holds : state.memory.Holds cells
  frames : monitor.frames = cells.map Prod.snd
  aborted : monitor.aborted = state.memory.queue.abortRequest
  waiters : monitor.waiters = state.waiters
  history : monitor.history = state.history

theorem represents_initial :
    (initial : QueueState Thread).Represents Monitor.initial [] :=
  { holds := QueueMemory.holds_init _
    frames := rfl
    aborted := rfl
    waiters := rfl
    history := rfl }

variable [DecidableEq Thread]

theorem Represents.get {state : QueueState Thread} {monitor : Monitor Thread}
    {cells : List (Nat × StreamBuf)} (represents : state.Represents monitor cells)
    (thread : Thread) (block : Bool) :
    ∃ after, (state.runGet thread block).Represents (monitor.get thread block) after := by
  rcases represents with ⟨holds, frames, aborted, waiters, history⟩
  cases abortEq : state.memory.queue.abortRequest with
  | true =>
      have roundEq := QueueMemory.get_of_aborted abortEq block
      simp only [runGet, roundEq, Monitor.get, aborted, abortEq, if_true, Monitor.returns,
        waiters, history]
      exact
        ⟨cells,
          { holds := holds
            frames := frames
            aborted := abortEq.symm
            waiters := rfl
            history := rfl }⟩
  | false =>
      cases cells with
      | nil =>
          have roundEq := holds.get_of_empty abortEq block
          have framesEq : monitor.frames = [] := frames
          cases block with
          | true =>
              simp only [runGet, roundEq, Monitor.get, aborted, abortEq, framesEq, if_true,
                Bool.false_eq_true, if_false, Bool.not_true]
              exact
                ⟨[],
                  { holds := holds
                    frames := rfl
                    aborted := abortEq.symm
                    waiters := by rw [waiters]
                    history := history }⟩
          | false =>
              simp only [runGet, roundEq, Monitor.get, aborted, abortEq, framesEq, if_true,
                Bool.false_eq_true, if_false, Bool.not_false, Monitor.returns]
              exact
                ⟨[],
                  { holds := holds
                    frames := rfl
                    aborted := abortEq.symm
                    waiters := by rw [waiters]
                    history := by rw [history] }⟩
      | cons cell cells =>
          obtain ⟨roundEq, holdsAfter, abortAfter⟩ := holds.get abortEq block
          have framesEq : monitor.frames = cell.2 :: cells.map Prod.snd := frames
          simp only [runGet, roundEq, Monitor.get, aborted, abortEq, framesEq,
            Bool.false_eq_true, if_false, Monitor.returns]
          exact
            ⟨cells,
              { holds := holdsAfter
                frames := rfl
                aborted := abortAfter.symm
                waiters := by rw [waiters]
                history := by rw [history] }⟩

/-- Each step of the program is a step of the monitor. -/
theorem Represents.put {state after : QueueState Thread} {monitor : Monitor Thread}
    {cells : List (Nat × StreamBuf)} (represents : state.Represents monitor cells)
    {thread : Thread} {frame : StreamBuf} {frame1 : Nat} {wakes : Option Thread}
    (taken : state.step (.put thread frame frame1 wakes) = some after) :
    ∃ monitorAfter cellsAfter, monitor.step (.put thread frame frame1 wakes) = some monitorAfter ∧
      after.Represents monitorAfter cellsAfter := by
  rcases represents with ⟨holds, frames, aborted, waiters, history⟩
  obtain ⟨enabled, stepEq⟩ := Option.ite_none_right_eq_some.mp taken
  rcases enabled with ⟨outside, allocates⟩
  cases abortEq : state.memory.queue.abortRequest with
  | true =>
      simp only [QueueMemory.put_of_aborted abortEq, Int.reduceLT, if_true] at stepEq
      cases stepEq
      refine
        ⟨{ monitor with history := monitor.history ++ [.put frame (-1) [frame]] }, cells, ?_,
          { holds := holds
            frames := frames
            aborted := aborted
            waiters := waiters
            history := by rw [history] }⟩
      simp only [Monitor.step, waiters, if_pos outside, aborted, abortEq, if_true]
  | false =>
      obtain ⟨retEq, holdsAfter, abortAfter⟩ := holds.put abortEq frame allocates
      simp only [retEq, lt_irrefl, if_false] at stepEq
      obtain ⟨signalled, signalEq, rfl⟩ := Option.map_eq_some_iff.mp stepEq
      refine
        ⟨{ monitor with
            frames := monitor.frames ++ [frame]
            waiters := signalled
            history := monitor.history ++ [.put frame 0 []] },
          cells ++ [(frame1, frame)], ?_,
          { holds := holdsAfter
            frames := by rw [frames, List.map_append, List.map_singleton]
            aborted := by rw [aborted, abortEq, abortAfter]
            waiters := rfl
            history := by rw [history] }⟩
      simp only [Monitor.step, waiters, if_pos outside, aborted, abortEq,
        Bool.false_eq_true, if_false, signalEq, Option.map_some]

theorem Represents.flush {state after : QueueState Thread} {monitor : Monitor Thread}
    {cells : List (Nat × StreamBuf)} (represents : state.Represents monitor cells)
    {thread : Thread} {rounds : Nat}
    (taken : state.step (.flush thread rounds) = some after) :
    ∃ monitorAfter cellsAfter, monitor.step (.flush thread rounds) = some monitorAfter ∧
      after.Represents monitorAfter cellsAfter := by
  rcases represents with ⟨holds, frames, aborted, waiters, history⟩
  obtain ⟨outside, stepEq⟩ := Option.ite_none_right_eq_some.mp taken
  have flushed := holds.flush rounds
  split at flushed
  · rcases flushed with ⟨memory, run, holdsAfter, abortAfter⟩
    rw [run] at stepEq
    cases stepEq
    refine
      ⟨{ monitor with
          frames := []
          history := monitor.history ++ [.flush monitor.frames] }, [], ?_,
        { holds := holdsAfter
          frames := rfl
          aborted := by rw [aborted, abortAfter]
          waiters := waiters
          history := by rw [history, frames] }⟩
    simp only [Monitor.step, waiters, if_pos outside]
  · rename_i tooFew
    rw [flushed] at stepEq
    cases stepEq

theorem Represents.step {state after : QueueState Thread} {monitor : Monitor Thread}
    {cells : List (Nat × StreamBuf)} {action : QueueAction Thread}
    (represents : state.Represents monitor cells) (taken : state.step action = some after) :
    ∃ monitorAfter cellsAfter, monitor.step action = some monitorAfter ∧
      after.Represents monitorAfter cellsAfter := by
  have parts := represents
  rcases parts with ⟨holds, frames, aborted, waiters, history⟩
  cases action with
  | put thread frame frame1 wakes => exact represents.put taken
  | get thread block =>
      obtain ⟨outside, stepEq⟩ := Option.ite_none_right_eq_some.mp taken
      cases stepEq
      obtain ⟨cellsAfter, later⟩ := represents.get thread block
      refine ⟨monitor.get thread block, cellsAfter, ?_, later⟩
      simp only [Monitor.step, waiters, if_pos outside]
  | resume thread =>
      obtain ⟨isWoken, stepEq⟩ := Option.ite_none_right_eq_some.mp taken
      cases stepEq
      obtain ⟨cellsAfter, later⟩ := represents.get thread true
      refine ⟨monitor.get thread true, cellsAfter, ?_, later⟩
      simp only [Monitor.step, waiters, if_pos isWoken]
  | wakeUp thread =>
      obtain ⟨isAsleep, stepEq⟩ := Option.ite_none_right_eq_some.mp taken
      cases stepEq
      refine
        ⟨{ monitor with waiters := state.waiters.wake thread }, cells, ?_,
          { holds := holds
            frames := frames
            aborted := aborted
            waiters := rfl
            history := history }⟩
      simp only [Monitor.step, waiters, if_pos isAsleep]
  | flush thread rounds => exact represents.flush taken
  | abort thread wakes =>
      obtain ⟨outside, stepEq⟩ := Option.ite_none_right_eq_some.mp taken
      obtain ⟨signalled, signalEq, rfl⟩ := Option.map_eq_some_iff.mp stepEq
      refine
        ⟨{ monitor with aborted := true, waiters := signalled }, cells, ?_,
          { holds := holds.abortRequest true
            frames := frames
            aborted := rfl
            waiters := rfl
            history := history }⟩
      simp only [Monitor.step, waiters, if_pos outside, signalEq, Option.map_some]
  | start thread =>
      obtain ⟨outside, stepEq⟩ := Option.ite_none_right_eq_some.mp taken
      cases stepEq
      refine
        ⟨{ monitor with aborted := false }, cells, ?_,
          { holds := holds.abortRequest false
            frames := frames
            aborted := rfl
            waiters := waiters
            history := history }⟩
      simp only [Monitor.step, waiters, if_pos outside]
  | count thread =>
      obtain ⟨outside, stepEq⟩ := Option.ite_none_right_eq_some.mp taken
      cases stepEq
      refine
        ⟨{ monitor with history := monitor.history ++ [.count monitor.frames.length] }, cells,
          ?_,
          { holds := holds
            frames := frames
            aborted := aborted
            waiters := waiters
            history := by rw [history, frames, List.length_map, holds.count] }⟩
      simp only [Monitor.step, waiters, if_pos outside]

theorem represents_of_reaches {start : Monitor Thread} {startCells : List (Nat × StreamBuf)}
    {initial state : QueueState Thread} (represents : initial.Represents start startCells)
    {permitted : QueueAction Thread → Prop}
    (reached : Reaches step (fun _ action => permitted action) initial state) :
    ∃ monitor cells, Reaches Monitor.step (fun _ action => permitted action) start monitor ∧
      state.Represents monitor cells := by
  induction reached with
  | start => exact ⟨start, startCells, .start, represents⟩
  | next _ allowed taken ih =>
      rcases ih with ⟨monitor, cells, monitorReached, here⟩
      obtain ⟨after, cellsAfter, monitorTaken, later⟩ := here.step taken
      exact ⟨after, cellsAfter, .next monitorReached allowed monitorTaken, later⟩

end QueueState

end DShowCapture
