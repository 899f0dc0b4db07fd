/-
Singly linked lists in a heap of cells.

A list is described by the addresses and values of its cells in order.  The description
is determined by the heap and the first address, so an address cannot occur twice; what
is appended, taken off or freed changes it at one end only.
-/
import Mathlib.Data.List.Nodup
import Mathlib.Logic.Function.Basic

namespace LinkedList

structure Cell (α : Type) where
  value : α
  next : Option Nat

abbrev Heap (α : Type) := Nat → Option (Cell α)

variable {α : Type}

namespace Heap

def write (heap : Heap α) (address : Nat) (cell : Cell α) : Heap α :=
  Function.update heap address (some cell)

def free (heap : Heap α) (address : Nat) : Heap α := Function.update heap address none

def setNext (heap : Heap α) (address : Nat) (next : Option Nat) : Heap α :=
  match heap address with
  | some cell => heap.write address { cell with next := next }
  | none => heap

/-- A cell that is read through a dangling pointer holds no particular value. -/
def read [Inhabited α] (heap : Heap α) (address : Nat) : Cell α :=
  (heap address).getD { value := default, next := none }

end Heap

def Segment (heap : Heap α) : Option Nat → List (Nat × α) → Option Nat → Prop
  | start, [], stop => start = stop
  | start, (address, value) :: rest, stop =>
      start = some address ∧
        ∃ next, heap address = some { value := value, next := next } ∧ Segment heap next rest stop

/-- The cells of the list that begins at `start` and ends with the null pointer. -/
def IsList (heap : Heap α) (start : Option Nat) (cells : List (Nat × α)) : Prop :=
  Segment heap start cells none

/-! ### Segments -/

theorem segment_append {heap : Heap α} {start stop : Option Nat} {front back : List (Nat × α)} :
    Segment heap start (front ++ back) stop ↔
      ∃ middle, Segment heap start front middle ∧ Segment heap middle back stop := by
  induction front generalizing start with
  | nil =>
      constructor
      · exact fun segment => ⟨start, rfl, segment⟩
      · rintro ⟨middle, rfl, segment⟩
        exact segment
  | cons cell front ih =>
      constructor
      · rintro ⟨here, next, held, rest⟩
        obtain ⟨middle, first, second⟩ := ih.mp rest
        exact ⟨middle, ⟨here, next, held, first⟩, second⟩
      · rintro ⟨middle, ⟨here, next, held, first⟩, second⟩
        exact ⟨here, next, held, ih.mpr ⟨middle, first, second⟩⟩

theorem Segment.congr {heap other : Heap α} {start stop : Option Nat} {cells : List (Nat × α)}
    (segment : Segment heap start cells stop)
    (same : ∀ cell, cell ∈ cells → other cell.1 = heap cell.1) :
    Segment other start cells stop := by
  induction cells generalizing start with
  | nil => exact segment
  | cons cell cells ih =>
      rcases segment with ⟨here, next, held, rest⟩
      refine ⟨here, next, (same cell List.mem_cons_self).trans held, ih rest ?_⟩
      exact fun later member => same later (List.mem_cons_of_mem cell member)

theorem Segment.allocated {heap : Heap α} {start stop : Option Nat} {cells : List (Nat × α)}
    (segment : Segment heap start cells stop) {cell : Nat × α} (member : cell ∈ cells) :
    heap cell.1 ≠ none := by
  obtain ⟨front, back, rfl⟩ := List.append_of_mem member
  obtain ⟨_, _, _, next, held, _⟩ := segment_append.mp segment
  rw [held]
  exact Option.some_ne_none _

/-! ### Lists -/

theorem isList_none {heap : Heap α} {cells : List (Nat × α)} :
    IsList heap none cells ↔ cells = [] := by
  cases cells with
  | nil => exact ⟨fun _ => rfl, fun _ => rfl⟩
  | cons cell cells =>
      constructor
      · rintro ⟨impossible, _⟩
        cases impossible
      · intro impossible
        cases impossible

theorem IsList.unique {heap : Heap α} {start : Option Nat} {left right : List (Nat × α)}
    (isLeft : IsList heap start left) (isRight : IsList heap start right) : left = right := by
  induction left generalizing start right with
  | nil =>
      cases isLeft
      exact (isList_none.mp isRight).symm
  | cons cell left ih =>
      rcases isLeft with ⟨here, next, held, rest⟩
      cases right with
      | nil =>
          cases isRight
          cases here
      | cons other right =>
          rcases isRight with ⟨otherHere, otherNext, otherHeld, otherRest⟩
          have addressEq : cell.1 = other.1 := Option.some.inj (here.symm.trans otherHere)
          rw [addressEq, otherHeld] at held
          obtain ⟨valueEq, nextEq⟩ := Cell.mk.inj (Option.some.inj held)
          rw [← nextEq] at rest
          rw [ih rest otherRest, Prod.ext addressEq valueEq.symm]

/-- No address occurs twice in a list: the rest of the list from there on would be longer than
itself. -/
theorem IsList.nodup {heap : Heap α} {start : Option Nat} {cells : List (Nat × α)}
    (isList : IsList heap start cells) : (cells.map Prod.fst).Nodup := by
  induction cells generalizing start with
  | nil => exact List.nodup_nil
  | cons cell cells ih =>
      rcases isList with ⟨here, next, held, rest⟩
      rw [List.map_cons, List.nodup_cons]
      refine ⟨?_, ih rest⟩
      intro member
      obtain ⟨other, otherMember, addressEq⟩ := List.mem_map.mp member
      obtain ⟨front, back, rfl⟩ := List.append_of_mem otherMember
      obtain ⟨middle, _, again⟩ := segment_append.mp rest
      have middleEq : middle = start := by rw [again.1, here, addressEq]
      have whole : IsList heap start (cell :: (front ++ other :: back)) :=
        ⟨here, next, held, rest⟩
      rw [middleEq] at again
      have lengths := congrArg List.length (IsList.unique again whole)
      simp only [List.length_cons, List.length_append] at lengths
      omega

theorem IsList.free {heap : Heap α} {start : Option Nat} {cell : Nat × α}
    {cells : List (Nat × α)} (isList : IsList heap start (cell :: cells)) :
    start = some cell.1 ∧ ∃ next, heap cell.1 = some { value := cell.2, next := next } ∧
      IsList (heap.free cell.1) next cells := by
  have apart := isList.nodup
  rw [List.map_cons, List.nodup_cons] at apart
  rcases isList with ⟨here, next, held, rest⟩
  refine ⟨here, next, held, Segment.congr rest ?_⟩
  intro later member
  refine Function.update_of_ne ?_ _ _
  rintro same
  exact apart.1 (same ▸ List.mem_map_of_mem member)

theorem IsList.append {heap : Heap α} {start : Option Nat} {front : List (Nat × α)}
    {last : Nat × α} (isList : IsList heap start (front ++ [last])) {address : Nat}
    (fresh : heap address = none) (value : α) :
    IsList ((heap.write address { value := value, next := none }).setNext last.1 (some address))
      start (front ++ [last, (address, value)]) := by
  have apart := isList.nodup
  rw [List.map_append, List.nodup_append] at apart
  have allocated : ∀ cell, cell ∈ front ++ [last] → heap cell.1 ≠ none :=
    fun _ member => Segment.allocated isList member
  obtain ⟨middle, first, here, next, held, atEnd⟩ := segment_append.mp isList
  have lastOld : last.1 ≠ address := by
    rintro rfl
    rw [held] at fresh
    cases fresh
  have heldThere : heap.write address { value := value, next := none } last.1 =
      some { value := last.2, next := next } := by
    rw [Heap.write, Function.update_of_ne lastOld]
    exact held
  simp only [Heap.setNext, heldThere]
  refine segment_append.mpr ⟨middle, Segment.congr first ?_, here, some address, ?_, rfl, none,
    ?_, rfl⟩
  · intro cell member
    have notLast : cell.1 ≠ last.1 :=
      apart.2.2 cell.1 (List.mem_map_of_mem member) last.1 (by simp)
    have notNew : cell.1 ≠ address := by
      rintro same
      exact allocated cell (List.mem_append_left _ member) (same ▸ fresh)
    rw [Heap.write, Heap.write, Function.update_of_ne notLast, Function.update_of_ne notNew]
  · rw [Heap.write, Function.update_self]
  · rw [Heap.write, Heap.write, Function.update_of_ne (Ne.symm lastOld), Function.update_self]

theorem isList_singleton {heap : Heap α} (address : Nat) (value : α) :
    IsList (heap.write address { value := value, next := none }) (some address)
      [(address, value)] :=
  ⟨rfl, none, by rw [Heap.write, Function.update_self], rfl⟩

theorem read_of_eq [Inhabited α] {heap : Heap α} {address : Nat} {cell : Cell α}
    (held : heap address = some cell) : heap.read address = cell := by
  rw [Heap.read, held]
  rfl

/-! ### Freeing a whole list -/

/-- The loop that reads and frees one cell after the other: the values in order, and the heap
at the end.  Nothing when this takes more than `rounds` rounds. -/
def freeAll [Inhabited α] : Nat → Heap α → Option Nat → Option (List α × Heap α)
  | _, heap, none => some ([], heap)
  | 0, _, some _ => none
  | rounds + 1, heap, some address =>
      let cell := heap.read address
      (freeAll rounds (heap.free address) cell.next).map fun later =>
        (cell.value :: later.1, later.2)

/-- The loop ends after as many rounds as there are cells. -/
theorem IsList.freeAll [Inhabited α] {heap : Heap α} {start : Option Nat}
    {cells : List (Nat × α)} (isList : IsList heap start cells) (rounds : Nat) :
    if cells.length ≤ rounds then
      ∃ final, freeAll rounds heap start = some (cells.map Prod.snd, final)
    else LinkedList.freeAll rounds heap start = none := by
  induction cells generalizing heap start rounds with
  | nil =>
      cases isList
      have enough : ([] : List (Nat × α)).length ≤ rounds := Nat.zero_le rounds
      rw [if_pos enough]
      refine ⟨heap, ?_⟩
      cases rounds <;> rfl
  | cons cell cells ih =>
      rcases isList.free with ⟨rfl, next, held, rest⟩
      have readEq := read_of_eq held
      cases rounds with
      | zero => rfl
      | succ rounds =>
          have later := ih rest rounds
          simp only [LinkedList.freeAll, readEq, List.length_cons, Nat.add_le_add_iff_right]
          by_cases enough : cells.length ≤ rounds
          · rw [if_pos enough] at later ⊢
            rcases later with ⟨final, run⟩
            exact ⟨final, by rw [run]; rfl⟩
          · rw [if_neg enough] at later ⊢
            rw [later]
            rfl

end LinkedList
