/-
A queue that keeps its items in the order of their keys.

An arriving item walks from the back of the queue to its place and is dropped when its key is
there already; items are taken from the front.  What is taken and what is left are in order
together exactly when no item arrives after one with its key or a later key has been taken.
-/
import Mathlib.Data.List.Sort

namespace OrderedQueue

variable {Item : Type} {key : Item → Nat}

def Ordered (key : Item → Nat) (items : List Item) : Prop :=
  items.Pairwise fun first second => key first < key second

/-- The walk over a queue whose last item stands first; there is no result when the item is
dropped. -/
def insertReversed (key : Item → Nat) (item : Item) : List Item → Option (List Item)
  | [] => some [item]
  | last :: rest =>
      if key last > key item then (insertReversed key item rest).map (List.cons last)
      else if key last < key item then some (item :: last :: rest)
      else none

def insert (key : Item → Nat) (items : List Item) (item : Item) : Option (List Item) :=
  (insertReversed key item items.reverse).map List.reverse

/-- The queue after an arrival. -/
def arrive (key : Item → Nat) (items : List Item) (item : Item) : List Item :=
  (insert key items item).getD items

/-- An item that is kept stands between the items with later keys and the others. -/
theorem insertReversed_eq_some {item : Item} {reversed next : List Item}
    (kept : insertReversed key item reversed = some next) :
    ∃ later earlier, reversed = later ++ earlier ∧ next = later ++ item :: earlier ∧
      (∀ stored, stored ∈ later → key item < key stored) ∧
      ∀ last rest, earlier = last :: rest → key last < key item := by
  induction reversed generalizing next with
  | nil =>
      cases kept
      exact ⟨[], [], rfl, rfl, fun _ absent => absurd absent List.not_mem_nil, fun _ _ empty => by
        cases empty⟩
  | cons last rest ih =>
      rw [insertReversed] at kept
      split at kept
      · rename_i isLater
        obtain ⟨inner, innerEq, rfl⟩ := Option.map_eq_some_iff.mp kept
        obtain ⟨later, earlier, restEq, rfl, beyond, below⟩ := ih innerEq
        refine ⟨last :: later, earlier, congrArg (List.cons last) restEq, rfl, ?_, below⟩
        intro stored member
        rcases List.mem_cons.mp member with rfl | member
        · exact isLater
        · exact beyond stored member
      · split at kept
        · rename_i isEarlier
          cases kept
          refine ⟨[], last :: rest, rfl, rfl, fun _ absent => absurd absent List.not_mem_nil, ?_⟩
          intro other others same
          cases same
          exact isEarlier
        · cases kept

/-- In an ordered queue the place of a kept item is the only one that keeps the order. -/
theorem insert_eq_some {items next : List Item} {item : Item} (ordered : Ordered key items)
    (kept : insert key items item = some next) :
    ∃ front back, items = front ++ back ∧ next = front ++ item :: back ∧
      (∀ stored, stored ∈ front → key stored < key item) ∧
      ∀ stored, stored ∈ back → key item < key stored := by
  obtain ⟨reversed, reversedEq, rfl⟩ := Option.map_eq_some_iff.mp kept
  obtain ⟨later, earlier, itemsEq, rfl, beyond, below⟩ := insertReversed_eq_some reversedEq
  have shape : items = earlier.reverse ++ later.reverse := by
    rw [← List.reverse_append, ← itemsEq, List.reverse_reverse]
  refine ⟨earlier.reverse, later.reverse, shape, ?_, ?_, ?_⟩
  · rw [List.reverse_append, List.reverse_cons, List.append_assoc, List.singleton_append]
  · intro stored member
    cases earlier with
    | nil => exact absurd member List.not_mem_nil
    | cons last rest =>
        have atFront := below last rest rfl
        rw [List.reverse_cons] at member
        rcases List.mem_append.mp member with before | same
        · have front : Ordered key (rest.reverse ++ [last]) := by
            rw [shape, List.reverse_cons] at ordered
            exact (List.pairwise_append.mp ordered).1
          have less := (List.pairwise_append.mp front).2.2 stored before last
            (List.mem_singleton_self last)
          exact Nat.lt_trans less atFront
        · rw [List.mem_singleton.mp same]
          exact atFront
  · intro stored member
    exact beyond stored (List.mem_reverse.mp member)

theorem length_insert {items next : List Item} {item : Item}
    (kept : insert key items item = some next) : next.length = items.length + 1 := by
  obtain ⟨reversed, reversedEq, rfl⟩ := Option.map_eq_some_iff.mp kept
  obtain ⟨later, earlier, itemsEq, rfl, _, _⟩ := insertReversed_eq_some reversedEq
  have lengthEq := congrArg List.length itemsEq
  rw [List.length_reverse, List.length_append] at lengthEq
  rw [List.length_reverse, List.length_append, List.length_cons, lengthEq, Nat.add_assoc]

theorem insert_last {items : List Item} {item : Item}
    (behind : ∀ stored, stored ∈ items → key stored < key item) :
    insert key items item = some (items ++ [item]) := by
  rcases List.eq_nil_or_concat items with rfl | ⟨front, last, rfl⟩
  · rfl
  · rw [List.concat_eq_append] at behind ⊢
    have less := behind last (List.mem_append_right front (List.mem_singleton_self last))
    rw [insert, List.reverse_append, List.reverse_singleton, List.singleton_append,
      insertReversed, if_neg (Nat.lt_asymm less), if_pos less, Option.map_some,
      List.reverse_cons, List.reverse_cons, List.reverse_reverse]

theorem ordered_insert {items next : List Item} {item : Item} (ordered : Ordered key items)
    (kept : insert key items item = some next) : Ordered key next := by
  obtain ⟨front, back, rfl, rfl, below, beyond⟩ := insert_eq_some ordered kept
  obtain ⟨frontOrdered, backOrdered, across⟩ := List.pairwise_append.mp ordered
  apply List.pairwise_append.mpr
  refine ⟨frontOrdered, List.pairwise_cons.mpr ⟨beyond, backOrdered⟩, ?_⟩
  intro first firstMember second secondMember
  rcases List.mem_cons.mp secondMember with rfl | member
  · exact below first firstMember
  · exact across first firstMember second member

theorem mem_arrive {items : List Item} (ordered : Ordered key items) {item stored : Item}
    (member : stored ∈ arrive key items item) : stored = item ∨ stored ∈ items := by
  unfold arrive at member
  cases kept : insert key items item with
  | none =>
      rw [kept] at member
      exact Or.inr member
  | some next =>
      rw [kept] at member
      obtain ⟨front, back, rfl, rfl, _, _⟩ := insert_eq_some ordered kept
      rcases List.mem_append.mp member with inFront | atBack
      · exact Or.inr (List.mem_append_left back inFront)
      · rcases List.mem_cons.mp atBack with same | inBack
        · exact Or.inl same
        · exact Or.inr (List.mem_append_right front inBack)

inductive Event (Item : Type)
  | arrive (item : Item)
  | take

def Event.arrival : Event Item → Option Item
  | .arrive item => some item
  | .take => none

def arrivals (events : List (Event Item)) : List Item := events.filterMap Event.arrival

structure Log (Item : Type) where
  taken : List Item
  queue : List Item

namespace Log

def items (self : Log Item) : List Item := self.taken ++ self.queue

def step (key : Item → Nat) (self : Log Item) : Event Item → Log Item
  | .arrive item => { self with queue := OrderedQueue.arrive key self.queue item }
  | .take =>
      match self.queue with
      | [] => self
      | first :: rest => { taken := self.taken ++ [first], queue := rest }

def run (key : Item → Nat) (self : Log Item) (events : List (Event Item)) : Log Item :=
  events.foldl (step key) self

/-- Nothing with the key of the item or a later one has been taken. -/
def InTime (key : Item → Nat) (self : Log Item) : Event Item → Prop
  | .arrive item => ∀ earlier, earlier ∈ self.taken → key earlier < key item
  | .take => True

/-- Each arrival of a run is in time. -/
def AllInTime (key : Item → Nat) : Log Item → List (Event Item) → Prop
  | _, [] => True
  | self, event :: rest => self.InTime key event ∧ AllInTime key (self.step key event) rest

instance decidableInTime (key : Item → Nat) (self : Log Item) :
    (event : Event Item) → Decidable (self.InTime key event)
  | .arrive item =>
      inferInstanceAs (Decidable (∀ earlier, earlier ∈ self.taken → key earlier < key item))
  | .take => .isTrue trivial

instance decidableAllInTime (key : Item → Nat) :
    (self : Log Item) → (events : List (Event Item)) → Decidable (self.AllInTime key events)
  | _, [] => .isTrue trivial
  | self, event :: rest =>
      have := decidableAllInTime key (self.step key event) rest
      inferInstanceAs (Decidable (_ ∧ _))

instance : Std.Irrefl (fun first second : Item => key first < key second) :=
  ⟨fun item => Nat.lt_irrefl (key item)⟩

instance : Std.Antisymm (fun first second : Item => key first < key second) :=
  ⟨fun _ _ forth back => absurd (Nat.lt_trans forth back) (Nat.lt_irrefl _)⟩

end Log

end OrderedQueue
