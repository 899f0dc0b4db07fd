/-
What the receiving frame object is for: a list of NAL units that grows at its end.

A received payload adds NAL units, extends the last one, or is rejected and empties
the list.  Bytes, offsets and tables do not occur here; the frame object refines this
model as long as payloads are well formed.
-/
import DShowCapture.H264Frame.State
import DShowCapture.Library.AnnexB
import DShowCapture.Library.RFC6184

namespace DShowCapture

open AnnexB

/-- A payload by the branch that its first byte selects. -/
inductive Payload
  | empty
  | single (first : UInt8) (rest : List UInt8)
  | stap (header : UInt8) (nals : List (List UInt8))
  | fragment (indicator header : UInt8) (body : List UInt8)
  | unsupported (first : UInt8) (rest : List UInt8)

namespace Payload

def bytes : Payload → List UInt8
  | .empty => []
  | .single first rest => first :: rest
  | .stap header nals => RFC6184.stapPayload header nals
  | .fragment indicator header body => indicator :: header :: body
  | .unsupported first rest => first :: rest

def SingleType (type : UInt8) : Prop := 1 ≤ type ∧ type ≤ 12

instance (type : UInt8) : Decidable (SingleType type) :=
  inferInstanceAs (Decidable (_ ∧ _))

def WellFormed : Payload → Prop
  | .empty => True
  | .single first _ => SingleType (first &&& 0x1f)
  | .stap header nals =>
      header &&& 0x1f = 24 ∧ ∀ nal, nal ∈ nals → nal ≠ [] ∧ nal.length < 65536
  | .fragment indicator _ _ => indicator &&& 0x1f = 28
  | .unsupported first _ =>
      ¬ SingleType (first &&& 0x1f) ∧ first &&& 0x1f ≠ 24 ∧ first &&& 0x1f ≠ 28

instance : (payload : Payload) → Decidable payload.WellFormed
  | .empty => .isTrue trivial
  | .single first _ => inferInstanceAs (Decidable (SingleType (first &&& 0x1f)))
  | .stap header nals =>
      inferInstanceAs (Decidable
        (header &&& 0x1f = 24 ∧ ∀ nal, nal ∈ nals → nal ≠ [] ∧ nal.length < 65536))
  | .fragment indicator _ _ => inferInstanceAs (Decidable (indicator &&& 0x1f = 28))
  | .unsupported _ _ => inferInstanceAs (Decidable (¬ _ ∧ _ ≠ _ ∧ _ ≠ _))

def Short : Payload → Prop
  | .single _ rest => rest.length + 5 ≤ maxFrameSize
  | .fragment _ _ body => body.length + 5 ≤ maxFrameSize
  | _ => True

theorem short_of_length {payload : Payload} (small : payload.bytes.length < 65536) :
    payload.Short := by
  cases payload with
  | single first rest =>
      simp only [bytes, List.length_cons] at small
      unfold Short maxFrameSize
      omega
  | fragment indicator header body =>
      simp only [bytes, List.length_cons] at small
      unfold Short maxFrameSize
      omega
  | empty => trivial
  | stap header nals => trivial
  | unsupported first rest => trivial

/-- Well-formed payloads of the same bytes are the same: the first byte selects the branch. -/
theorem eq_of_bytes {payload other : Payload} (formed : payload.WellFormed)
    (formedOther : other.WellFormed) (same : payload.bytes = other.bytes) : payload = other := by
  have aggregates : ∀ {header nals header' nals'}, (Payload.stap header nals).WellFormed →
      (Payload.stap header' nals').WellFormed →
        RFC6184.stapPayload header nals = RFC6184.stapPayload header' nals' →
          Payload.stap header nals = Payload.stap header' nals' := by
    intro header nals header' nals' formed formed' same
    obtain ⟨headerEq, unitsEq⟩ := List.cons.inj same
    rw [headerEq, RFC6184.stapUnits_injective formed.2 formed'.2 unitsEq]
  have headed : ∀ header nals, RFC6184.stapPayload header nals =
      header :: RFC6184.stapUnits nals := fun _ _ => rfl
  cases payload with
  | stap header nals =>
      cases other with
      | stap header' nals' => exact aggregates formed formedOther same
      | _ =>
          simp only [bytes, WellFormed, SingleType] at formed formedOther same
          grind
  | _ =>
      cases other <;> simp only [bytes, WellFormed, SingleType] at formed formedOther same <;>
        grind
/-- The start bit and the end bit of a fragment header. -/
def startBit (header : UInt8) : Bool := header &&& 0x80 != 0

def endBit (header : UInt8) : Bool := header &&& 0x40 != 0

/-- The first byte of the NAL unit that a first fragment opens. -/
def openedFirst (indicator header : UInt8) : UInt8 :=
  indicator &&& 0xe0 ||| header &&& 0x1f

end Payload

/-- The frame under assembly: its NAL units, and the number of fragments of the last one
received so far while that one is still open. -/
structure Assembly where
  nals : List (List UInt8)
  openFragments : Nat
  deriving DecidableEq, Repr

def extendLast : List (List UInt8) → List UInt8 → List (List UInt8)
  | [], _ => []
  | [last], body => [last ++ body]
  | nal :: next :: rest, body => nal :: extendLast (next :: rest) body

namespace Assembly

def empty : Assembly := { nals := [], openFragments := 0 }

def stream (self : Assembly) : List UInt8 := byteStream self.nals

def size (self : Assembly) : Nat := self.stream.length

/-- A NAL unit is added behind a start code when there is room for both. -/
def addNAL (self : Assembly) (nal : List UInt8) : Assembly :=
  if self.size + nal.length + 4 ≤ maxFrameSize then
    { self with nals := self.nals ++ [nal] }
  else self

def extend (self : Assembly) (body : List UInt8) : Assembly :=
  if self.size + body.length ≤ maxFrameSize then
    { self with nals := extendLast self.nals body }
  else self

/-- One received payload; nothing when it is rejected. -/
def receive (self : Assembly) : Payload → Option Assembly
  | .empty => some self
  | .single first rest => some (self.addNAL (first :: rest))
  | .stap _ nals => some (nals.foldl addNAL self)
  | .fragment indicator header body =>
      match Payload.startBit header, Payload.endBit header with
      | true, false =>
          if self.openFragments ≠ 0 then some { self with openFragments := 1 }
          else
            some (addNAL { self with openFragments := 1 }
              (Payload.openedFirst indicator header :: body))
      | false, false =>
          if self.openFragments ≠ 0 then
            some (extend
              { self with openFragments := (self.openFragments + 1) % 65536 } body)
          else none
      | false, true =>
          if self.openFragments ≠ 0 then some (extend { self with openFragments := 0 } body)
          else none
      | true, true => none
  | .unsupported _ _ => none

/-- What holds of the assembly along every run: the NAL units are not empty, they fit
into the buffer, and an open NAL unit is there. -/
structure Valid (assembly : Assembly) : Prop where
  nonempty : ∀ nal, nal ∈ assembly.nals → nal ≠ []
  fits : assembly.size ≤ maxFrameSize
  counter : assembly.openFragments < 65536
  opened : assembly.openFragments ≠ 0 → assembly.nals ≠ []

theorem valid_empty : empty.Valid := by
  refine
    { nonempty := ?_
      fits := ?_
      counter := by decide
      opened := ?_ }
  · intro nal member
    cases member
  · exact Nat.zero_le _
  · intro opened
    exact absurd rfl opened

theorem addNAL_of_room {self : Assembly} {nal : List UInt8}
    (room : self.size + nal.length + 4 ≤ maxFrameSize) :
    (self.addNAL nal).nals = self.nals ++ [nal] ∧
      (self.addNAL nal).size = self.size + nal.length + 4 := by
  have shape : self.addNAL nal = { self with nals := self.nals ++ [nal] } := if_pos room
  rw [shape]
  refine ⟨rfl, ?_⟩
  simp only [size, stream, byteStream_append, byteStream_singleton, List.length_append,
    List.length_cons, List.length_nil]
  omega

@[simp] theorem openFragments_addNAL (self : Assembly) (nal : List UInt8) :
    (self.addNAL nal).openFragments = self.openFragments := by
  unfold addNAL
  split <;> rfl

theorem addNAL_withCounter (self : Assembly) (counter : Nat) (nal : List UInt8) :
    addNAL { self with openFragments := counter } nal =
      { self.addNAL nal with openFragments := counter } := by
  unfold addNAL
  split <;> split <;> first | rfl | contradiction

@[simp] theorem openFragments_extend (self : Assembly) (body : List UInt8) :
    (self.extend body).openFragments = self.openFragments := by
  unfold extend
  split <;> rfl

theorem extendLast_append (front : List (List UInt8)) (last body : List UInt8) :
    extendLast (front ++ [last]) body = front ++ [last ++ body] := by
  induction front with
  | nil => rfl
  | cons nal rest ih =>
      cases rest with
      | nil => rfl
      | cons next rest =>
          simp only [List.cons_append, extendLast] at ih ⊢
          rw [ih]

theorem exists_last {nals : List (List UInt8)} (nonempty : nals ≠ []) :
    ∃ front last, nals = front ++ [last] :=
  ⟨nals.dropLast, nals.getLast nonempty, (List.dropLast_append_getLast nonempty).symm⟩

theorem byteStream_extendLast {nals : List (List UInt8)} (nonempty : nals ≠ [])
    (body : List UInt8) :
    byteStream (extendLast nals body) = byteStream nals ++ body := by
  obtain ⟨front, last, rfl⟩ := exists_last nonempty
  rw [extendLast_append, byteStream_append, byteStream_append, byteStream_singleton,
    byteStream_singleton]
  simp only [List.append_assoc]

theorem valid_addNAL {self : Assembly} (valid : self.Valid) {nal : List UInt8}
    (nonempty : nal ≠ []) : (self.addNAL nal).Valid := by
  by_cases room : self.size + nal.length + 4 ≤ maxFrameSize
  · have added := addNAL_of_room room
    refine
      { nonempty := ?_
        fits := ?_
        counter := ?_
        opened := ?_ }
    · intro other member
      rw [added.1] at member
      rcases List.mem_append.mp member with earlier | isNew
      · exact valid.nonempty other earlier
      · rw [List.mem_singleton.mp isNew]
        exact nonempty
    · rw [added.2]
      exact room
    · rw [openFragments_addNAL]
      exact valid.counter
    · intro _
      rw [added.1]
      exact List.append_ne_nil_of_right_ne_nil _ (List.cons_ne_nil nal [])
  · have unchanged : self.addNAL nal = self := if_neg room
    rw [unchanged]
    exact valid

theorem valid_foldl_addNAL {self : Assembly} (valid : self.Valid)
    {nals : List (List UInt8)} (nonempty : ∀ nal, nal ∈ nals → nal ≠ []) :
    (nals.foldl addNAL self).Valid := by
  induction nals generalizing self with
  | nil => exact valid
  | cons nal rest ih =>
      exact ih (valid_addNAL valid (nonempty nal List.mem_cons_self))
        (fun other member => nonempty other (List.mem_cons_of_mem nal member))

theorem valid_extend {self : Assembly} (valid : self.Valid) (opened : self.nals ≠ [])
    {counter : Nat} (inRange : counter < 65536) (body : List UInt8) :
    (extend { self with openFragments := counter } body).Valid := by
  obtain ⟨front, last, nalsEq⟩ := exists_last opened
  by_cases room : size { self with openFragments := counter } + body.length ≤ maxFrameSize
  · rw [extend, if_pos room]
    refine
      { nonempty := ?_
        fits := ?_
        counter := inRange
        opened := ?_ }
    · simp only [nalsEq, extendLast_append]
      intro nal member
      rcases List.mem_append.mp member with earlier | isLast
      · apply valid.nonempty nal
        rw [nalsEq]
        exact List.mem_append_left _ earlier
      · rw [List.mem_singleton.mp isLast]
        apply List.append_ne_nil_of_left_ne_nil
        apply valid.nonempty last
        rw [nalsEq]
        exact List.mem_append_right _ List.mem_cons_self
    · simp only [size, stream, byteStream_extendLast opened, List.length_append]
      exact room
    · intro _
      simp only [nalsEq, extendLast_append]
      exact List.append_ne_nil_of_right_ne_nil _ (List.cons_ne_nil _ [])
  · rw [extend, if_neg room]
    exact
      { nonempty := valid.nonempty
        fits := valid.fits
        counter := inRange
        opened := fun _ => opened }

theorem valid_receive {self next : Assembly} {payload : Payload} (valid : self.Valid)
    (wellFormed : payload.WellFormed) (short : payload.Short)
    (received : self.receive payload = some next) : next.Valid := by
  cases payload with
  | empty =>
      cases received
      exact valid
  | single first rest =>
      cases received
      exact valid_addNAL valid (List.cons_ne_nil first rest)
  | stap header nals =>
      cases received
      exact valid_foldl_addNAL valid fun nal member => (wellFormed.2 nal member).1
  | fragment indicator header body =>
      simp only [receive] at received
      split at received
      · split at received
        · rename_i isOpen
          cases received
          exact { valid with
            counter := (by decide : 1 < 65536)
            opened := fun _ => valid.opened isOpen }
        · cases received
          let opening : Assembly := { self with openFragments := 1 }
          let nal := Payload.openedFirst indicator header :: body
          by_cases room : opening.size + nal.length + 4 ≤ maxFrameSize
          · have added := addNAL_of_room room
            have nonempty : ∀ other, other ∈ self.nals ++ [nal] → other ≠ [] := by
              intro other member
              rcases List.mem_append.mp member with earlier | isNew
              · exact valid.nonempty other earlier
              · rw [List.mem_singleton.mp isNew]
                exact List.cons_ne_nil _ _
            refine
              { nonempty := by rw [added.1]; exact nonempty
                fits := by rw [added.2]; exact room
                counter := by rw [openFragments_addNAL]; exact (by decide : 1 < 65536)
                opened := ?_ }
            intro _
            rw [added.1]
            exact List.append_ne_nil_of_right_ne_nil _ (List.cons_ne_nil nal [])
          · have unchanged : opening.addNAL nal = opening := if_neg room
            rw [unchanged]
            refine { valid with counter := (by decide : 1 < 65536), opened := ?_ }
            intro _ isEmpty
            apply room
            have sizeZero : opening.size = 0 := by
              rw [size, stream, isEmpty]
              rfl
            have nalLength : nal.length = body.length + 1 := List.length_cons
            have bodyShort : body.length + 5 ≤ maxFrameSize := short
            omega
      · split at received
        · rename_i isOpen
          cases received
          exact valid_extend valid (valid.opened isOpen) (Nat.mod_lt _ (by decide)) body
        · cases received
      · split at received
        · rename_i isOpen
          cases received
          exact valid_extend valid (valid.opened isOpen) (by decide) body
        · cases received
      · cases received
  | unsupported first rest => cases received

theorem four_mul_length_le_size (self : Assembly) : 4 * self.nals.length ≤ self.size := by
  have bound : ∀ nals : List (List UInt8),
      4 * nals.length ≤ (nals.map fun nal => nal.length + 4).sum := by
    intro nals
    induction nals with
    | nil => exact Nat.le_refl 0
    | cons nal rest ih =>
        rw [List.length_cons, List.map_cons, List.sum_cons]
        omega
  rw [size, stream, length_byteStream]
  exact bound self.nals

end Assembly

end DShowCapture
