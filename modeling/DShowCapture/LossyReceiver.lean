/-
What the receiver hands over when packets are lost.

The receiver knows of a NAL unit under way only that some fragment of it was the last one
accepted.  As long as no packet is lost at such a point, and as long as a fragmented NAL
unit fits into the buffer either wholly or with none of its fragments, only NAL units that
were sent are handed over.
-/
import DShowCapture.AccessUnit

namespace DShowCapture

open AnnexB RFC6184 Chunks

structure Shipped where
  packet : Packet
  nal : List UInt8

def shipNAL (nal : List UInt8) (marker : Bool) : List Shipped :=
  (markLast marker (Carriage.ofNAL payloadLimit nal).payloads).map fun packet =>
    { packet := packet, nal := nal }

/-- The packets of an access unit. -/
def ship : List (List UInt8) → List Shipped
  | [] => []
  | [nal] => shipNAL nal true
  | nal :: next :: rest => shipNAL nal false ++ ship (next :: rest)

def Payload.BeginsFragments : Payload → Bool
  | .fragment _ header _ => Payload.startBit header
  | _ => false

def lastBodyLength (nal : List UInt8) : Nat :=
  ((chunks (payloadLimit - 2) nal.tail).getLastD []).length

/-- The NAL unit fits into a buffer that holds `size` bytes, or not even its last fragment
does. -/
def RoomFor (size : Nat) (nal : List UInt8) : Prop :=
  size + nal.length + 4 ≤ maxFrameSize ∨ maxFrameSize < size + lastBodyLength nal

/-- No packet is lost while a fragmented NAL unit is open, and fragmented NAL units are
begun only with room for them.  The state of the receiver is the number of open fragments
and the number of bytes held; `gap` tells whether a packet was lost since the last one was
received. -/
structure Careful (openFragments size : Nat) (gap : Bool) (shipped : Shipped) : Prop where
  gapless : gap = true → openFragments = 0
  room : openFragments = 0 → shipped.packet.payload.BeginsFragments = true →
    RoomFor size shipped.nal

namespace Receiver

inductive LossyRuns : Receiver → Bool → List Shipped → List Outcome → Prop
  | nil (receiver : Receiver) (gap : Bool) : LossyRuns receiver gap [] []
  | lost {receiver : Receiver} {gap : Bool} {shipped : Shipped} {rest : List Shipped}
      {outcomes : List Outcome} (later : LossyRuns receiver true rest outcomes) :
      LossyRuns receiver gap (shipped :: rest) outcomes
  | received {receiver : Receiver} {gap : Bool} {shipped : Shipped} {rest : List Shipped}
      {outcomes : List Outcome} (key : Bool)
      (careful : Careful receiver.assembly.openFragments receiver.assembly.size gap shipped)
      (later : LossyRuns (receiver.step shipped.packet key).1 false rest outcomes) :
      LossyRuns receiver gap (shipped :: rest)
        ((receiver.step shipped.packet key).2 :: outcomes)

/-! ### Between two NAL units -/

/-- What holds of the receiver when the NAL units `past` have been shipped: it holds some of
them, or it waits for a fragment that was lost. -/
inductive Between (past : List (List UInt8)) : Assembly → Bool → Prop
  | closed {assembly : Assembly} (gap : Bool) (isClosed : assembly.openFragments = 0)
      (held : assembly.nals.Sublist past) : Between past assembly gap
  | stuck {assembly : Assembly} (isOpen : assembly.openFragments ≠ 0) :
      Between past assembly true

theorem Between.lost {past : List (List UInt8)} {assembly : Assembly} {gap : Bool}
    (between : Between past assembly gap) : Between past assembly true := by
  cases between with
  | closed gap isClosed held => exact .closed true isClosed held
  | stuck isOpen => exact .stuck isOpen

theorem Between.append {past : List (List UInt8)} {assembly : Assembly} {gap : Bool}
    (between : Between past assembly gap) (nal : List UInt8) :
    Between (past ++ [nal]) assembly gap := by
  cases between with
  | closed gap isClosed held =>
      exact .closed gap isClosed (List.sublist_append_of_sublist_left held)
  | stuck isOpen => exact .stuck isOpen

/-- A packet that is received finds the receiver closed. -/
theorem Between.closed_of_careful {past : List (List UInt8)} {assembly : Assembly}
    {gap : Bool} {shipped : Shipped} (between : Between past assembly gap)
    (careful : Careful assembly.openFragments assembly.size gap shipped) :
    assembly.openFragments = 0 ∧ assembly.nals.Sublist past := by
  cases between with
  | closed gap isClosed held => exact ⟨isClosed, held⟩
  | stuck isOpen => exact absurd (careful.gapless rfl) isOpen

theorem between_step {past : List (List UInt8)} {receiver : Receiver} {packet : Packet}
    (key : Bool)
    (after : match receiver.assembly.receive packet.payload with
      | none => True
      | some next => next.openFragments = 0 ∧ next.nals.Sublist past) :
    Between past (receiver.step packet key).1.assembly false ∧
      ∀ nals, (receiver.step packet key).2 = .delivered nals → nals.Sublist past := by
  constructor
  · have emptied : Between past Assembly.empty false :=
      .closed false rfl (List.nil_sublist past)
    rw [assembly_step]
    cases receivedEq : receiver.assembly.receive packet.payload with
    | none => exact emptied
    | some next =>
        rw [receivedEq] at after
        cases packet.marker with
        | true => exact emptied
        | false => exact .closed false after.1 after.2
  · intro nals delivered
    obtain ⟨_, next, receivedEq, rfl⟩ := delivered_step delivered
    rw [receivedEq] at after
    exact after.2

/-! ### Within a NAL unit -/

inductive Within (past : List (List UInt8)) (first : UInt8) (sent : List UInt8)
    (left : List (List UInt8)) : Assembly → Bool → Prop
  | between {assembly : Assembly} {gap : Bool} (here : Between past assembly gap) :
      Within past first sent left assembly gap
  | stored {front : List (List UInt8)} {counter : Nat} (isOpen : counter ≠ 0)
      (held : front.Sublist past) (inRange : counter + left.length ≤ 65536)
      (room : streamSize (front ++ [first :: sent]) + left.flatten.length ≤ maxFrameSize) :
      Within past first sent left
        { nals := front ++ [first :: sent], openFragments := counter } false
  | swallowed {assembly : Assembly} (isOpen : assembly.openFragments ≠ 0)
      (held : assembly.nals.Sublist past)
      (full : ∀ body, body ∈ left → maxFrameSize < assembly.size + body.length) :
      Within past first sent left assembly false

theorem Within.lost {past : List (List UInt8)} {first : UInt8} {sent : List UInt8}
    {left : List (List UInt8)} {assembly : Assembly} {gap : Bool}
    (within : Within past first sent left assembly gap) : Between past assembly true := by
  cases within with
  | between here => exact here.lost
  | stored isOpen held inRange room => exact .stuck isOpen
  | swallowed isOpen held full => exact .stuck isOpen

section Fragment

variable {past left : List (List UInt8)} {first : UInt8} {sent body : List UInt8}
  {assembly : Assembly} {gap : Bool} {shipped : Shipped}

/-- A later fragment finds the receiver closed, and is rejected, or in the middle of the
NAL unit. -/
theorem receive_closed (isClosed : assembly.openFragments = 0) (isLast : Bool) :
    assembly.receive (.fragment (fuIndicator first) (fuHeader first false isLast) body) =
      none := by
  cases isLast <;>
    simp only [Assembly.receive, Payload.startBit, Payload.endBit, fuHeader_startBit,
      fuHeader_endBit, isClosed, ne_eq, not_true_eq_false, if_false]

theorem receive_swallowed (isOpen : assembly.openFragments ≠ 0)
    (full : maxFrameSize < assembly.size + body.length) (isLast : Bool) :
    assembly.receive (.fragment (fuIndicator first) (fuHeader first false isLast) body) =
      some
        { assembly with
          openFragments := if isLast then 0 else (assembly.openFragments + 1) % 65536 } := by
  have noRoom : ∀ counter, Assembly.extend { assembly with openFragments := counter } body =
      { assembly with openFragments := counter } := by
    intro counter
    exact if_neg (Nat.not_le_of_lt full)
  cases isLast <;>
    simp only [Assembly.receive, Payload.startBit, Payload.endBit, fuHeader_startBit,
      fuHeader_endBit, ne_eq, isOpen, not_false_eq_true, if_true, Bool.false_eq_true,
      if_false, noRoom]

theorem Within.middle (within : Within past first sent (body :: left) assembly gap)
    (careful : Careful assembly.openFragments assembly.size gap shipped) (someLeft : left ≠ []) :
    match assembly.receive
      (.fragment (fuIndicator first) (fuHeader first false false) body) with
    | none => True
    | some next => Within past first (sent ++ body) left next false := by
  cases within with
  | between here =>
      rw [receive_closed (here.closed_of_careful careful).1]
      trivial
  | @stored front counter isOpen held inRange room =>
      have positive := List.length_pos_iff.mpr someLeft
      rw [List.length_cons] at inRange
      rw [List.flatten_cons, List.length_append] at room
      have counterEq : (counter + 1) % 65536 = counter + 1 := by omega
      have sizeEq : streamSize (front ++ [first :: (sent ++ body)]) =
          streamSize (front ++ [first :: sent]) + body.length := by
        simp only [streamSize_append, streamSize_cons, streamSize_nil, List.length_cons,
          List.length_append]
        omega
      rw [Assembly.receive_later_fragment false isOpen (by omega)]
      simp only [Bool.false_eq_true, if_false, counterEq, List.cons_append]
      exact .stored (Nat.succ_ne_zero counter) held (by omega) (by rw [sizeEq]; omega)
  | swallowed isOpen held full =>
      rw [receive_swallowed isOpen (full body List.mem_cons_self)]
      by_cases wraps : (assembly.openFragments + 1) % 65536 = 0
      · exact .between (.closed false wraps held)
      · exact .swallowed wraps held fun other member =>
          full other (List.mem_cons_of_mem body member)

theorem Within.last (within : Within past first sent [body] assembly gap)
    (careful : Careful assembly.openFragments assembly.size gap shipped) :
    match assembly.receive
      (.fragment (fuIndicator first) (fuHeader first false true) body) with
    | none => True
    | some next =>
        next.openFragments = 0 ∧ next.nals.Sublist (past ++ [first :: (sent ++ body)]) := by
  cases within with
  | between here =>
      rw [receive_closed (here.closed_of_careful careful).1]
      trivial
  | @stored front counter isOpen held inRange room =>
      rw [List.flatten_singleton] at room
      rw [Assembly.receive_later_fragment true isOpen room]
      exact ⟨rfl, held.append (List.Sublist.refl _)⟩
  | swallowed isOpen held full =>
      rw [receive_swallowed isOpen (full body List.mem_cons_self)]
      exact ⟨rfl, List.sublist_append_of_sublist_left held⟩

end Fragment

/-! ### Runs -/

theorem markLast_cons {marker : Bool} {payload : Payload} {rest : List Payload}
    (someLeft : rest ≠ []) :
    markLast marker (payload :: rest) =
      { payload := payload, marker := false } :: markLast marker rest := by
  cases rest with
  | nil => exact absurd rfl someLeft
  | cons next rest => rfl

theorem fragmentPayloads_ne_nil {first : UInt8} {start : Bool} {bodies : List (List UInt8)}
    (someLeft : bodies ≠ []) : fragmentPayloads first start bodies ≠ [] := by
  cases bodies with
  | nil => exact absurd rfl someLeft
  | cons body rest => cases rest <;> exact List.cons_ne_nil _ _

def GoesOn (past : List (List UInt8)) (rest : List Shipped) (outcomes : List Outcome) : Prop :=
  ∃ receiver gap later, LossyRuns receiver gap rest later ∧
    Between past receiver.assembly gap ∧
    ∀ nals, .delivered nals ∈ outcomes → nals.Sublist past ∨ .delivered nals ∈ later

theorem GoesOn.trans {past more : List (List UInt8)} {middle rest : List Shipped}
    {outcomes : List Outcome} (goesOn : GoesOn past middle outcomes)
    (next : ∀ {receiver gap later}, LossyRuns receiver gap middle later →
      Between past receiver.assembly gap → GoesOn (past ++ more) rest later) :
    GoesOn (past ++ more) rest outcomes := by
  rcases goesOn with ⟨_, _, _, runs, between, handed⟩
  obtain ⟨receiver, gap, later, runsLater, betweenLater, handedLater⟩ := next runs between
  refine ⟨receiver, gap, later, runsLater, betweenLater, ?_⟩
  intro nals member
  rcases handed nals member with isPast | inside
  · exact Or.inl (List.sublist_append_of_sublist_left isPast)
  · exact handedLater nals inside

theorem GoesOn.cons {past : List (List UInt8)} {rest : List Shipped} {outcomes : List Outcome}
    (goesOn : GoesOn past rest outcomes) {outcome : Outcome}
    (silent : ∀ nals, outcome ≠ .delivered nals) : GoesOn past rest (outcome :: outcomes) := by
  rcases goesOn with ⟨receiver, gap, later, runs, between, handed⟩
  refine ⟨receiver, gap, later, runs, between, ?_⟩
  intro nals member
  rcases List.mem_cons.mp member with isHead | inside
  · exact absurd isHead.symm (silent nals)
  · exact handed nals inside

theorem goesOn_last {past : List (List UInt8)} {rest : List Shipped} {outcomes : List Outcome}
    {receiver : Receiver} {shipped : Shipped} {key : Bool}
    (after : match receiver.assembly.receive shipped.packet.payload with
      | none => True
      | some next => next.openFragments = 0 ∧ next.nals.Sublist past)
    (later : LossyRuns (receiver.step shipped.packet key).1 false rest outcomes) :
    GoesOn past rest ((receiver.step shipped.packet key).2 :: outcomes) := by
  obtain ⟨between, handed⟩ := between_step key after
  refine ⟨_, false, outcomes, later, between, ?_⟩
  intro nals member
  rcases List.mem_cons.mp member with isHead | inside
  · exact Or.inl (handed nals isHead.symm)
  · exact Or.inr inside

theorem silent_of_unmarked {receiver : Receiver} {packet : Packet} {key : Bool}
    (unmarked : packet.marker = false) (nals : List (List UInt8)) :
    (receiver.step packet key).2 ≠ .delivered nals := by
  intro delivered
  rw [(delivered_step delivered).1] at unmarked
  cases unmarked

theorem LossyRuns.fragments {past : List (List UInt8)} {first : UInt8} {nal : List UInt8}
    {marker : Bool} {bodies : List (List UInt8)} (someLeft : bodies ≠ []) {sent : List UInt8}
    {rest : List Shipped} {outcomes : List Outcome} {receiver : Receiver} {gap : Bool}
    (runs : LossyRuns receiver gap
      ((markLast marker (fragmentPayloads first false bodies)).map
        (fun packet => { packet := packet, nal := nal }) ++ rest) outcomes)
    (within : Within past first sent bodies receiver.assembly gap) :
    GoesOn (past ++ [first :: (sent ++ bodies.flatten)]) rest outcomes := by
  induction bodies generalizing receiver gap outcomes sent with
  | nil => exact absurd rfl someLeft
  | cons body left ih =>
      cases left with
      | nil =>
          rw [List.flatten_singleton]
          cases runs with
          | lost later => exact ⟨receiver, true, outcomes, later, within.lost.append _,
              fun _ member => Or.inr member⟩
          | received key careful later => exact goesOn_last (within.last careful) later
      | cons next left =>
          rw [fragmentPayloads, markLast_cons (fragmentPayloads_ne_nil (List.cons_ne_nil _ _)),
            List.map_cons, List.cons_append] at runs
          rw [List.flatten_cons, ← List.append_assoc]
          cases runs with
          | lost later =>
              exact ih (List.cons_ne_nil next left) later (.between within.lost)
          | received key careful later =>
              refine (ih (List.cons_ne_nil next left) later ?_).cons
                (silent_of_unmarked rfl)
              have middle := within.middle careful (List.cons_ne_nil next left)
              rw [assembly_step]
              revert middle
              cases receiver.assembly.receive
                (.fragment (fuIndicator first) (fuHeader first false false) body) with
              | none => exact fun _ => .between (.closed false rfl (List.nil_sublist past))
              | some next => exact id

theorem receive_single {past : List (List UInt8)} {assembly : Assembly}
    (isClosed : assembly.openFragments = 0) (held : assembly.nals.Sublist past)
    (first : UInt8) (rest : List UInt8) :
    match assembly.receive (.single first rest) with
    | none => True
    | some next => next.openFragments = 0 ∧ next.nals.Sublist (past ++ [first :: rest]) := by
  simp only [Assembly.receive, Assembly.openFragments_addNAL]
  refine ⟨isClosed, ?_⟩
  unfold Assembly.addNAL
  split
  · exact held.append (List.Sublist.refl _)
  · exact List.sublist_append_of_sublist_left held

theorem receive_first {past : List (List UInt8)} {assembly : Assembly}
    (isClosed : assembly.openFragments = 0) (held : assembly.nals.Sublist past)
    {first : UInt8} {bytes body : List UInt8} {left : List (List UInt8)}
    (shape : chunks (payloadLimit - 2) bytes = body :: left)
    (room : RoomFor assembly.size (first :: bytes)) :
    match assembly.receive
      (.fragment (fuIndicator first) (fuHeader first true false) body) with
    | none => True
    | some next => Within past first body left next false := by
  have positive : 0 < payloadLimit - 2 := by decide
  have firstByte : Payload.openedFirst (fuIndicator first) (fuHeader first true false) = first :=
    fu_first_byte true false first
  have whole := flatten_chunks (payloadLimit - 2) positive bytes
  rw [shape, List.flatten_cons] at whole
  simp only [Assembly.receive, Payload.startBit, Payload.endBit, fuHeader_startBit,
    fuHeader_endBit, isClosed, ne_eq, not_true_eq_false, if_false, firstByte]
  rcases room with fits | full
  · have total := congrArg List.length whole
    rw [List.length_append] at total
    rw [List.length_cons, Assembly.size_eq] at fits
    have few : (body :: left).length ≤ 65535 := by
      by_cases isEmpty : bytes = []
      · rw [← shape, isEmpty, chunks_of_le (Nat.zero_le _)]
        decide
      · rw [← shape, length_chunks (payloadLimit - 2) positive bytes isEmpty]
        unfold payloadLimit
        unfold maxFrameSize at fits
        omega
    rw [List.length_cons] at few
    rw [Assembly.addNAL_eq (by rw [List.length_cons]; omega)]
    refine .stored (by decide) held (by omega) ?_
    simp only [streamSize_append, streamSize_cons, streamSize_nil, List.length_cons]
    omega
  · have tooShort : ∀ piece, piece ∈ body :: left →
        maxFrameSize < assembly.size + piece.length := by
      intro piece member
      rw [← shape] at member
      have bound := length_getLastD_le positive member
      unfold lastBodyLength at full
      rw [List.tail_cons] at full
      omega
    have noRoom : Assembly.addNAL { assembly with openFragments := 1 } (first :: body) =
        { assembly with openFragments := 1 } := by
      have here := tooShort body List.mem_cons_self
      apply if_neg
      rw [List.length_cons]
      show ¬ assembly.size + (body.length + 1) + 4 ≤ maxFrameSize
      omega
    rw [noRoom]
    exact .swallowed (by decide : 1 ≠ 0) held fun piece member =>
      tooShort piece (List.mem_cons_of_mem body member)

theorem LossyRuns.nal {past : List (List UInt8)} {nal : List UInt8} (nonempty : nal ≠ [])
    {marker : Bool} {rest : List Shipped} {outcomes : List Outcome} {receiver : Receiver}
    {gap : Bool} (runs : LossyRuns receiver gap (shipNAL nal marker ++ rest) outcomes)
    (between : Between past receiver.assembly gap) :
    GoesOn (past ++ [nal]) rest outcomes := by
  cases nal with
  | nil => exact absurd rfl nonempty
  | cons first bytes =>
      rw [shipNAL, Carriage.ofNAL] at runs
      split at runs
      · cases runs with
        | lost later =>
            exact ⟨receiver, true, outcomes, later, between.lost.append _,
              fun _ member => Or.inr member⟩
        | received key careful later =>
            have closed := between.closed_of_careful careful
            exact goesOn_last (receive_single closed.1 closed.2 first bytes) later
      · rename_i isLong
        have positive : 0 < payloadLimit - 2 := by decide
        have isLonger : payloadLimit - 2 < bytes.length := by
          unfold payloadLimit at isLong ⊢
          omega
        have several := two_le_length_chunks positive isLonger
        have whole := flatten_chunks (payloadLimit - 2) positive bytes
        rw [Carriage.payloads] at runs
        obtain ⟨body, behind, shape⟩ := List.exists_cons_of_length_pos
          (Nat.lt_of_lt_of_le Nat.zero_lt_two several)
        rw [shape, List.length_cons] at several
        obtain ⟨next, left, behindEq⟩ := List.exists_cons_of_length_pos
          (Nat.le_of_succ_le_succ several : 0 < behind.length)
        rw [behindEq] at shape
        have someLeft := List.cons_ne_nil next left
        rw [shape, fragmentPayloads, markLast_cons (fragmentPayloads_ne_nil someLeft),
          List.map_cons, List.cons_append] at runs
        rw [shape, List.flatten_cons] at whole
        rw [← whole]
        cases runs with
        | lost later => exact later.fragments someLeft (.between between.lost)
        | received key careful later =>
            have closed := between.closed_of_careful careful
            have begins : Payload.BeginsFragments (.fragment (fuIndicator first)
                (fuHeader first true false) body) = true := fuHeader_startBit true false first
            have begun := receive_first closed.1 closed.2 shape
              (careful.room closed.1 begins)
            refine (later.fragments someLeft ?_).cons (silent_of_unmarked rfl)
            rw [assembly_step]
            revert begun
            cases receiver.assembly.receive
              (.fragment (fuIndicator first) (fuHeader first true false) body) with
            | none => exact fun _ => .between (.closed false rfl (List.nil_sublist past))
            | some next => exact id

theorem LossyRuns.accessUnit {past nals : List (List UInt8)}
    (nonempty : ∀ nal, nal ∈ nals → nal ≠ []) {rest : List Shipped} {outcomes : List Outcome}
    {receiver : Receiver} {gap : Bool}
    (runs : LossyRuns receiver gap (ship nals ++ rest) outcomes)
    (between : Between past receiver.assembly gap) : GoesOn (past ++ nals) rest outcomes := by
  induction nals generalizing past receiver gap outcomes with
  | nil =>
      rw [List.append_nil]
      exact ⟨receiver, gap, outcomes, runs, between, fun _ member => Or.inr member⟩
  | cons nal nals ih =>
      have here := nonempty nal List.mem_cons_self
      have others : ∀ other, other ∈ nals → other ≠ [] :=
        fun other member => nonempty other (List.mem_cons_of_mem nal member)
      cases nals with
      | nil => exact runs.nal here between
      | cons next nals =>
          rw [ship, List.append_assoc] at runs
          rw [← List.singleton_append, ← List.append_assoc]
          exact (runs.nal here between).trans fun later betweenLater =>
            ih others later betweenLater

/-- Everything handed over in a careful run consists of NAL units that were sent, in
order. -/
theorem LossyRuns.intact {past : List (List UInt8)} {units : List (List (List UInt8))}
    (nonempty : ∀ nals, nals ∈ units → ∀ nal, nal ∈ nals → nal ≠ [])
    {outcomes : List Outcome} {receiver : Receiver} {gap : Bool}
    (runs : LossyRuns receiver gap (units.flatMap ship) outcomes)
    (between : Between past receiver.assembly gap) {nals : List (List UInt8)}
    (delivered : .delivered nals ∈ outcomes) : nals.Sublist (past ++ units.flatten) := by
  induction units generalizing past receiver gap outcomes with
  | nil =>
      cases runs
      cases delivered
  | cons unit units ih =>
      rw [List.flatMap_cons] at runs
      obtain ⟨receiver, gap, later, runsLater, betweenLater, handed⟩ :=
        runs.accessUnit (nonempty unit List.mem_cons_self) between
      rw [List.flatten_cons, ← List.append_assoc]
      rcases handed nals delivered with isPast | inside
      · exact List.sublist_append_of_sublist_left isPast
      · exact ih (fun other member => nonempty other (List.mem_cons_of_mem unit member))
          runsLater betweenLater inside

end Receiver

end DShowCapture
