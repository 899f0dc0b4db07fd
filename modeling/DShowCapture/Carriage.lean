/-
The ways of carrying NAL units in RTP payloads, and what the assembly makes of them.

A carriage is a single NAL unit packet, an aggregate, or a run of fragments.  However
NAL units are carried, the assembly accepts every payload and adds exactly these NAL
units.
-/
import DShowCapture.Assembly

namespace DShowCapture

open AnnexB

namespace Assembly

def receiveAll : Assembly → List Payload → Option Assembly
  | self, [] => some self
  | self, payload :: rest => (self.receive payload).bind fun next => next.receiveAll rest

theorem receiveAll_append (self : Assembly) (first second : List Payload) :
    self.receiveAll (first ++ second) =
      (self.receiveAll first).bind fun next => next.receiveAll second := by
  induction first generalizing self with
  | nil => rfl
  | cons payload rest ih =>
      simp only [List.cons_append, receiveAll]
      cases self.receive payload with
      | none => rfl
      | some next => exact ih next

end Assembly

def fragmentPayloads (first : UInt8) : Bool → List (List UInt8) → List Payload
  | _, [] => []
  | start, [body] =>
      [.fragment (RFC6184.fuIndicator first) (RFC6184.fuHeader first start true) body]
  | start, body :: next :: rest =>
      .fragment (RFC6184.fuIndicator first) (RFC6184.fuHeader first start false) body ::
        fragmentPayloads first false (next :: rest)

theorem bytes_fragmentPayloads (first : UInt8) (start : Bool) (bodies : List (List UInt8)) :
    (fragmentPayloads first start bodies).map Payload.bytes =
      RFC6184.fuRun first start bodies := by
  fun_induction fragmentPayloads first start bodies with
  | case1 start => rfl
  | case2 start body => rfl
  | case3 start body next rest ih =>
      rw [List.map_cons, ih]
      rfl

inductive Carriage
  | single (first : UInt8) (rest : List UInt8)
  | aggregate (header : UInt8) (nals : List (List UInt8))
  | fragments (first : UInt8) (bodies : List (List UInt8))

namespace Carriage

def nals : Carriage → List (List UInt8)
  | .single first rest => [first :: rest]
  | .aggregate _ nals => nals
  | .fragments first bodies => [first :: bodies.flatten]

def payloads : Carriage → List Payload
  | .single first rest => [.single first rest]
  | .aggregate header nals => [.stap header nals]
  | .fragments first bodies => fragmentPayloads first true bodies

def Legal : Carriage → Prop
  | .single first _ => Payload.SingleType (first &&& 0x1f)
  | .aggregate header nals =>
      header &&& 0x1f = 24 ∧ nals ≠ [] ∧ ∀ nal, nal ∈ nals → nal ≠ [] ∧ nal.length < 65536
  | .fragments _ bodies =>
      2 ≤ bodies.length ∧ bodies.length ≤ 65535 ∧ ∀ body, body ∈ bodies → body ≠ []

instance (carriage : Carriage) : Decidable carriage.Legal :=
  match carriage with
  | .single _ _ => inferInstanceAs (Decidable (Payload.SingleType _))
  | .aggregate _ _ => inferInstanceAs (Decidable (_ ∧ _))
  | .fragments _ _ => inferInstanceAs (Decidable (_ ∧ _))

end Carriage

def streamSize (nals : List (List UInt8)) : Nat := (nals.map fun nal => nal.length + 4).sum

theorem length_byteStream_eq (nals : List (List UInt8)) :
    (byteStream nals).length = streamSize nals :=
  length_byteStream nals

@[simp] theorem streamSize_append (first second : List (List UInt8)) :
    streamSize (first ++ second) = streamSize first + streamSize second := by
  simp [streamSize]

@[simp] theorem streamSize_cons (nal : List UInt8) (rest : List (List UInt8)) :
    streamSize (nal :: rest) = nal.length + 4 + streamSize rest := by
  simp [streamSize]

@[simp] theorem streamSize_nil : streamSize [] = 0 := rfl

theorem streamSize_le_of_mem {α : Type} {item : α} {items : List α} (member : item ∈ items)
    (nals : α → List (List UInt8)) :
    streamSize (nals item) ≤ streamSize (items.flatMap nals) := by
  obtain ⟨front, back, rfl⟩ := List.append_of_mem member
  rw [List.flatMap_append, List.flatMap_cons, streamSize_append, streamSize_append]
  omega

namespace Assembly

theorem size_eq (self : Assembly) : self.size = streamSize self.nals :=
  length_byteStream_eq self.nals

theorem addNAL_eq {nals : List (List UInt8)} {counter : Nat} {nal : List UInt8}
    (room : streamSize nals + nal.length + 4 ≤ maxFrameSize) :
    addNAL { nals := nals, openFragments := counter } nal =
      { nals := nals ++ [nal], openFragments := counter } := by
  rw [addNAL, size_eq]
  exact if_pos room

theorem extend_eq {front : List (List UInt8)} {last : List UInt8} {counter : Nat}
    {body : List UInt8}
    (room : streamSize (front ++ [last]) + body.length ≤ maxFrameSize) :
    extend { nals := front ++ [last], openFragments := counter } body =
      { nals := front ++ [last ++ body], openFragments := counter } := by
  rw [extend, size_eq, if_pos room]
  simp only [extendLast_append]

theorem foldl_addNAL_eq {front nals : List (List UInt8)} {counter : Nat}
    (room : streamSize front + streamSize nals ≤ maxFrameSize) :
    nals.foldl addNAL { nals := front, openFragments := counter } =
      { nals := front ++ nals, openFragments := counter } := by
  induction nals generalizing front with
  | nil => simp
  | cons nal rest ih =>
      rw [streamSize_cons] at room
      rw [List.foldl_cons, addNAL_eq (by omega), ih, List.append_assoc]
      · rfl
      · rw [streamSize_append, streamSize_cons, streamSize_nil]
        omega

theorem receive_later_fragment {front : List (List UInt8)} {last : List UInt8}
    {counter : Nat} {first : UInt8} {body : List UInt8} (isLast : Bool)
    (isOpen : counter ≠ 0)
    (room : streamSize (front ++ [last]) + body.length ≤ maxFrameSize) :
    receive { nals := front ++ [last], openFragments := counter }
        (.fragment (RFC6184.fuIndicator first) (RFC6184.fuHeader first false isLast) body) =
      some
        { nals := front ++ [last ++ body]
          openFragments := if isLast then 0 else (counter + 1) % 65536 } := by
  have grown : ∀ next, extend { nals := front ++ [last], openFragments := next } body =
      { nals := front ++ [last ++ body], openFragments := next } :=
    fun _ => extend_eq room
  cases isLast <;>
    simp only [receive, Payload.startBit, Payload.endBit, RFC6184.fuHeader_startBit,
      RFC6184.fuHeader_endBit, ne_eq, isOpen, not_false_eq_true, if_true,
      Bool.false_eq_true, if_false, grown]

theorem receiveAll_later_fragments (first : UInt8) (bodies : List (List UInt8))
    (nonempty : bodies ≠ []) (front : List (List UInt8)) (last : List UInt8) (counter : Nat)
    (isOpen : counter ≠ 0) (inRange : counter + bodies.length ≤ 65536)
    (room : streamSize (front ++ [last]) + bodies.flatten.length ≤ maxFrameSize) :
    receiveAll { nals := front ++ [last], openFragments := counter }
        (fragmentPayloads first false bodies) =
      some { nals := front ++ [last ++ bodies.flatten], openFragments := 0 } := by
  induction bodies generalizing last counter with
  | nil => exact absurd rfl nonempty
  | cons body rest ih =>
      rw [List.flatten_cons, List.length_append] at room
      cases rest with
      | nil =>
          rw [fragmentPayloads, receiveAll, receive_later_fragment true isOpen (by omega)]
          simp [receiveAll]
      | cons next rest =>
          have counterEq : (counter + 1) % 65536 = counter + 1 := by
            simp only [List.length_cons] at inRange
            omega
          have grownSize : streamSize (front ++ [last ++ body]) =
              streamSize (front ++ [last]) + body.length := by
            simp only [streamSize_append, streamSize_cons, streamSize_nil,
              List.length_append]
            omega
          rw [fragmentPayloads, receiveAll, receive_later_fragment false isOpen (by omega),
            Option.bind_some]
          simp only [Bool.false_eq_true, if_false, counterEq]
          rw [ih (List.cons_ne_nil next rest) (last ++ body) (counter + 1)
            (Nat.succ_ne_zero counter)
            (by simp only [List.length_cons] at inRange ⊢; omega)
            (by rw [grownSize]; omega)]
          simp only [List.flatten_cons, List.append_assoc]

theorem receiveAll_fragments (first : UInt8) {bodies : List (List UInt8)}
    (several : 2 ≤ bodies.length) (few : bodies.length ≤ 65535)
    (front : List (List UInt8))
    (room : streamSize (front ++ [first :: bodies.flatten]) ≤ maxFrameSize) :
    receiveAll { nals := front, openFragments := 0 } (fragmentPayloads first true bodies) =
      some { nals := front ++ [first :: bodies.flatten], openFragments := 0 } := by
  match bodies, several with
  | body :: next :: rest, _ =>
      simp only [streamSize_append, streamSize_cons, streamSize_nil, List.flatten_cons,
        List.length_cons, List.length_append] at room
      have opened : addNAL { nals := front, openFragments := 1 } (first :: body) =
          { nals := front ++ [first :: body], openFragments := 1 } := by
        apply addNAL_eq
        rw [List.length_cons]
        omega
      have firstByte : Payload.openedFirst (RFC6184.fuIndicator first)
          (RFC6184.fuHeader first true false) = first :=
        RFC6184.fu_first_byte true false first
      rw [fragmentPayloads, receiveAll]
      simp only [receive, Payload.startBit, Payload.endBit, RFC6184.fuHeader_startBit,
        RFC6184.fuHeader_endBit, ne_eq, not_true_eq_false, if_false, firstByte, opened,
        Option.bind_some]
      rw [receiveAll_later_fragments first (next :: rest) (List.cons_ne_nil next rest) front
        (first :: body) 1 (by decide)]
      · simp only [List.flatten_cons, List.cons_append]
      · rw [List.length_cons] at few
        omega
      · simp only [streamSize_append, streamSize_cons, streamSize_nil, List.flatten_cons,
          List.length_append, List.length_cons]
        omega

/-- Whatever carries them, legally carried NAL units are added to the assembly. -/
theorem receiveAll_carriage {carriage : Carriage} (legal : carriage.Legal)
    (front : List (List UInt8))
    (room : streamSize (front ++ carriage.nals) ≤ maxFrameSize) :
    receiveAll { nals := front, openFragments := 0 } carriage.payloads =
      some { nals := front ++ carriage.nals, openFragments := 0 } := by
  rw [streamSize_append] at room
  cases carriage with
  | single first rest =>
      simp only [Carriage.nals, streamSize_cons, streamSize_nil] at room
      rw [Carriage.payloads, receiveAll, receive, addNAL_eq (by omega)]
      rfl
  | aggregate header nals =>
      rw [Carriage.nals] at room
      rw [Carriage.payloads, receiveAll, receive, foldl_addNAL_eq room]
      rfl
  | fragments first bodies =>
      rw [← streamSize_append] at room
      exact receiveAll_fragments first legal.1 legal.2.1 front room

theorem receiveAll_carriages {carriages : List Carriage}
    (legal : ∀ carriage, carriage ∈ carriages → carriage.Legal) (front : List (List UInt8))
    (room : streamSize (front ++ carriages.flatMap Carriage.nals) ≤ maxFrameSize) :
    receiveAll { nals := front, openFragments := 0 }
        (carriages.flatMap Carriage.payloads) =
      some { nals := front ++ carriages.flatMap Carriage.nals, openFragments := 0 } := by
  induction carriages generalizing front with
  | nil => simp [receiveAll]
  | cons carriage rest ih =>
      have legalHere := legal carriage List.mem_cons_self
      rw [List.flatMap_cons] at room ⊢
      rw [← List.append_assoc] at room
      have roomHere : streamSize (front ++ carriage.nals) ≤ maxFrameSize := by
        rw [streamSize_append] at room
        omega
      rw [receiveAll_append, receiveAll_carriage legalHere front roomHere, Option.bind_some,
        ih (fun other member => legal other (List.mem_cons_of_mem carriage member)) _ room,
        List.flatMap_cons, List.append_assoc]

end Assembly

/-! ### The payloads of a legal carriage are well formed -/

theorem mem_fragmentPayloads {first : UInt8} {start : Bool} {bodies : List (List UInt8)}
    {payload : Payload} (member : payload ∈ fragmentPayloads first start bodies) :
    ∃ isFirst isLast body, body ∈ bodies ∧
      payload = .fragment (RFC6184.fuIndicator first)
        (RFC6184.fuHeader first isFirst isLast) body := by
  fun_induction fragmentPayloads first start bodies with
  | case1 start => cases member
  | case2 start body =>
      exact ⟨start, true, body, List.mem_cons_self, List.mem_singleton.mp member⟩
  | case3 start body next rest ih =>
      rcases List.mem_cons.mp member with isHead | later
      · exact ⟨start, false, body, List.mem_cons_self, isHead⟩
      · obtain ⟨isFirst, isLast, other, bodyMember, payloadEq⟩ := ih later
        exact ⟨isFirst, isLast, other, List.mem_cons_of_mem body bodyMember, payloadEq⟩

theorem Carriage.wellFormed_of_mem {carriage : Carriage} (legal : carriage.Legal)
    {payload : Payload} (member : payload ∈ carriage.payloads) : payload.WellFormed := by
  cases carriage with
  | single first rest =>
      rw [List.mem_singleton.mp member]
      exact legal
  | aggregate header nals =>
      rw [List.mem_singleton.mp member]
      exact ⟨legal.1, legal.2.2⟩
  | fragments first bodies =>
      obtain ⟨_, _, _, _, payloadEq⟩ := mem_fragmentPayloads member
      rw [payloadEq]
      exact RFC6184.fuIndicator_type first

theorem Carriage.length_le_of_mem {carriage : Carriage} (legal : carriage.Legal)
    {payload : Payload} (member : payload ∈ carriage.payloads) :
    payload.bytes.length ≤ streamSize carriage.nals := by
  cases carriage with
  | single first rest =>
      rw [List.mem_singleton.mp member]
      simp only [Payload.bytes, nals, streamSize_cons, streamSize_nil, List.length_cons]
      omega
  | aggregate header nals =>
      have unitsLength : ∀ some : List (List UInt8),
          (RFC6184.stapUnits some).length + 2 * some.length = streamSize some := by
        intro some
        induction some with
        | nil => rfl
        | cons nal rest ih =>
            rw [streamSize_cons, ← ih, RFC6184.length_stapUnits_cons, List.length_cons]
            omega
      have positive := List.length_pos_iff.mpr legal.2.1
      have total := unitsLength nals
      rw [List.mem_singleton.mp member]
      simp only [Payload.bytes, RFC6184.stapPayload, Carriage.nals, List.length_cons]
      omega
  | fragments first bodies =>
      obtain ⟨_, _, body, bodyMember, payloadEq⟩ := mem_fragmentPayloads member
      have bodyLength : body.length ≤ bodies.flatten.length :=
        (List.sublist_flatten_of_mem bodyMember).length_le
      rw [payloadEq]
      simp only [Payload.bytes, nals, streamSize_cons, streamSize_nil, List.length_cons]
      omega

theorem Carriage.short_of_mem {carriage : Carriage} {payload : Payload}
    (member : payload ∈ carriage.payloads)
    (room : streamSize carriage.nals ≤ maxFrameSize) : payload.Short := by
  cases carriage with
  | single first rest =>
      rw [List.mem_singleton.mp member]
      simp only [nals, streamSize_cons, streamSize_nil, List.length_cons] at room
      unfold Payload.Short
      omega
  | aggregate header nals =>
      rw [List.mem_singleton.mp member]
      trivial
  | fragments first bodies =>
      obtain ⟨_, _, body, bodyMember, payloadEq⟩ := mem_fragmentPayloads member
      have bodyLength : body.length ≤ bodies.flatten.length :=
        (List.sublist_flatten_of_mem bodyMember).length_le
      simp only [nals, streamSize_cons, streamSize_nil, List.length_cons] at room
      rw [payloadEq]
      unfold Payload.Short
      omega

end DShowCapture
