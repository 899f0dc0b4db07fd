/-
A stream of packets that the network reorders and duplicates, at its source.

The first three packets arrive in order and end the probation.  From then on, as long as each
packet arrives inside the window around the highest number so far, the source is a queue that
is ordered by the indices of the packets: it hands them out in the order in which they were
sent exactly when no packet arrives after it or a later one has been handed out.
-/
import DShowCapture.Jrtplib.SourceData

namespace DShowCapture.Jrtplib

open SequenceNumbers

namespace RTPInternalSourceData

variable {Time Address : Type}

def Event.Passive : Event Time Address → Prop
  | .rtpPacket _ _ | .nextPacket | .sdesItem .cname _ _ | .ownSSRC | .csrc | .flushPackets => False
  | _ => True

structure SameQueue (state next : RTPInternalSourceData Time Address) : Prop where
  validated : next.validated = state.validated
  probationtype : next.probationtype = state.probationtype
  packetlist : next.packetlist = state.packetlist
  sentdata : next.stats.sentdata = state.stats.sentdata
  numcycles : next.stats.numcycles = state.stats.numcycles
  packetsreceived : next.stats.packetsreceived = state.stats.packetsreceived
  exthighseqnr : next.stats.exthighseqnr = state.stats.exthighseqnr
  probation : next.stats.probation = state.stats.probation
  prevseqnr : next.stats.prevseqnr = state.stats.prevseqnr

theorem sameQueue_self (self : RTPInternalSourceData Time Address) : self.SameQueue self :=
  { validated := rfl, probationtype := rfl, packetlist := rfl, sentdata := rfl
    numcycles := rfl, packetsreceived := rfl, exthighseqnr := rfl, probation := rfl
    prevseqnr := rfl }

theorem sameQueue_setSDES {self state : RTPInternalSourceData Time Address}
    (same : self.SameQueue state) (outcome : Except SDESError RTCPSDESInfo) :
    self.SameQueue (state.setSDES outcome).1 := by
  cases outcome with
  | error error => exact same
  | ok sdesinf => exact { same with }

theorem sameQueue_step (self : RTPInternalSourceData Time Address)
    {event : Event Time Address} (passive : event.Passive) : self.SameQueue (self.step event) := by
  have same := self.sameQueue_self
  cases event with
  | rtpPacket rtppack receivetime => exact passive.elim
  | nextPacket => exact passive.elim
  | ownSSRC => exact passive.elim
  | csrc => exact passive.elim
  | flushPackets => exact passive.elim
  | sdesItem item text receivetime =>
      rw [step]
      rcases self.processSDESItem_cases item text receivetime with
        ⟨sourceEq, _⟩ | ⟨start, sourceEq, ⟨rfl, _⟩ | ⟨_, noted, rfl⟩⟩
      · rw [sourceEq]
        exact { same with }
      · exact passive.elim
      · rw [sourceEq]
        apply sameQueue_setSDES
        exact { same with }
  | privateSDESItem pre value receivetime =>
      simp only [step, processPrivateSDESItem]
      split
      · exact { same with }
      · apply sameQueue_setSDES
        exact { same with }
  | sentRTPPacket now =>
      simp only [step, sentRTPPacket]
      split
      · exact same
      · exact { same with }
  | clearNote => exact sameQueue_setSDES same _
  | _ => exact { same with }

/-! ### A validated source is an ordered queue -/

theorem placePacket_of_room {self : RTPInternalSourceData Time Address}
    (room : self.validated = true ∨ self.packetlist.length < maxProbationPackets)
    (rtppack : StoredPacket) :
    (self.placePacket rtppack).1 =
      { self with
        packetlist := OrderedQueue.arrive StoredPacket.extseqnr self.packetlist rtppack } := by
  have keeps : ¬ ((!self.validated) = true ∧ self.packetlist.length = maxProbationPackets) := by
    rintro ⟨waiting, full⟩
    rcases room with validated | less
    · rw [validated] at waiting
      cases waiting
    · exact Nat.ne_of_lt less full
  unfold placePacket OrderedQueue.arrive
  simp only [if_neg keeps]
  cases queued : self.packetlist with
  | nil => rfl
  | cons first rest =>
      rw [List.isEmpty_cons, if_neg Bool.false_ne_true]
      cases OrderedQueue.insert StoredPacket.extseqnr (first :: rest) rtppack with
      | none => rfl
      | some packetlist => rfl

theorem storePacket_of_room (self : RTPInternalSourceData Time Address)
    (room : self.validated = true ∨ self.packetlist.length < maxProbationPackets)
    (rtppack : StoredPacket) :
    ∃ issender, (self.storePacket rtppack).1 =
      { self with
        packetlist := OrderedQueue.arrive StoredPacket.extseqnr self.packetlist rtppack
        issender := issender } := by
  unfold storePacket
  split
  · have sending : RTPInternalSourceData.validated { self with issender := true } = true ∨
        (RTPInternalSourceData.packetlist { self with issender := true }).length <
          maxProbationPackets := room
    exact ⟨true, placePacket_of_room sending rtppack⟩
  · exact ⟨self.issender, placePacket_of_room room rtppack⟩

structure Follows (state : RTPInternalSourceData Time Address) (highest : Nat)
    (log : OrderedQueue.Log StoredPacket) : Prop where
  validated : state.validated = true
  tracks : state.stats.Tracks highest
  queue : state.packetlist = log.queue

theorem Follows.passive {self : RTPInternalSourceData Time Address} {highest : Nat}
    {log : OrderedQueue.Log StoredPacket} (follows : self.Follows highest log)
    {event : Event Time Address} (passive : event.Passive) :
    (self.step event).Follows highest log := by
  have same := self.sameQueue_step passive
  exact
    { validated := same.validated.trans follows.validated
      tracks :=
        { sentdata := same.sentdata.trans follows.tracks.sentdata
          numcycles := same.numcycles.trans follows.tracks.numcycles
          exthighseqnr := same.exthighseqnr.trans follows.tracks.exthighseqnr }
      queue := same.packetlist.trans follows.queue }

theorem Follows.rtpPacket {self : RTPInternalSourceData Time Address} {highest : Nat}
    {log : OrderedQueue.Log StoredPacket} (follows : self.Follows highest log)
    (notLast : highest < 4294901760) {index : Nat} (inWindow : InWindow 65536 highest index)
    {rtppack : StoredPacket} (numbered : rtppack.extseqnr = index % 65536) (receivetime : Time) :
    (self.step (.rtpPacket rtppack receivetime)).Follows (max highest index)
      (log.step StoredPacket.extseqnr
        (.arrive (rtppack.setExtendedSequenceNumber index))) := by
  have small : index % 65536 < 65536 := Nat.mod_lt _ (by decide)
  have indexEq := (unwrap_eq_iff (by decide : 0 < 65536)).mpr inWindow
  obtain ⟨extEq, tracks⟩ :=
    RTPSourceStats.follow_unwraps follows.tracks notLast small receivetime self.ownssrc
  rw [indexEq] at extEq tracks
  have cases := self.processRTPPacket_cases rtppack receivetime
  rw [RTPSourceStats.processPacket_of_sentdata follows.tracks.sentdata, numbered] at cases
  simp only [extEq, RTPSourceStats.accept_follow, Bool.true_eq_false, false_and, or_false,
    true_and] at cases
  obtain ⟨issender, storedEq⟩ := storePacket_of_room
    { self with
      stats := (self.stats.follow (index % 65536) receivetime self.ownssrc).stats
      validated := true }
    (Or.inl rfl) (rtppack.setExtendedSequenceNumber index)
  rw [step, cases, storedEq]
  refine { validated := rfl, tracks := tracks, queue := ?_ }
  rw [OrderedQueue.Log.step, ← follows.queue]

theorem Follows.nextPacket {self : RTPInternalSourceData Time Address} {highest : Nat}
    {log : OrderedQueue.Log StoredPacket} (follows : self.Follows highest log) :
    (self.step .nextPacket).Follows highest (log.step StoredPacket.extseqnr .take) ∧
      (log.step StoredPacket.extseqnr .take).taken = log.taken ++ self.getNextPacket.1.toList := by
  rw [step, OrderedQueue.Log.step, ← follows.queue]
  cases queued : self.packetlist with
  | nil =>
      have nextEq : self.getNextPacket = (none, self) := by
        rw [getNextPacket, follows.validated, queued]
        rfl
      rw [nextEq]
      exact ⟨follows, (List.append_nil _).symm⟩
  | cons first rest =>
      have nextEq : self.getNextPacket = (some first, { self with packetlist := rest }) := by
        rw [getNextPacket, follows.validated, queued]
        rfl
      rw [nextEq]
      exact ⟨{ follows with queue := rfl }, rfl⟩

/-! ### The opening of a stream -/

structure Stream where
  first : Nat
  packetAt : Nat → StoredPacket
  firstSmall : first ≤ 65534
  numbered : ∀ index, (packetAt index).extseqnr = index % 65536

namespace Stream

def stored (self : Stream) (index : Nat) : StoredPacket :=
  (self.packetAt index).setExtendedSequenceNumber index

end Stream

inductive StreamEvent (Time Address : Type)
  | packet (index : Nat) (receivetime : Time)
  | next
  | passive (event : Event Time Address)

namespace StreamEvent

def event (stream : Stream) : StreamEvent Time Address → Event Time Address
  | .packet index receivetime => .rtpPacket (stream.packetAt index) receivetime
  | .next => .nextPacket
  | .passive event => event

def index : StreamEvent Time Address → Option Nat
  | .packet index _ => some index
  | _ => none

def Permitted : StreamEvent Time Address → Prop
  | .passive event => event.Passive
  | _ => True

def atQueue (stream : Stream) : StreamEvent Time Address → Option (OrderedQueue.Event StoredPacket)
  | .packet index _ => some (.arrive (stream.stored index))
  | .next => some .take
  | .passive _ => none

end StreamEvent

def indices (events : List (StreamEvent Time Address)) : List Nat :=
  events.filterMap StreamEvent.index

def handsOut (self : RTPInternalSourceData Time Address) : Event Time Address → List StoredPacket
  | .nextPacket => self.getNextPacket.1.toList
  | _ => []

def delivered : RTPInternalSourceData Time Address → List (Event Time Address) → List StoredPacket
  | _, [] => []
  | self, event :: rest => self.handsOut event ++ delivered (self.step event) rest

theorem handsOut_of_passive (self : RTPInternalSourceData Time Address)
    {event : Event Time Address} (passive : event.Passive) : self.handsOut event = [] := by
  cases event with
  | nextPacket => exact passive.elim
  | _ => rfl

structure Opens (state : RTPInternalSourceData Time Address) (stream : Stream) (count : Nat) :
    Prop where
  validated : state.validated = false
  probationtype : state.probationtype = .probationStore
  packetlist : state.packetlist =
    (List.range count).map fun offset => stream.stored (stream.first + offset)
  probes : state.stats.Probes ((List.range count).map fun offset => stream.first + offset)

theorem Opens.passive {self : RTPInternalSourceData Time Address} {stream : Stream}
    {count : Nat} (opens : self.Opens stream count) {event : Event Time Address}
    (passive : event.Passive) : (self.step event).Opens stream count := by
  have same := self.sameQueue_step passive
  exact
    { validated := same.validated.trans opens.validated
      probationtype := same.probationtype.trans opens.probationtype
      packetlist := same.packetlist.trans opens.packetlist
      probes := opens.probes.of_same same.sentdata same.numcycles same.packetsreceived
        same.probation same.prevseqnr }

theorem Opens.nextPacket {self : RTPInternalSourceData Time Address} {stream : Stream}
    {count : Nat} (opens : self.Opens stream count) : self.getNextPacket = (none, self) := by
  rw [getNextPacket, opens.validated]
  rfl

theorem arrive_next (stream : Stream) (count : Nat) :
    OrderedQueue.arrive StoredPacket.extseqnr
        ((List.range count).map fun offset => stream.stored (stream.first + offset))
        (stream.stored (stream.first + count)) =
      (List.range (count + 1)).map fun offset => stream.stored (stream.first + offset) := by
  have behind : ∀ stored,
      stored ∈ (List.range count).map (fun offset => stream.stored (stream.first + offset)) →
        stored.extseqnr < (stream.stored (stream.first + count)).extseqnr := by
    intro stored member
    obtain ⟨offset, inRange, rfl⟩ := List.mem_map.mp member
    exact Nat.add_lt_add_left (List.mem_range.mp inRange) stream.first
  rw [OrderedQueue.arrive, OrderedQueue.insert_last behind, List.range_succ, List.map_append]
  rfl

theorem Opens.packet {self : RTPInternalSourceData Time Address} {stream : Stream}
    {count : Nat} (opens : self.Opens stream count) (notThird : count < 2) (receivetime : Time) :
    (self.step (.rtpPacket (stream.packetAt (stream.first + count)) receivetime)).Opens stream
      (count + 1) := by
  have firstSmall := stream.firstSmall
  have numberEq : (stream.packetAt (stream.first + count)).extseqnr = stream.first + count := by
    rw [stream.numbered]
    omega
  have probation : self.probationtype ≠ .noProbation := by
    rw [opens.probationtype]
    decide
  have cases := self.processRTPPacket_cases (stream.packetAt (stream.first + count)) receivetime
  rw [processPacket_waiting opens.validated probation opens.probes.unaccepted.sentdata,
    numberEq] at cases
  have small : stream.first + count < 65536 := by omega
  rcases RTPSourceStats.probes_probe opens.probes small receivetime self.ownssrc with
    ⟨three, _⟩ | ⟨rejected, onprobation, extEq, probes⟩
  · have long := three.long
    rw [List.length_append, List.length_map, List.length_range, List.length_singleton] at long
    omega
  · rcases cases with ⟨not, _⟩ | ⟨_, _, _, nextEq⟩ | ⟨_, dropped, _⟩
    · rw [rejected] at not
      cases not
    · rw [extEq] at nextEq
      have room : self.packetlist.length < maxProbationPackets := by
        rw [opens.packetlist, List.length_map, List.length_range]
        exact Nat.lt_trans notThird (by decide)
      obtain ⟨issender, storedEq⟩ := storePacket_of_room
        { self with
          stats := (self.stats.probe (stream.first + count) receivetime self.ownssrc).stats }
        (Or.inr room) (stream.stored (stream.first + count))
      rw [step, nextEq]
      change RTPInternalSourceData.Opens
        (storePacket _ (stream.stored (stream.first + count))).1 _ _
      rw [storedEq]
      refine
        { validated := opens.validated
          probationtype := opens.probationtype
          packetlist := ?_
          probes := ?_ }
      · change OrderedQueue.arrive _ self.packetlist _ = _
        rw [opens.packetlist, arrive_next]
      · rw [List.range_succ, List.map_append]
        exact probes
    · have silent := dropped opens.probationtype
      rw [onprobation] at silent
      cases silent

def Stream.opened (stream : Stream) (count : Nat) : OrderedQueue.Log StoredPacket :=
  { taken := []
    queue := (List.range count).map fun offset => stream.stored (stream.first + offset) }

theorem Opens.third {self : RTPInternalSourceData Time Address} {stream : Stream}
    (opens : self.Opens stream 2) (receivetime : Time) :
    (self.step (.rtpPacket (stream.packetAt (stream.first + 2)) receivetime)).Follows
      (stream.first + 2) (stream.opened 3) := by
  have firstSmall := stream.firstSmall
  have probation : self.probationtype ≠ .noProbation := by
    rw [opens.probationtype]
    decide
  have small : (stream.first + 2) % 65536 < 65536 := Nat.mod_lt _ (by decide)
  have cases := self.processRTPPacket_cases (stream.packetAt (stream.first + 2)) receivetime
  rw [processPacket_waiting opens.validated probation opens.probes.unaccepted.sentdata,
    stream.numbered] at cases
  have isThird : RTPSourceStats.ThreeInRow
      (((List.range 2).map fun offset => stream.first + offset) ++
        [(stream.first + 2) % 65536]) := by
    refine ⟨[], stream.first, [], ?_⟩
    have second : RTPSourceStats.following stream.first = stream.first + 1 := by
      unfold RTPSourceStats.following
      omega
    rw [second]
    rfl
  rcases RTPSourceStats.probes_probe opens.probes small receivetime self.ownssrc with
    ⟨_, accepted⟩ | ⟨_, _, _, probes⟩
  · obtain ⟨before, noCycles, _, probeEq⟩ := RTPSourceStats.acceptPacket_of_probe accepted
    obtain ⟨tracks, extEq, _⟩ := RTPSourceStats.tracks_acceptPacket
      (noCycles.trans opens.probes.unaccepted.numcycles) small receivetime self.ownssrc
    have indexEq : RTPSourceStats.firstIndex ((stream.first + 2) % 65536) = stream.first + 2 := by
      unfold RTPSourceStats.firstIndex
      split
      · omega
      · omega
    rw [indexEq] at tracks extEq
    rw [← probeEq] at tracks extEq
    rcases cases with ⟨_, nextEq⟩ | ⟨rejected, _⟩ | ⟨rejected, _⟩
    · rw [extEq] at nextEq
      obtain ⟨issender, storedEq⟩ := storePacket_of_room
        { self with
          stats := (self.stats.probe ((stream.first + 2) % 65536) receivetime self.ownssrc).stats
          validated := true }
        (Or.inl rfl) (stream.stored (stream.first + 2))
      rw [step, nextEq]
      change RTPInternalSourceData.Follows (storePacket _ (stream.stored (stream.first + 2))).1 _ _
      rw [storedEq]
      refine { validated := rfl, tracks := tracks, queue := ?_ }
      change OrderedQueue.arrive _ self.packetlist _ = _
      rw [opens.packetlist, arrive_next]
      rfl
    · rw [accepted] at rejected
      cases rejected
    · rw [accepted] at rejected
      cases rejected
  · exact absurd isThird probes.none

/-! ### The whole stream -/

theorem Opens.run {self : RTPInternalSourceData Time Address} {stream : Stream} {count : Nat}
    (opens : self.Opens stream count) (notThird : count ≤ 2)
    {events : List (StreamEvent Time Address)}
    (permitted : ∀ event, event ∈ events → event.Permitted)
    (inOrder : indices events =
      (List.range (2 - count)).map fun offset => stream.first + count + offset) :
    (self.after (events.map (StreamEvent.event stream))).Opens stream 2 ∧
      self.delivered (events.map (StreamEvent.event stream)) = [] := by
  induction events generalizing self count with
  | nil =>
      have lengthEq := congrArg List.length inOrder
      rw [List.length_map, List.length_range] at lengthEq
      have isSecond : count = 2 := by
        change 0 = 2 - count at lengthEq
        omega
      rw [isSecond] at opens
      exact ⟨opens, rfl⟩
  | cons event rest ih =>
      have later : ∀ other, other ∈ rest → other.Permitted := fun other member =>
        permitted other (List.mem_cons_of_mem event member)
      cases event with
      | passive event =>
          obtain ⟨final, silent⟩ := ih
            (opens.passive (permitted _ List.mem_cons_self)) notThird later inOrder
          refine ⟨final, ?_⟩
          change self.handsOut event ++ (self.step event).delivered _ = []
          rw [silent, self.handsOut_of_passive (permitted _ List.mem_cons_self)]
          rfl
      | next =>
          have same : self.step .nextPacket = self := by rw [step, opens.nextPacket]
          obtain ⟨final, silent⟩ := ih opens notThird later inOrder
          change ((self.step .nextPacket).after _).Opens _ _ ∧
            self.getNextPacket.1.toList ++ (self.step .nextPacket).delivered _ = []
          rw [same, opens.nextPacket]
          exact ⟨final, silent⟩
      | packet index receivetime =>
          have indicesEq : index :: indices rest =
              (List.range (2 - count)).map fun offset => stream.first + count + offset := inOrder
          have more : 2 - count = (2 - (count + 1)) + 1 := by
            have lengthEq := congrArg List.length indicesEq
            rw [List.length_map, List.length_range, List.length_cons] at lengthEq
            omega
          rw [more, List.range_succ_eq_map, List.map_cons, List.map_map] at indicesEq
          obtain ⟨isNext, restEq⟩ := List.cons.inj indicesEq
          have restIndices : indices rest =
              (List.range (2 - (count + 1))).map fun offset =>
                stream.first + (count + 1) + offset := by
            rw [restEq]
            apply List.map_congr_left
            intro offset _
            change stream.first + count + (offset + 1) = _
            omega
          rw [isNext] at *
          obtain ⟨final, silent⟩ := ih (opens.packet (by omega) receivetime) (by omega) later
            restIndices
          exact ⟨final, silent⟩

/-- A validated source runs as the ordered queue does. -/
theorem Follows.run {self : RTPInternalSourceData Time Address} {highest : Nat}
    {log : OrderedQueue.Log StoredPacket} (follows : self.Follows highest log) (stream : Stream)
    (notLast : highest < 4294901760) {events : List (StreamEvent Time Address)}
    (permitted : ∀ event, event ∈ events → event.Permitted)
    (early : ∀ index, index ∈ indices events → index < 4294901760)
    (inWindow : AllInWindow 65536 highest (indices events)) :
    let final := log.run StoredPacket.extseqnr (events.filterMap (StreamEvent.atQueue stream))
    (self.after (events.map (StreamEvent.event stream))).packetlist = final.queue ∧
      final.taken = log.taken ++ self.delivered (events.map (StreamEvent.event stream)) := by
  induction events generalizing self highest log with
  | nil => exact ⟨follows.queue, (List.append_nil _).symm⟩
  | cons event rest ih =>
      have later : ∀ other, other ∈ rest → other.Permitted := fun other member =>
        permitted other (List.mem_cons_of_mem event member)
      cases event with
      | passive event =>
          obtain ⟨queueEq, takenEq⟩ := ih
            (follows.passive (permitted _ List.mem_cons_self)) notLast later early inWindow
          refine ⟨queueEq, takenEq.trans ?_⟩
          change _ = log.taken ++ (self.handsOut event ++ (self.step event).delivered _)
          rw [self.handsOut_of_passive (permitted _ List.mem_cons_self)]
          rfl
      | next =>
          obtain ⟨next, takenNext⟩ := follows.nextPacket
          obtain ⟨queueEq, takenEq⟩ := ih next notLast later early inWindow
          refine ⟨queueEq, takenEq.trans ?_⟩
          rw [takenNext, List.map_cons, delivered, List.append_assoc]
          rfl
      | packet index receivetime =>
          obtain ⟨here, behind⟩ := inWindow
          have isEarly := early index List.mem_cons_self
          have next := follows.rtpPacket notLast here (stream.numbered index) receivetime
          exact ih next (Nat.max_lt.mpr ⟨notLast, isEarly⟩) later
            (fun other member => early other (List.mem_cons_of_mem index member)) behind

end RTPInternalSourceData

end DShowCapture.Jrtplib
