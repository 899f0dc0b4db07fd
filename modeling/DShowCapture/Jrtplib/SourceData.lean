/-
One participant of a session: `RTPSourceData` of `jrtp/jrtplib/rtpsourcedata.h` and
`RTPInternalSourceData` of `rtpinternalsourcedata.cpp`.

A source keeps the packets that wait for the application in the order of their extended
numbers, and hands them out once it is validated.  What no function reads again is left out:
the contents of the reports, and the unit of the time stamps that the jitter is measured in.
-/
import DShowCapture.Jrtplib.BuildPacket
import DShowCapture.Jrtplib.SourceStats
import DShowCapture.Library.OrderedQueue

namespace DShowCapture.Jrtplib

open ByteMemory

inductive ProbationType
  | noProbation
  | probationDiscard
  | probationStore
  deriving DecidableEq, Repr

inductive SDESItem
  | cname
  | name
  | email
  | phone
  | location
  | tool
  | note
  deriving DecidableEq, Repr

inductive SDESError
  | lengthTooBig
  | maxPrivItems
  deriving DecidableEq, Repr

def rtcpSdesMaxItemLength : Nat := 255
def rtpMaxPrivItems : Nat := 256

/-- `RTCPSDESInfo`; a private item is a prefix with its value. -/
structure RTCPSDESInfo where
  nonprivateitems : SDESItem → List UInt8
  privitems : List (List UInt8 × List UInt8)

namespace RTCPSDESInfo

def empty : RTCPSDESInfo := { nonprivateitems := fun _ => [], privitems := [] }

def setNonPrivateItem (self : RTCPSDESInfo) (item : SDESItem) (text : List UInt8) :
    Except SDESError RTCPSDESInfo :=
  if rtcpSdesMaxItemLength < text.length then .error .lengthTooBig
  else
    .ok { self with nonprivateitems := Function.update self.nonprivateitems item text }

/-- `SetPrivateValue`; `SetPrefix` and `SetInfo` cut what is too long. -/
def setPrivateValue (self : RTCPSDESInfo) (pre value : List UInt8) :
    Except SDESError RTCPSDESInfo :=
  let cut := value.take rtcpSdesMaxItemLength
  if self.privitems.any (fun item => item.1 == pre) then
    .ok
      { self with
        privitems := self.privitems.replaceF fun item =>
          if item.1 == pre then some (item.1, cut) else none }
  else if rtpMaxPrivItems ≤ self.privitems.length then .error .maxPrivItems
  else
    .ok { self with privitems := (pre.take rtcpSdesMaxItemLength, cut) :: self.privitems }

end RTCPSDESInfo

structure StoredPacket where
  members : RTPPacket
  packet : Memory

namespace StoredPacket

def extseqnr (self : StoredPacket) : Nat := self.members.extseqnr

def setExtendedSequenceNumber (self : StoredPacket) (seqnr : Nat) : StoredPacket :=
  { self with members := { self.members with extseqnr := seqnr } }

end StoredPacket

def maxProbationPackets : Nat := 32

structure RTPInternalSourceData (Time Address : Type) where
  ssrc : Nat
  probationtype : ProbationType
  packetlist : List StoredPacket
  ownssrc : Bool
  iscsrc : Bool
  receivedbye : Bool
  validated : Bool
  processedinrtcp : Bool
  issender : Bool
  stats : RTPSourceStats Time
  sdesinf : RTCPSDESInfo
  isrtpaddrset : Bool
  isrtcpaddrset : Bool
  rtpaddr : Option Address
  rtcpaddr : Option Address
  byetime : Time
  byereason : List UInt8

namespace RTPInternalSourceData

variable {Time Address : Type}

def new (ssrc : Nat) (probationtype : ProbationType) (zero : Time) :
    RTPInternalSourceData Time Address :=
  { ssrc := ssrc
    probationtype := probationtype
    packetlist := []
    ownssrc := false
    iscsrc := false
    receivedbye := false
    validated := false
    processedinrtcp := false
    issender := false
    stats := RTPSourceStats.new zero
    sdesinf := RTCPSDESInfo.empty
    isrtpaddrset := false
    isrtcpaddrset := false
    rtpaddr := none
    rtcpaddr := none
    byetime := zero
    byereason := [] }

def isActive (self : RTPInternalSourceData Time Address) : Bool :=
  if !self.validated then false else if self.receivedbye then false else true

def getNextPacket (self : RTPInternalSourceData Time Address) :
    Option StoredPacket × RTPInternalSourceData Time Address :=
  if !self.validated then (none, self)
  else
    match self.packetlist with
    | [] => (none, self)
    | first :: rest => (some first, { self with packetlist := rest })

/-- The part of `ProcessRTPPacket` that places the packet in the queue. -/
def placePacket (self : RTPInternalSourceData Time Address) (rtppack : StoredPacket) :
    RTPInternalSourceData Time Address × Bool :=
  if self.packetlist.isEmpty then ({ self with packetlist := [rtppack] }, true)
  else
    let kept :=
      if !self.validated ∧ self.packetlist.length = maxProbationPackets then
        self.packetlist.drop 1
      else self.packetlist
    match OrderedQueue.insert StoredPacket.extseqnr kept rtppack with
    | none => ({ self with packetlist := kept }, false)
    | some packetlist => ({ self with packetlist := packetlist }, true)

def storePacket (self : RTPInternalSourceData Time Address) (rtppack : StoredPacket) :
    RTPInternalSourceData Time Address × Bool :=
  if self.validated ∧ !self.ownssrc then { self with issender := true }.placePacket rtppack
  else self.placePacket rtppack

def applyProbation (self : RTPInternalSourceData Time Address) : Bool :=
  if self.validated then false
  else if self.probationtype = .noProbation then false
  else true

/-- `ProcessRTPPacket`, with whether the packet was stored. -/
def processRTPPacket (self : RTPInternalSourceData Time Address) (rtppack : StoredPacket)
    (receivetime : Time) : RTPInternalSourceData Time Address × Bool :=
  let processed := self.stats.processPacket rtppack.extseqnr receivetime self.ownssrc
    self.applyProbation
  let numbered := rtppack.setExtendedSequenceNumber processed.extseqnr
  match self.probationtype with
  | .probationStore =>
      if !(processed.onprobation || processed.accept) then
        ({ self with stats := processed.stats }, false)
      else if processed.accept then
        { self with stats := processed.stats, validated := true }.storePacket numbered
      else { self with stats := processed.stats }.storePacket numbered
  | .probationDiscard | .noProbation =>
      if !processed.accept then ({ self with stats := processed.stats }, false)
      else { self with stats := processed.stats, validated := true }.storePacket numbered

def setLastMessageTime (self : RTPInternalSourceData Time Address) (receivetime : Time) :
    RTPInternalSourceData Time Address :=
  { self with stats := { self.stats with lastmsgtime := receivetime } }

def setLastNoteTime (self : RTPInternalSourceData Time Address) (receivetime : Time) :
    RTPInternalSourceData Time Address :=
  { self with stats := { self.stats with lastnotetime := receivetime } }

def setSDES (self : RTPInternalSourceData Time Address) (outcome : Except SDESError RTCPSDESInfo) :
    RTPInternalSourceData Time Address × Except SDESError Unit :=
  match outcome with
  | .error error => (self, .error error)
  | .ok sdesinf => ({ self with sdesinf := sdesinf }, .ok ())

structure SDESProcessed (Time Address : Type) where
  source : RTPInternalSourceData Time Address
  status : Except SDESError Unit
  cnamecollis : Bool

def processSDESItem (self : RTPInternalSourceData Time Address) (item : SDESItem)
    (text : List UInt8) (receivetime : Time) : SDESProcessed Time Address :=
  let heard := self.setLastMessageTime receivetime
  let old := heard.sdesinf.nonprivateitems item
  let set (source : RTPInternalSourceData Time Address) : SDESProcessed Time Address :=
    let done := source.setSDES (source.sdesinf.setNonPrivateItem item text)
    { source := done.1, status := done.2, cnamecollis := false }
  match item with
  | .cname =>
      -- whether the name could be set does not matter
      if old.length = 0 then
        { set { heard with validated := true } with status := .ok () }
      else { source := heard, status := .ok (), cnamecollis := old ≠ text }
  | .name | .email | .tool =>
      if old.length = 0 then set heard
      else { source := heard, status := .ok (), cnamecollis := false }
  | .phone | .location => set heard
  | .note => set (heard.setLastNoteTime receivetime)

def processPrivateSDESItem (self : RTPInternalSourceData Time Address)
    (pre value : List UInt8) (receivetime : Time) :
    RTPInternalSourceData Time Address × Except SDESError Unit :=
  let heard := self.setLastMessageTime receivetime
  match heard.sdesinf.setPrivateValue pre value with
  | .error .maxPrivItems => (heard, .ok ())
  | outcome => heard.setSDES outcome

def processBYEPacket (self : RTPInternalSourceData Time Address) (reason : List UInt8)
    (receivetime : Time) : RTPInternalSourceData Time Address :=
  { self with byetime := receivetime, byereason := reason, receivedbye := true
  }.setLastMessageTime receivetime

def setRTPDataAddress (self : RTPInternalSourceData Time Address) (address : Option Address) :
    RTPInternalSourceData Time Address :=
  { self with rtpaddr := address, isrtpaddrset := true }

def setRTCPDataAddress (self : RTPInternalSourceData Time Address) (address : Option Address) :
    RTPInternalSourceData Time Address :=
  { self with rtcpaddr := address, isrtcpaddrset := true }

def clearSenderFlag (self : RTPInternalSourceData Time Address) :
    RTPInternalSourceData Time Address := { self with issender := false }

def sentRTPPacket (self : RTPInternalSourceData Time Address) (now : Time) :
    RTPInternalSourceData Time Address :=
  if !self.ownssrc then self
  else
    { self with
      issender := true
      stats := { self.stats with lastrtptime := now, lastmsgtime := now } }

def setOwnSSRC (self : RTPInternalSourceData Time Address) :
    RTPInternalSourceData Time Address := { self with ownssrc := true, validated := true }

def setCSRC (self : RTPInternalSourceData Time Address) :
    RTPInternalSourceData Time Address := { self with validated := true, iscsrc := true }

def clearNote (self : RTPInternalSourceData Time Address) :
    RTPInternalSourceData Time Address :=
  (self.setSDES (self.sdesinf.setNonPrivateItem .note [])).1

def flushPackets (self : RTPInternalSourceData Time Address) :
    RTPInternalSourceData Time Address := { self with packetlist := [] }

/-! ### Events -/

inductive Event (Time Address : Type)
  | rtpPacket (rtppack : StoredPacket) (receivetime : Time)
  | nextPacket
  | sdesItem (item : SDESItem) (text : List UInt8) (receivetime : Time)
  | privateSDESItem (pre value : List UInt8) (receivetime : Time)
  | bye (reason : List UInt8) (receivetime : Time)
  | message (receivetime : Time)
  | rtpAddress (address : Option Address)
  | rtcpAddress (address : Option Address)
  | clearSenderFlag
  | sentRTPPacket (now : Time)
  | ownSSRC
  | csrc
  | clearNote
  | flushPackets
  | processedInRTCP (done : Bool)
  | newInterval

def step (self : RTPInternalSourceData Time Address) :
    Event Time Address → RTPInternalSourceData Time Address
  | .rtpPacket rtppack receivetime => (self.processRTPPacket rtppack receivetime).1
  | .nextPacket => self.getNextPacket.2
  | .sdesItem item text receivetime => (self.processSDESItem item text receivetime).source
  | .privateSDESItem pre value receivetime =>
      (self.processPrivateSDESItem pre value receivetime).1
  | .bye reason receivetime => self.processBYEPacket reason receivetime
  | .message receivetime => self.setLastMessageTime receivetime
  | .rtpAddress address => self.setRTPDataAddress address
  | .rtcpAddress address => self.setRTCPDataAddress address
  | .clearSenderFlag => self.clearSenderFlag
  | .sentRTPPacket now => self.sentRTPPacket now
  | .ownSSRC => self.setOwnSSRC
  | .csrc => self.setCSRC
  | .clearNote => self.clearNote
  | .flushPackets => self.flushPackets
  | .processedInRTCP done => { self with processedinrtcp := done }
  | .newInterval => { self with stats := self.stats.startNewInterval }

def after (self : RTPInternalSourceData Time Address) (events : List (Event Time Address)) :
    RTPInternalSourceData Time Address :=
  events.foldl step self

/-! ### The invariant of a source -/

structure Wellformed (state : RTPInternalSourceData Time Address) : Prop where
  ordered : OrderedQueue.Ordered StoredPacket.extseqnr state.packetlist
  few : state.validated = false → state.packetlist.length ≤ maxProbationPackets
  sender : state.issender = true → state.validated = true
  own : state.ownssrc = true → state.validated = true
  accepted : state.stats.sentdata = true → state.validated = true
  named : state.sdesinf.nonprivateitems .cname ≠ [] → state.validated = true
  texts : ∀ item, (state.sdesinf.nonprivateitems item).length ≤ rtcpSdesMaxItemLength
  privitems : state.sdesinf.privitems.length ≤ rtpMaxPrivItems
  privtexts : ∀ item, item ∈ state.sdesinf.privitems →
    item.1.length ≤ rtcpSdesMaxItemLength ∧ item.2.length ≤ rtcpSdesMaxItemLength

theorem wellformed_new (ssrc : Nat) (probationtype : ProbationType) (zero : Time) :
    (new ssrc probationtype zero : RTPInternalSourceData Time Address).Wellformed :=
  { ordered := List.Pairwise.nil
    few := fun _ => Nat.zero_le _
    sender := fun impossible => by cases impossible
    own := fun impossible => by cases impossible
    accepted := fun impossible => by cases impossible
    named := fun impossible => absurd rfl impossible
    texts := fun _ => Nat.zero_le _
    privitems := Nat.zero_le _
    privtexts := fun _ member => absurd member List.not_mem_nil }

theorem wellformed_validate {self : RTPInternalSourceData Time Address}
    (wellformed : self.Wellformed) : Wellformed { self with validated := true } :=
  { wellformed with
    few := fun impossible => by cases impossible
    sender := fun _ => rfl
    own := fun _ => rfl
    accepted := fun _ => rfl
    named := fun _ => rfl }

theorem placePacket_spec {self : RTPInternalSourceData Time Address}
    (ordered : OrderedQueue.Ordered StoredPacket.extseqnr self.packetlist)
    (few : self.validated = false → self.packetlist.length ≤ maxProbationPackets)
    (rtppack : StoredPacket) :
    ∃ packetlist, (self.placePacket rtppack).1 = { self with packetlist := packetlist } ∧
      OrderedQueue.Ordered StoredPacket.extseqnr packetlist ∧
      (self.validated = false → packetlist.length ≤ maxProbationPackets) := by
  unfold placePacket
  by_cases empty : self.packetlist.isEmpty = true
  · rw [if_pos empty]
    exact ⟨_, rfl, List.pairwise_singleton _ _, fun _ => Nat.succ_le_succ (Nat.zero_le 31)⟩
  · rw [if_neg empty]
    have keptOrdered (packets : List StoredPacket) (isKept : packets =
        if !self.validated ∧ self.packetlist.length = maxProbationPackets then
          self.packetlist.drop 1 else self.packetlist) :
        OrderedQueue.Ordered StoredPacket.extseqnr packets ∧
          (self.validated = false → packets.length < maxProbationPackets) := by
      split at isKept
      · rename_i full
        rw [isKept]
        refine ⟨ordered.sublist (List.drop_sublist 1 _), fun _ => ?_⟩
        rw [List.length_drop, full.2]
        decide
      · rename_i notFull
        rw [isKept]
        refine ⟨ordered, fun waiting => ?_⟩
        apply Nat.lt_of_le_of_ne (few waiting)
        intro isFull
        exact notFull ⟨by rw [waiting]; rfl, isFull⟩
    simp only
    obtain ⟨stillOrdered, stillFew⟩ := keptOrdered _ rfl
    split
    · exact ⟨_, rfl, stillOrdered, fun waiting => Nat.le_of_lt (stillFew waiting)⟩
    · rename_i next nextEq
      refine ⟨next, rfl, OrderedQueue.ordered_insert stillOrdered nextEq, fun waiting => ?_⟩
      rw [OrderedQueue.length_insert nextEq]
      exact stillFew waiting

theorem wellformed_placePacket {self : RTPInternalSourceData Time Address}
    (wellformed : self.Wellformed) (rtppack : StoredPacket) :
    (self.placePacket rtppack).1.Wellformed := by
  obtain ⟨packetlist, nextEq, ordered, few⟩ :=
    placePacket_spec wellformed.ordered wellformed.few rtppack
  rw [nextEq]
  exact { wellformed with ordered := ordered, few := few }

theorem wellformed_storePacket {self : RTPInternalSourceData Time Address}
    (wellformed : self.Wellformed) (rtppack : StoredPacket) :
    (self.storePacket rtppack).1.Wellformed := by
  unfold storePacket
  split
  · rename_i isRemote
    have sending : Wellformed { self with issender := true } :=
      { wellformed with sender := fun _ => isRemote.1 }
    exact wellformed_placePacket sending rtppack
  · exact wellformed_placePacket wellformed rtppack

/-- A packet is accepted, or it is kept while the source is on probation, or it is dropped. -/
theorem processRTPPacket_cases (self : RTPInternalSourceData Time Address)
    (rtppack : StoredPacket) (receivetime : Time) :
    let processed := self.stats.processPacket rtppack.extseqnr receivetime self.ownssrc
      self.applyProbation
    let numbered := rtppack.setExtendedSequenceNumber processed.extseqnr
    (processed.accept = true ∧ self.processRTPPacket rtppack receivetime =
        ({ self with stats := processed.stats, validated := true } :
          RTPInternalSourceData Time Address).storePacket numbered) ∨
      (processed.accept = false ∧ self.probationtype = .probationStore ∧
        processed.onprobation = true ∧ self.processRTPPacket rtppack receivetime =
          ({ self with stats := processed.stats } :
            RTPInternalSourceData Time Address).storePacket numbered) ∨
      (processed.accept = false ∧
        (self.probationtype = .probationStore → processed.onprobation = false) ∧
        self.processRTPPacket rtppack receivetime =
          ({ self with stats := processed.stats }, false)) := by
  unfold processRTPPacket
  simp only
  generalize self.stats.processPacket rtppack.extseqnr receivetime self.ownssrc
    self.applyProbation = processed
  cases accepted : processed.accept with
  | true =>
      apply Or.inl
      cases self.probationtype with
      | probationStore => exact ⟨rfl, by rw [Bool.or_true]; rfl⟩
      | probationDiscard => exact ⟨rfl, rfl⟩
      | noProbation => exact ⟨rfl, rfl⟩
  | false =>
      apply Or.inr
      cases self.probationtype with
      | probationDiscard => exact Or.inr ⟨rfl, fun impossible => (by cases impossible), rfl⟩
      | noProbation => exact Or.inr ⟨rfl, fun impossible => (by cases impossible), rfl⟩
      | probationStore =>
          cases processed.onprobation with
          | true => exact Or.inl ⟨rfl, rfl, rfl, rfl⟩
          | false => exact Or.inr ⟨rfl, fun _ => rfl, rfl⟩

theorem wellformed_processRTPPacket {self : RTPInternalSourceData Time Address}
    (wellformed : self.Wellformed) (rtppack : StoredPacket) (receivetime : Time) :
    (self.processRTPPacket rtppack receivetime).1.Wellformed := by
  have waiting (rejected : (self.stats.processPacket rtppack.extseqnr receivetime self.ownssrc
      self.applyProbation).accept = false) :
      Wellformed { self with
        stats := (self.stats.processPacket rtppack.extseqnr receivetime self.ownssrc
          self.applyProbation).stats } := by
    refine { wellformed with accepted := fun sent => ?_ }
    rw [RTPSourceStats.sentdata_of_not_accept rejected] at sent
    cases sent
  rcases self.processRTPPacket_cases rtppack receivetime with
    ⟨_, nextEq⟩ | ⟨rejected, _, _, nextEq⟩ | ⟨rejected, _, nextEq⟩
  · rw [nextEq]
    apply wellformed_storePacket
    exact { wellformed_validate wellformed with accepted := fun _ => rfl }
  · rw [nextEq]
    exact wellformed_storePacket (waiting rejected) _
  · rw [nextEq]
    exact waiting rejected

theorem texts_setNonPrivateItem {self next : RTCPSDESInfo} {item : SDESItem}
    {text : List UInt8} (set : self.setNonPrivateItem item text = .ok next)
    (short : ∀ item, (self.nonprivateitems item).length ≤ rtcpSdesMaxItemLength) :
    next.nonprivateitems = Function.update self.nonprivateitems item text ∧
      next.privitems = self.privitems ∧
      ∀ item, (next.nonprivateitems item).length ≤ rtcpSdesMaxItemLength := by
  unfold RTCPSDESInfo.setNonPrivateItem at set
  split at set
  · cases set
  · rename_i notTooLong
    cases set
    refine ⟨rfl, rfl, ?_⟩
    intro other
    by_cases same : other = item
    · rw [same]
      simp only [Function.update_self]
      exact Nat.not_lt.mp notTooLong
    · simp only [Function.update_of_ne same]
      exact short other

theorem wellformed_setSDES {self : RTPInternalSourceData Time Address}
    (wellformed : self.Wellformed) {item : SDESItem}
    (permitted : item = .cname → self.validated = true) (text : List UInt8) :
    (self.setSDES (self.sdesinf.setNonPrivateItem item text)).1.Wellformed := by
  cases set : self.sdesinf.setNonPrivateItem item text with
  | error error => exact wellformed
  | ok sdesinf =>
      obtain ⟨itemsEq, privEq, short⟩ := texts_setNonPrivateItem set wellformed.texts
      refine { wellformed with named := ?_, texts := short, privitems := ?_, privtexts := ?_ }
      · intro isNamed
        by_cases isCNAME : item = .cname
        · exact permitted isCNAME
        · apply wellformed.named
          have same : sdesinf.nonprivateitems .cname = self.sdesinf.nonprivateitems .cname := by
            rw [itemsEq, Function.update_of_ne (Ne.symm isCNAME)]
          rw [← same]
          exact isNamed
      · change sdesinf.privitems.length ≤ _
        rw [privEq]
        exact wellformed.privitems
      · change ∀ item, item ∈ sdesinf.privitems → _
        rw [privEq]
        exact wellformed.privtexts

theorem length_setPrivateValue {self next : RTCPSDESInfo} {pre value : List UInt8}
    (set : self.setPrivateValue pre value = .ok next)
    (few : self.privitems.length ≤ rtpMaxPrivItems) :
    next.nonprivateitems = self.nonprivateitems ∧ next.privitems.length ≤ rtpMaxPrivItems := by
  unfold RTCPSDESInfo.setPrivateValue at set
  split at set
  · cases set
    refine ⟨rfl, ?_⟩
    rw [List.length_replaceF]
    exact few
  · split at set
    · cases set
    · rename_i room
      cases set
      exact ⟨rfl, Nat.lt_of_not_le room⟩

theorem texts_setPrivateValue {self next : RTCPSDESInfo} {pre value : List UInt8}
    (set : self.setPrivateValue pre value = .ok next)
    (short : ∀ item, item ∈ self.privitems →
      item.1.length ≤ rtcpSdesMaxItemLength ∧ item.2.length ≤ rtcpSdesMaxItemLength) :
    ∀ item, item ∈ next.privitems →
      item.1.length ≤ rtcpSdesMaxItemLength ∧ item.2.length ≤ rtcpSdesMaxItemLength := by
  unfold RTCPSDESInfo.setPrivateValue at set
  split at set
  · cases set
    intro item member
    rcases List.exists_or_eq_self_of_replaceF
        (fun item : List UInt8 × List UInt8 =>
          if item.1 == pre then some (item.1, value.take rtcpSdesMaxItemLength) else none)
        self.privitems with
      same | ⟨old, new, front, rest, _, replaced, split, result⟩
    · rw [same] at member
      exact short item member
    · rw [result] at member
      have kept : ∀ other, other ∈ front ∨ other ∈ rest → other ∈ self.privitems := by
        intro other inside
        rw [split, List.mem_append, List.mem_cons]
        exact inside.imp_right Or.inr
      rw [List.mem_append, List.mem_cons] at member
      rcases member with inFront | rfl | inRest
      · exact short item (kept item (Or.inl inFront))
      · rw [Option.ite_none_right_eq_some, Option.some_inj] at replaced
        rw [← replaced.2]
        have oldMember : old ∈ self.privitems := by
          rw [split]
          exact List.mem_append_right front List.mem_cons_self
        have oldShort := short old oldMember
        exact ⟨oldShort.1, List.length_take_le _ _⟩
      · exact short item (kept item (Or.inr inRest))
  · split at set
    · cases set
    · cases set
      intro item member
      rcases List.mem_cons.mp member with rfl | inside
      · exact ⟨List.length_take_le _ _, List.length_take_le _ _⟩
      · exact short item inside

theorem wellformed_setLastMessageTime {self : RTPInternalSourceData Time Address}
    (wellformed : self.Wellformed) (receivetime : Time) :
    (self.setLastMessageTime receivetime).Wellformed := { wellformed with }

/-- An item is heard only, or it is set, which validates the source when it is the name. -/
theorem processSDESItem_cases (self : RTPInternalSourceData Time Address) (item : SDESItem)
    (text : List UInt8) (receivetime : Time) :
    let heard := self.setLastMessageTime receivetime
    let source := (self.processSDESItem item text receivetime).source
    (source = heard ∧ self.sdesinf.nonprivateitems item ≠ []) ∨
      ∃ start, source = (start.setSDES (start.sdesinf.setNonPrivateItem item text)).1 ∧
        ((item = .cname ∧ start = { heard with validated := true }) ∨
          (item ≠ .cname ∧ ∃ noted, start = heard.setLastNoteTime noted)) := by
  intro heard source
  have setOnce (permitted : item ≠ .cname) (sourceEq : source =
      if (self.sdesinf.nonprivateitems item).length = 0 then
        (heard.setSDES (heard.sdesinf.setNonPrivateItem item text)).1 else heard) :
      (source = heard ∧ self.sdesinf.nonprivateitems item ≠ []) ∨
        ∃ start, source = (start.setSDES (start.sdesinf.setNonPrivateItem item text)).1 ∧
          ((item = .cname ∧ start = { heard with validated := true }) ∨
            (item ≠ .cname ∧ ∃ noted, start = heard.setLastNoteTime noted)) := by
    split at sourceEq
    · exact Or.inr ⟨heard, sourceEq, Or.inr ⟨permitted, heard.stats.lastnotetime, rfl⟩⟩
    · rename_i nonempty
      exact Or.inl ⟨sourceEq, fun empty => nonempty (congrArg List.length empty)⟩
  cases item with
  | phone => exact Or.inr ⟨heard, rfl, Or.inr ⟨by decide, heard.stats.lastnotetime, rfl⟩⟩
  | location => exact Or.inr ⟨heard, rfl, Or.inr ⟨by decide, heard.stats.lastnotetime, rfl⟩⟩
  | note => exact Or.inr ⟨_, rfl, Or.inr ⟨by decide, receivetime, rfl⟩⟩
  | name =>
      apply setOnce (by decide)
      change SDESProcessed.source (ite _ _ _) = _
      rw [apply_ite SDESProcessed.source]
      rfl
  | email =>
      apply setOnce (by decide)
      change SDESProcessed.source (ite _ _ _) = _
      rw [apply_ite SDESProcessed.source]
      rfl
  | tool =>
      apply setOnce (by decide)
      change SDESProcessed.source (ite _ _ _) = _
      rw [apply_ite SDESProcessed.source]
      rfl
  | cname =>
      by_cases empty : (self.sdesinf.nonprivateitems .cname).length = 0
      · refine Or.inr ⟨{ heard with validated := true }, ?_, Or.inl ⟨rfl, rfl⟩⟩
        change SDESProcessed.source (ite _ _ _) = _
        rw [if_pos]
        exact empty
      · refine Or.inl ⟨?_, fun isEmpty => empty (congrArg List.length isEmpty)⟩
        change SDESProcessed.source (ite _ _ _) = _
        rw [if_neg]
        exact empty

theorem wellformed_processSDESItem {self : RTPInternalSourceData Time Address}
    (wellformed : self.Wellformed) (item : SDESItem) (text : List UInt8) (receivetime : Time) :
    (self.processSDESItem item text receivetime).source.Wellformed := by
  have heard := wellformed_setLastMessageTime wellformed receivetime
  rcases self.processSDESItem_cases item text receivetime with
    ⟨sourceEq, _⟩ | ⟨start, sourceEq, ⟨isCNAME, rfl⟩ | ⟨other, noted, rfl⟩⟩
  · rw [sourceEq]
    exact heard
  · rw [sourceEq]
    exact wellformed_setSDES (wellformed_validate heard) (fun _ => rfl) text
  · rw [sourceEq]
    have notedToo : ((self.setLastMessageTime receivetime).setLastNoteTime noted).Wellformed :=
      { heard with }
    exact wellformed_setSDES notedToo (fun same => absurd same other) text

theorem wellformed_processPrivateSDESItem {self : RTPInternalSourceData Time Address}
    (wellformed : self.Wellformed) (pre value : List UInt8) (receivetime : Time) :
    (self.processPrivateSDESItem pre value receivetime).1.Wellformed := by
  have heard := wellformed_setLastMessageTime wellformed receivetime
  unfold processPrivateSDESItem
  simp only
  cases set : (self.setLastMessageTime receivetime).sdesinf.setPrivateValue pre value with
  | error error =>
      cases error with
      | lengthTooBig => exact heard
      | maxPrivItems => exact heard
  | ok sdesinf =>
      obtain ⟨itemsEq, few⟩ := length_setPrivateValue set heard.privitems
      have short := texts_setPrivateValue set heard.privtexts
      refine { heard with named := ?_, texts := ?_, privitems := few, privtexts := short }
      · intro isNamed
        apply heard.named
        rw [← itemsEq]
        exact isNamed
      · intro item
        change (sdesinf.nonprivateitems item).length ≤ _
        rw [itemsEq]
        exact heard.texts item

theorem wellformed_step {self : RTPInternalSourceData Time Address}
    (wellformed : self.Wellformed) (event : Event Time Address) :
    (self.step event).Wellformed := by
  cases event with
  | rtpPacket rtppack receivetime =>
      exact wellformed_processRTPPacket wellformed rtppack receivetime
  | nextPacket =>
      simp only [step, getNextPacket]
      split
      · exact wellformed
      · rename_i validated
        cases queued : self.packetlist with
        | nil => exact wellformed
        | cons first rest =>
            have ordered := wellformed.ordered
            rw [queued] at ordered
            refine { wellformed with ordered := (List.pairwise_cons.mp ordered).2, few := ?_ }
            intro waiting
            have few := wellformed.few waiting
            rw [queued] at few
            exact Nat.le_of_succ_le few
  | sdesItem item text receivetime =>
      exact wellformed_processSDESItem wellformed item text receivetime
  | privateSDESItem pre value receivetime =>
      exact wellformed_processPrivateSDESItem wellformed pre value receivetime
  | sentRTPPacket now =>
      simp only [step, sentRTPPacket]
      split
      · exact wellformed
      · rename_i isOwn
        have own : self.ownssrc = true := by
          cases ownEq : self.ownssrc with
          | false =>
              rw [ownEq] at isOwn
              exact absurd rfl isOwn
          | true => rfl
        exact { wellformed with sender := fun _ => wellformed.own own }
  | clearSenderFlag => exact { wellformed with sender := fun impossible => by cases impossible }
  | ownSSRC => exact { wellformed_validate wellformed with own := fun _ => rfl }
  | csrc => exact { wellformed_validate wellformed with }
  | clearNote => exact wellformed_setSDES wellformed (fun impossible => by cases impossible) []
  | flushPackets =>
      exact { wellformed with ordered := List.Pairwise.nil, few := fun _ => Nat.zero_le _ }
  | _ => exact { wellformed with }

/-- Whatever happens to a source, its queue stays in the order of the extended numbers, holds
at most 32 packets while the source is not validated, and what counts as validation is never
taken back. -/
theorem wellformed_after (ssrc : Nat) (probationtype : ProbationType) (zero : Time)
    (events : List (Event Time Address)) :
    ((new ssrc probationtype zero).after events).Wellformed := by
  have fromHere (events : List (Event Time Address))
      (state : RTPInternalSourceData Time Address) (wellformed : state.Wellformed) :
      (state.after events).Wellformed := by
    induction events generalizing state with
    | nil => exact wellformed
    | cons event rest ih => exact ih _ (wellformed_step wellformed event)
  exact fromHere events _ (wellformed_new ssrc probationtype zero)

/-! ### How a source is validated -/

theorem storePacket_frame (self : RTPInternalSourceData Time Address) (rtppack : StoredPacket) :
    ∃ packetlist issender, (self.storePacket rtppack).1 =
      { self with packetlist := packetlist, issender := issender } := by
  have placed (state : RTPInternalSourceData Time Address) :
      ∃ packetlist, (state.placePacket rtppack).1 = { state with packetlist := packetlist } := by
    unfold placePacket
    split
    · exact ⟨_, rfl⟩
    · simp only
      split
      · exact ⟨_, rfl⟩
      · exact ⟨_, rfl⟩
  unfold storePacket
  split
  · obtain ⟨packetlist, nextEq⟩ := placed { self with issender := true }
    exact ⟨packetlist, true, nextEq⟩
  · obtain ⟨packetlist, nextEq⟩ := placed self
    exact ⟨packetlist, self.issender, nextEq⟩

def Event.Validates : Event Time Address → Prop
  | .sdesItem .cname _ _ | .ownSSRC | .csrc => True
  | _ => False

def Event.number : Event Time Address → Option Nat
  | .rtpPacket rtppack _ => some rtppack.extseqnr
  | _ => none

def numbers (events : List (Event Time Address)) : List Nat := events.filterMap Event.number

theorem validated_setSDES (self : RTPInternalSourceData Time Address)
    (outcome : Except SDESError RTCPSDESInfo) :
    (self.setSDES outcome).1.validated = self.validated := by
  cases outcome with
  | error error => rfl
  | ok sdesinf => rfl

theorem validated_step {self : RTPInternalSourceData Time Address}
    (validated : self.validated = true) (event : Event Time Address) :
    (self.step event).validated = true := by
  cases event with
  | rtpPacket rtppack receivetime =>
      rw [step]
      rcases self.processRTPPacket_cases rtppack receivetime with
        ⟨_, nextEq⟩ | ⟨_, _, _, nextEq⟩ | ⟨_, _, nextEq⟩
      · obtain ⟨packetlist, issender, storedEq⟩ := storePacket_frame _ _
        rw [nextEq, storedEq]
      · obtain ⟨packetlist, issender, storedEq⟩ := storePacket_frame _ _
        rw [nextEq, storedEq]
        exact validated
      · rw [nextEq]
        exact validated
  | nextPacket =>
      simp only [step, getNextPacket]
      repeat' split
      all_goals exact validated
  | sdesItem item text receivetime =>
      rw [step]
      rcases self.processSDESItem_cases item text receivetime with
        ⟨sourceEq, _⟩ | ⟨start, sourceEq, ⟨_, rfl⟩ | ⟨_, noted, rfl⟩⟩
      · rw [sourceEq]
        exact validated
      · rw [sourceEq, validated_setSDES]
      · rw [sourceEq, validated_setSDES]
        exact validated
  | privateSDESItem pre value receivetime =>
      simp only [step, processPrivateSDESItem]
      split
      · exact validated
      · exact (validated_setSDES _ _).trans validated
  | sentRTPPacket now =>
      simp only [step, sentRTPPacket]
      split
      · exact validated
      · exact validated
  | clearNote => exact (validated_setSDES _ _).trans validated
  | ownSSRC => rfl
  | csrc => rfl
  | _ => exact validated

structure Waiting (state : RTPInternalSourceData Time Address) (numbers : List Nat) : Prop where
  validated : state.validated = false
  probation : state.probationtype ≠ .noProbation
  unnamed : state.sdesinf.nonprivateitems .cname = []
  probes : state.stats.Probes numbers

theorem waiting_new (ssrc : Nat) {probationtype : ProbationType}
    (probation : probationtype ≠ .noProbation) (zero : Time) :
    (new ssrc probationtype zero : RTPInternalSourceData Time Address).Waiting [] :=
  { validated := rfl
    probation := probation
    unnamed := rfl
    probes := RTPSourceStats.probes_new zero }

theorem validates_step {self : RTPInternalSourceData Time Address} {numbers : List Nat}
    (waiting : self.Waiting numbers) {event : Event Time Address} (validates : event.Validates) :
    (self.step event).validated = true := by
  cases event with
  | ownSSRC => rfl
  | csrc => rfl
  | sdesItem item text receivetime =>
      cases item with
      | cname =>
          rw [step]
          rcases self.processSDESItem_cases .cname text receivetime with
            ⟨_, named⟩ | ⟨start, sourceEq, ⟨_, rfl⟩ | ⟨other, _, _⟩⟩
          · exact absurd waiting.unnamed named
          · rw [sourceEq, validated_setSDES]
          · exact absurd rfl other
      | _ => exact validates.elim
  | _ => exact validates.elim

theorem processPacket_waiting {self : RTPInternalSourceData Time Address}
    (waiting : self.validated = false) (probation : self.probationtype ≠ .noProbation)
    (unsent : self.stats.sentdata = false) (seqnr : Nat) (receivetime : Time) :
    self.stats.processPacket seqnr receivetime self.ownssrc self.applyProbation =
      self.stats.probe seqnr receivetime self.ownssrc := by
  rw [applyProbation, waiting, if_neg Bool.false_ne_true, if_neg probation,
    RTPSourceStats.processPacket, unsent]
  rfl

/-- A packet validates a waiting source exactly when its number is the third in a row. -/
theorem waiting_rtpPacket {self : RTPInternalSourceData Time Address} {numbers : List Nat}
    (waiting : self.Waiting numbers) {rtppack : StoredPacket} (small : rtppack.extseqnr < 65536)
    (receivetime : Time) :
    (RTPSourceStats.ThreeInRow (numbers ++ [rtppack.extseqnr]) ∧
        (self.step (.rtpPacket rtppack receivetime)).validated = true) ∨
      (self.step (.rtpPacket rtppack receivetime)).Waiting (numbers ++ [rtppack.extseqnr]) := by
  have cases := self.processRTPPacket_cases rtppack receivetime
  rw [processPacket_waiting waiting.validated waiting.probation
    waiting.probes.unaccepted.sentdata] at cases
  rw [step]
  rcases RTPSourceStats.probes_probe waiting.probes small receivetime self.ownssrc with
    ⟨three, accepted⟩ | ⟨rejected, _, _, probes⟩
  · apply Or.inl
    refine ⟨three, ?_⟩
    rcases cases with ⟨_, nextEq⟩ | ⟨not, _⟩ | ⟨not, _⟩
    · obtain ⟨packetlist, issender, storedEq⟩ := storePacket_frame _ _
      rw [nextEq, storedEq]
    · rw [accepted] at not
      cases not
    · rw [accepted] at not
      cases not
  · apply Or.inr
    rcases cases with ⟨not, _⟩ | ⟨_, _, _, nextEq⟩ | ⟨_, _, nextEq⟩
    · rw [rejected] at not
      cases not
    · obtain ⟨packetlist, issender, storedEq⟩ := storePacket_frame _ _
      rw [nextEq, storedEq]
      exact { waiting with probes := probes }
    · rw [nextEq]
      exact { waiting with probes := probes }

theorem waiting_setSDES {self : RTPInternalSourceData Time Address} {numbers : List Nat}
    (waiting : self.Waiting numbers) {item : SDESItem} (other : item ≠ .cname)
    (text : List UInt8) :
    (self.setSDES (self.sdesinf.setNonPrivateItem item text)).1.Waiting numbers := by
  cases set : self.sdesinf.setNonPrivateItem item text with
  | error error => exact waiting
  | ok sdesinf =>
      refine { waiting with unnamed := ?_ }
      change sdesinf.nonprivateitems .cname = []
      unfold RTCPSDESInfo.setNonPrivateItem at set
      split at set
      · cases set
      · cases set
        simp only [Function.update_of_ne (Ne.symm other)]
        exact waiting.unnamed

theorem waiting_setLastMessageTime {self : RTPInternalSourceData Time Address}
    {numbers : List Nat} (waiting : self.Waiting numbers) (receivetime : Time) :
    (self.setLastMessageTime receivetime).Waiting numbers :=
  { waiting with probes := waiting.probes.of_same rfl rfl rfl rfl rfl }

theorem waiting_step {self : RTPInternalSourceData Time Address} {numbers : List Nat}
    (waiting : self.Waiting numbers) {event : Event Time Address}
    (silent : ¬ event.Validates) (noPacket : event.number = none) :
    (self.step event).Waiting numbers := by
  cases event with
  | rtpPacket rtppack receivetime => cases noPacket
  | ownSSRC => exact absurd trivial silent
  | csrc => exact absurd trivial silent
  | nextPacket =>
      rw [step, getNextPacket, waiting.validated]
      exact waiting
  | sdesItem item text receivetime =>
      have heard := waiting_setLastMessageTime waiting receivetime
      rw [step]
      rcases self.processSDESItem_cases item text receivetime with
        ⟨sourceEq, _⟩ | ⟨start, sourceEq, ⟨rfl, _⟩ | ⟨other, noted, rfl⟩⟩
      · rw [sourceEq]
        exact heard
      · exact absurd trivial silent
      · rw [sourceEq]
        have notedToo : ((self.setLastMessageTime receivetime).setLastNoteTime noted).Waiting
            numbers := { heard with probes := heard.probes.of_same rfl rfl rfl rfl rfl }
        exact waiting_setSDES notedToo other text
  | privateSDESItem pre value receivetime =>
      have heard := waiting_setLastMessageTime waiting receivetime
      simp only [step, processPrivateSDESItem]
      cases set : (self.setLastMessageTime receivetime).sdesinf.setPrivateValue pre value with
      | error error =>
          cases error with
          | lengthTooBig => exact heard
          | maxPrivItems => exact heard
      | ok sdesinf =>
          refine { heard with unnamed := ?_ }
          change sdesinf.nonprivateitems .cname = []
          unfold RTCPSDESInfo.setPrivateValue at set
          split at set
          · cases set
            exact heard.unnamed
          · split at set
            · cases set
            · cases set
              exact heard.unnamed
  | bye reason receivetime =>
      exact { waiting with probes := waiting.probes.of_same rfl rfl rfl rfl rfl }
  | message receivetime => exact waiting_setLastMessageTime waiting receivetime
  | sentRTPPacket now =>
      simp only [step, sentRTPPacket]
      split
      · exact waiting
      · exact { waiting with probes := waiting.probes.of_same rfl rfl rfl rfl rfl }
  | newInterval => exact { waiting with probes := waiting.probes.of_same rfl rfl rfl rfl rfl }
  | clearNote => exact waiting_setSDES waiting (by decide) []
  | _ => exact { waiting with }

theorem numbers_append (events : List (Event Time Address)) (event : Event Time Address) :
    numbers (events ++ [event]) = numbers events ++ event.number.toList := by
  rw [numbers, List.filterMap_append, numbers]
  cases numberEq : event.number with
  | none => rw [List.filterMap_cons_none numberEq]; rfl
  | some number => rw [List.filterMap_cons_some numberEq]; rfl

theorem after_append (self : RTPInternalSourceData Time Address)
    (first second : List (Event Time Address)) :
    self.after (first ++ second) = (self.after first).after second :=
  List.foldl_append

/-- By induction on the events: the source waits until one of the causes has occurred. -/
theorem validated_or_waiting (ssrc : Nat) {probationtype : ProbationType}
    (probation : probationtype ≠ .noProbation) (zero : Time)
    {events : List (Event Time Address)}
    (small : ∀ number, number ∈ numbers events → number < 65536) :
    (((new ssrc probationtype zero).after events).validated = true ∧
        (RTPSourceStats.ThreeInRow (numbers events) ∨
          ∃ event, event ∈ events ∧ event.Validates)) ∨
      (((new ssrc probationtype zero).after events).Waiting (numbers events) ∧
        ¬ ∃ event, event ∈ events ∧ event.Validates) := by
  induction events using List.reverseRecOn with
  | nil =>
      refine Or.inr ⟨waiting_new ssrc probation zero, ?_⟩
      rintro ⟨event, member, _⟩
      exact absurd member List.not_mem_nil
  | append_singleton events event ih =>
      rw [after_append]
      change (step _ event |>.validated) = true ∧ _ ∨ (step _ event).Waiting _ ∧ _
      rw [numbers_append] at small ⊢
      have before := ih fun number member => small number (List.mem_append_left _ member)
      rcases before with ⟨validated, cause⟩ | ⟨waiting, silent⟩
      · refine Or.inl ⟨validated_step validated event, ?_⟩
        rcases cause with three | ⟨earlier, member, validates⟩
        · exact Or.inl (three.append _)
        · exact Or.inr ⟨earlier, List.mem_append_left _ member, validates⟩
      · by_cases validates : event.Validates
        · refine Or.inl ⟨validates_step waiting validates, Or.inr ⟨event, ?_, validates⟩⟩
          exact List.mem_append_right events (List.mem_singleton_self event)
        · have stillSilent : ¬ ∃ other, other ∈ events ++ [event] ∧ other.Validates := by
            rintro ⟨other, member, otherValidates⟩
            rcases List.mem_append.mp member with earlier | last
            · exact silent ⟨other, earlier, otherValidates⟩
            · rw [List.mem_singleton.mp last] at otherValidates
              exact validates otherValidates
          cases numberEq : event.number with
          | none =>
              rw [Option.toList_none, List.append_nil]
              exact Or.inr ⟨waiting_step waiting validates numberEq, stillSilent⟩
          | some number =>
              rw [numberEq] at small
              cases event with
              | rtpPacket rtppack receivetime =>
                  cases numberEq
                  have isSmall := small rtppack.extseqnr
                    (List.mem_append_right _ (List.mem_singleton_self _))
                  rcases waiting_rtpPacket waiting isSmall receivetime with
                    ⟨three, validated⟩ | stillWaiting
                  · exact Or.inl ⟨validated, Or.inl three⟩
                  · exact Or.inr ⟨stillWaiting, stillSilent⟩
              | _ => cases numberEq

/-- A source is validated by three packets in a row whose numbers follow each other, by its
name, by being listed as a contributing source or by being our own, and by nothing else. -/
theorem validated_after_iff (ssrc : Nat) {probationtype : ProbationType}
    (probation : probationtype ≠ .noProbation) (zero : Time)
    {events : List (Event Time Address)}
    (small : ∀ number, number ∈ numbers events → number < 65536) :
    ((new ssrc probationtype zero).after events).validated = true ↔
      RTPSourceStats.ThreeInRow (numbers events) ∨
        ∃ event, event ∈ events ∧ event.Validates := by
  rcases validated_or_waiting ssrc probation zero small with
    ⟨validated, cause⟩ | ⟨waiting, silent⟩
  · exact iff_of_true validated cause
  · rw [waiting.validated]
    apply iff_of_false Bool.false_ne_true
    rintro (three | validates)
    · exact waiting.probes.none three
    · exact silent validates

def barePacket (seqnr : Nat) : StoredPacket :=
  { members :=
      { hasextension := false, extid := 0, extension := 0, extensionlength := 0
        hasmarker := false, numcsrcs := 0, payloadtype := 96, extseqnr := seqnr, timestamp := 0
        ssrc := 7, payload := 12, packetlength := 12, payloadlength := 0 }
    packet := fun _ => 0 }

/-- The first two packets are followed by a gap; the three behind it validate the source. -/
theorem validated_after_iff_interrupted :
    let events : List (Event Nat Unit) :=
      [5, 6, 8, 9, 10].map fun seqnr => .rtpPacket (barePacket seqnr) 0
    ((new 7 .probationStore 0).after events).validated = true := by
  intro events
  have numbersEq : numbers events = [5, 6, 8, 9, 10] := rfl
  have small : ∀ number, number ∈ numbers events → number < 65536 := by
    rw [numbersEq]
    decide
  have probation : ProbationType.probationStore ≠ .noProbation := by decide
  exact (validated_after_iff 7 probation 0 small).mpr (Or.inl ⟨[5, 6], 8, [], rfl⟩)

end RTPInternalSourceData

end DShowCapture.Jrtplib
