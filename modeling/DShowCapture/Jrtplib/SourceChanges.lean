/-
What the events of a session do to the table of its participants.

Each function of the table is a sequence of small changes: a source is created, one source is
changed by an event of its own and counted again, our own source comes or goes, or a loop
examines all sources.  An invariant of the table has to be proved for these changes only.
-/
import DShowCapture.Jrtplib.Sources
import Mathlib.Logic.Relation

namespace DShowCapture.Jrtplib

open KeyedTable

namespace RTPInternalSourceData

variable {Time Address : Type}

/-! ### What an event leaves alone at a source -/

theorem setSDES_frame (self : RTPInternalSourceData Time Address)
    (outcome : Except SDESError RTCPSDESInfo) :
    ∃ sdesinf, (self.setSDES outcome).1 = { self with sdesinf := sdesinf } := by
  cases outcome with
  | error error => exact ⟨self.sdesinf, rfl⟩
  | ok sdesinf => exact ⟨sdesinf, rfl⟩

theorem processRTPPacket_frame (self : RTPInternalSourceData Time Address)
    (rtppack : StoredPacket) (receivetime : Time) :
    ∃ stats validated packetlist issender, (self.processRTPPacket rtppack receivetime).1 =
      { self with
        stats := stats
        validated := validated
        packetlist := packetlist
        issender := issender } := by
  rcases self.processRTPPacket_cases rtppack receivetime with
    ⟨_, nextEq⟩ | ⟨_, _, _, nextEq⟩ | ⟨_, _, nextEq⟩
  · obtain ⟨packetlist, issender, storedEq⟩ := storePacket_frame
      ({ self with
        stats := (self.stats.processPacket rtppack.extseqnr receivetime self.ownssrc
          self.applyProbation).stats
        validated := true } : RTPInternalSourceData Time Address)
      (rtppack.setExtendedSequenceNumber (self.stats.processPacket rtppack.extseqnr receivetime
        self.ownssrc self.applyProbation).extseqnr)
    exact ⟨_, true, packetlist, issender, (congrArg Prod.fst nextEq).trans storedEq⟩
  · obtain ⟨packetlist, issender, storedEq⟩ := storePacket_frame
      ({ self with
        stats := (self.stats.processPacket rtppack.extseqnr receivetime self.ownssrc
          self.applyProbation).stats } : RTPInternalSourceData Time Address)
      (rtppack.setExtendedSequenceNumber (self.stats.processPacket rtppack.extseqnr receivetime
        self.ownssrc self.applyProbation).extseqnr)
    exact ⟨_, self.validated, packetlist, issender, (congrArg Prod.fst nextEq).trans storedEq⟩
  · exact ⟨_, self.validated, self.packetlist, self.issender, congrArg Prod.fst nextEq⟩

theorem processSDESItem_frame (self : RTPInternalSourceData Time Address) (item : SDESItem)
    (text : List UInt8) (receivetime : Time) :
    ∃ stats validated sdesinf, (self.processSDESItem item text receivetime).source =
        { self with stats := stats, validated := validated, sdesinf := sdesinf } ∧
      (item ≠ .cname → validated = self.validated) := by
  rcases self.processSDESItem_cases item text receivetime with
    ⟨sourceEq, _⟩ | ⟨start, sourceEq, ⟨isCNAME, rfl⟩ | ⟨_, noted, rfl⟩⟩
  · exact ⟨_, self.validated, self.sdesinf, sourceEq, fun _ => rfl⟩
  · obtain ⟨sdesinf, setEq⟩ := setSDES_frame
      ({ self.setLastMessageTime receivetime with validated := true } :
        RTPInternalSourceData Time Address)
      ((self.setLastMessageTime receivetime).sdesinf.setNonPrivateItem item text)
    exact ⟨_, true, sdesinf, sourceEq.trans setEq, fun other => absurd isCNAME other⟩
  · obtain ⟨sdesinf, setEq⟩ := setSDES_frame
      ((self.setLastMessageTime receivetime).setLastNoteTime noted)
      (((self.setLastMessageTime receivetime).setLastNoteTime noted).sdesinf.setNonPrivateItem
        item text)
    exact ⟨_, self.validated, sdesinf, sourceEq.trans setEq, fun _ => rfl⟩

theorem processPrivateSDESItem_frame (self : RTPInternalSourceData Time Address)
    (pre value : List UInt8) (receivetime : Time) :
    ∃ stats sdesinf, (self.processPrivateSDESItem pre value receivetime).1 =
      { self with stats := stats, sdesinf := sdesinf } := by
  unfold processPrivateSDESItem
  simp only
  split
  · exact ⟨_, self.sdesinf, rfl⟩
  · obtain ⟨sdesinf, setEq⟩ := setSDES_frame (self.setLastMessageTime receivetime)
      ((self.setLastMessageTime receivetime).sdesinf.setPrivateValue pre value)
    exact ⟨_, sdesinf, setEq⟩

structure SameOwner (state next : RTPInternalSourceData Time Address) : Prop where
  ssrc : next.ssrc = state.ssrc
  ownssrc : next.ownssrc = state.ownssrc
  isrtpaddrset : next.isrtpaddrset = state.isrtpaddrset
  isrtcpaddrset : next.isrtcpaddrset = state.isrtcpaddrset
  rtpaddr : next.rtpaddr = state.rtpaddr
  rtcpaddr : next.rtcpaddr = state.rtcpaddr

def Event.Claims : Event Time Address → Prop
  | .rtpAddress _ | .rtcpAddress _ | .ownSSRC => True
  | _ => False

theorem sameOwner_step (self : RTPInternalSourceData Time Address)
    {event : Event Time Address} (claimsNot : ¬ event.Claims) :
    self.SameOwner (self.step event) := by
  have same : self.SameOwner self := ⟨rfl, rfl, rfl, rfl, rfl, rfl⟩
  cases event with
  | rtpPacket rtppack receivetime =>
      obtain ⟨_, _, _, _, nextEq⟩ := self.processRTPPacket_frame rtppack receivetime
      rw [step, nextEq]
      exact { same with }
  | nextPacket =>
      simp only [step, getNextPacket]
      repeat' split
      all_goals exact { same with }
  | sdesItem item text receivetime =>
      obtain ⟨_, _, _, nextEq, _⟩ := self.processSDESItem_frame item text receivetime
      rw [step, nextEq]
      exact { same with }
  | privateSDESItem pre value receivetime =>
      obtain ⟨_, _, nextEq⟩ := self.processPrivateSDESItem_frame pre value receivetime
      rw [step, nextEq]
      exact { same with }
  | rtpAddress address => exact absurd trivial claimsNot
  | rtcpAddress address => exact absurd trivial claimsNot
  | ownSSRC => exact absurd trivial claimsNot
  | sentRTPPacket now =>
      simp only [step, sentRTPPacket]
      split
      · exact same
      · exact { same with }
  | clearNote =>
      obtain ⟨_, nextEq⟩ := self.setSDES_frame (self.sdesinf.setNonPrivateItem .note [])
      rw [step, clearNote, nextEq]
      exact { same with }
  | _ => exact { same with }

theorem ssrc_step (self : RTPInternalSourceData Time Address) (event : Event Time Address) :
    (self.step event).ssrc = self.ssrc := by
  by_cases claims : event.Claims
  · cases event with
    | rtpAddress address => rfl
    | rtcpAddress address => rfl
    | ownSSRC => rfl
    | _ => exact claims.elim
  · exact (self.sameOwner_step claims).ssrc

theorem ssrc_after (self : RTPInternalSourceData Time Address)
    (events : List (Event Time Address)) : (self.after events).ssrc = self.ssrc := by
  induction events generalizing self with
  | nil => rfl
  | cons event rest ih => exact (ih (self.step event)).trans (self.ssrc_step event)

structure SameFlags (state next : RTPInternalSourceData Time Address) : Prop where
  issender : next.issender = state.issender
  validated : next.validated = state.validated
  receivedbye : next.receivedbye = state.receivedbye

theorem SameFlags.isActive {state next : RTPInternalSourceData Time Address}
    (same : state.SameFlags next) : next.isActive = state.isActive := by
  unfold RTPInternalSourceData.isActive
  rw [same.validated, same.receivedbye]

def Event.Uncounted : Event Time Address → Prop
  | .rtpPacket _ _ | .sdesItem _ _ _ | .bye _ _ | .clearSenderFlag | .sentRTPPacket _ | .ownSSRC
  | .csrc => False
  | _ => True

theorem sameFlags_step (self : RTPInternalSourceData Time Address)
    {event : Event Time Address} (uncounted : event.Uncounted) :
    self.SameFlags (self.step event) := by
  have same : self.SameFlags self := ⟨rfl, rfl, rfl⟩
  cases event with
  | nextPacket =>
      simp only [step, getNextPacket]
      repeat' split
      all_goals exact { same with }
  | privateSDESItem pre value receivetime =>
      obtain ⟨_, _, nextEq⟩ := self.processPrivateSDESItem_frame pre value receivetime
      rw [step, nextEq]
      exact { same with }
  | clearNote =>
      obtain ⟨_, nextEq⟩ := self.setSDES_frame (self.sdesinf.setNonPrivateItem .note [])
      rw [step, clearNote, nextEq]
      exact { same with }
  | rtpPacket rtppack receivetime => exact uncounted.elim
  | sdesItem item text receivetime => exact uncounted.elim
  | bye reason receivetime => exact uncounted.elim
  | clearSenderFlag => exact uncounted.elim
  | sentRTPPacket now => exact uncounted.elim
  | ownSSRC => exact uncounted.elim
  | csrc => exact uncounted.elim
  | _ => exact { same with }

structure Rises (state next : RTPInternalSourceData Time Address) : Prop where
  issender : state.issender = true → next.issender = true
  isActive : state.isActive = true → next.isActive = true

theorem isActive_iff (self : RTPInternalSourceData Time Address) :
    self.isActive = true ↔ self.validated = true ∧ self.receivedbye = false := by
  unfold isActive
  cases self.validated with
  | false => exact iff_of_false Bool.false_ne_true fun both => Bool.false_ne_true both.1
  | true =>
      cases self.receivedbye with
      | false => exact iff_of_true rfl ⟨rfl, rfl⟩
      | true => exact iff_of_false Bool.false_ne_true fun both => Bool.false_ne_true both.2.symm

theorem isActive_step {self : RTPInternalSourceData Time Address} (active : self.isActive = true)
    {event : Event Time Address}
    (sameBYE : (self.step event).receivedbye = self.receivedbye) :
    (self.step event).isActive = true := by
  rw [isActive_iff] at active ⊢
  exact ⟨validated_step active.1 event, sameBYE.trans active.2⟩

theorem issender_placePacket (self : RTPInternalSourceData Time Address)
    (rtppack : StoredPacket) : (self.placePacket rtppack).1.issender = self.issender := by
  unfold placePacket
  split
  · rfl
  · simp only
    split
    · rfl
    · rfl

theorem issender_storePacket {self : RTPInternalSourceData Time Address}
    (sender : self.issender = true) (rtppack : StoredPacket) :
    (self.storePacket rtppack).1.issender = true := by
  unfold storePacket
  split
  · exact issender_placePacket _ rtppack
  · exact (issender_placePacket _ rtppack).trans sender

theorem rises_rtpPacket (self : RTPInternalSourceData Time Address) (rtppack : StoredPacket)
    (receivetime : Time) : self.Rises (self.step (.rtpPacket rtppack receivetime)) := by
  refine { issender := fun sender => ?_, isActive := fun active => isActive_step active ?_ }
  · rw [step]
    rcases self.processRTPPacket_cases rtppack receivetime with
      ⟨_, nextEq⟩ | ⟨_, _, _, nextEq⟩ | ⟨_, _, nextEq⟩
    · rw [nextEq]
      apply issender_storePacket
      exact sender
    · rw [nextEq]
      apply issender_storePacket
      exact sender
    · rw [nextEq]
      exact sender
  · obtain ⟨_, _, _, _, nextEq⟩ := self.processRTPPacket_frame rtppack receivetime
    rw [step, nextEq]

theorem rises_sdesItem (self : RTPInternalSourceData Time Address) (item : SDESItem)
    (text : List UInt8) (receivetime : Time) :
    self.Rises (self.step (.sdesItem item text receivetime)) ∧
      (self.step (.sdesItem item text receivetime)).issender = self.issender := by
  obtain ⟨_, _, _, nextEq, _⟩ := self.processSDESItem_frame item text receivetime
  have senderEq : (self.step (.sdesItem item text receivetime)).issender = self.issender := by
    rw [step, nextEq]
  refine ⟨{ issender := fun sender => senderEq.trans sender, isActive := ?_ }, senderEq⟩
  intro active
  apply isActive_step active
  rw [step, nextEq]

theorem rises_sentRTPPacket (self : RTPInternalSourceData Time Address) (now : Time) :
    self.Rises (self.step (.sentRTPPacket now)) ∧
      (self.step (.sentRTPPacket now)).isActive = self.isActive := by
  simp only [step, sentRTPPacket]
  split
  · exact ⟨⟨id, id⟩, rfl⟩
  · exact ⟨⟨fun _ => rfl, id⟩, rfl⟩

theorem mem_placePacket {self : RTPInternalSourceData Time Address}
    (ordered : OrderedQueue.Ordered StoredPacket.extseqnr self.packetlist)
    {rtppack stored : StoredPacket} (member : stored ∈ (self.placePacket rtppack).1.packetlist) :
    stored ∈ self.packetlist ∨ stored = rtppack := by
  unfold placePacket at member
  by_cases empty : self.packetlist.isEmpty = true
  · rw [if_pos empty] at member
    exact Or.inr (List.mem_singleton.mp member)
  · rw [if_neg empty] at member
    simp only at member
    generalize keptEq : (if !self.validated ∧ self.packetlist.length = maxProbationPackets then
      self.packetlist.drop 1 else self.packetlist) = kept at member
    have sub : kept.Sublist self.packetlist := by
      rw [← keptEq]
      split
      · exact List.drop_sublist 1 self.packetlist
      · exact List.Sublist.refl self.packetlist
    have arrived : stored ∈ OrderedQueue.arrive StoredPacket.extseqnr kept rtppack := by
      unfold OrderedQueue.arrive
      cases inserted : OrderedQueue.insert StoredPacket.extseqnr kept rtppack with
      | none =>
          rw [inserted] at member
          exact member
      | some packetlist =>
          rw [inserted] at member
          exact member
    rcases OrderedQueue.mem_arrive (ordered.sublist sub) arrived with isNew | old
    · exact Or.inr isNew
    · exact Or.inl (sub.subset old)

theorem mem_storePacket {self : RTPInternalSourceData Time Address}
    (ordered : OrderedQueue.Ordered StoredPacket.extseqnr self.packetlist)
    {rtppack stored : StoredPacket} (member : stored ∈ (self.storePacket rtppack).1.packetlist) :
    stored ∈ self.packetlist ∨ stored = rtppack := by
  unfold storePacket at member
  split at member
  · have sending : OrderedQueue.Ordered StoredPacket.extseqnr
        (RTPInternalSourceData.packetlist { self with issender := true }) := ordered
    exact mem_placePacket sending member
  · exact mem_placePacket ordered member

/-- Only a packet adds to the queue, and what it adds is the packet under its new number. -/
theorem mem_packetlist_step {self : RTPInternalSourceData Time Address}
    (ordered : OrderedQueue.Ordered StoredPacket.extseqnr self.packetlist)
    {event : Event Time Address} {stored : StoredPacket}
    (member : stored ∈ (self.step event).packetlist) :
    stored ∈ self.packetlist ∨ ∃ rtppack receivetime extseqnr,
      event = .rtpPacket rtppack receivetime ∧
        stored = rtppack.setExtendedSequenceNumber extseqnr := by
  cases event with
  | rtpPacket rtppack receivetime =>
      have added {extseqnr : Nat}
          (cases : stored ∈ self.packetlist ∨
            stored = rtppack.setExtendedSequenceNumber extseqnr) :
          stored ∈ self.packetlist ∨ ∃ other time number,
            (Event.rtpPacket rtppack receivetime : Event Time Address) = .rtpPacket other time ∧
              stored = other.setExtendedSequenceNumber number :=
        cases.imp id fun isNew => ⟨rtppack, receivetime, extseqnr, rfl, isNew⟩
      rw [step] at member
      rcases self.processRTPPacket_cases rtppack receivetime with
        ⟨_, nextEq⟩ | ⟨_, _, _, nextEq⟩ | ⟨_, _, nextEq⟩
      · rw [nextEq] at member
        have cases := fun sorted => mem_storePacket sorted member
        exact added (cases ordered)
      · rw [nextEq] at member
        have cases := fun sorted => mem_storePacket sorted member
        exact added (cases ordered)
      · rw [nextEq] at member
        exact Or.inl member
  | nextPacket =>
      apply Or.inl
      simp only [step, getNextPacket] at member
      split at member
      · exact member
      · cases queued : self.packetlist with
        | nil =>
            rw [queued] at member
            simp only at member
            rw [queued] at member
            exact member
        | cons first rest =>
            rw [queued] at member
            exact List.mem_cons_of_mem first member
  | flushPackets => exact absurd member List.not_mem_nil
  | sdesItem item text receivetime =>
      obtain ⟨_, _, _, nextEq, _⟩ := self.processSDESItem_frame item text receivetime
      rw [step, nextEq] at member
      exact Or.inl member
  | privateSDESItem pre value receivetime =>
      obtain ⟨_, _, nextEq⟩ := self.processPrivateSDESItem_frame pre value receivetime
      rw [step, nextEq] at member
      exact Or.inl member
  | sentRTPPacket now =>
      simp only [step, sentRTPPacket] at member
      split at member
      · exact Or.inl member
      · exact Or.inl member
  | clearNote =>
      obtain ⟨_, nextEq⟩ := self.setSDES_frame (self.sdesinf.setNonPrivateItem .note [])
      rw [step, clearNote, nextEq] at member
      exact Or.inl member
  | _ => exact Or.inl member

end RTPInternalSourceData

namespace RTPSources

variable {Time Address : Type}

/-! ### Changes of the table -/

/-- What calls the functions of the table: a packet, the session, its timers, or the application
and the builder of RTCP packets, which walk through the sources. -/
inductive Event (Time Address : Type)
  | rtpPacket (rtppack : StoredPacket) (receivetime : Time) (senderaddress : Option Address)
  | rtcpPacket (packets : List RTCPContents) (receivetime : Time) (senderaddress : Option Address)
  | createOwnSSRC (ssrc : Nat)
  | deleteOwnSSRC
  | sentRTPPacket (now : Time)
  | timeout (curtime timeoutdelay : Time)
  | senderTimeout (curtime timeoutdelay : Time)
  | byeTimeout (curtime timeoutdelay : Time)
  | noteTimeout (curtime timeoutdelay : Time)
  | multipleTimeouts (curtime sendertimeout byetimeout generaltimeout notetimeout : Time)
  | nextPacket (ssrc : Nat)
  | flushPackets (ssrc : Nat)
  | processedInRTCP (ssrc : Nat) (done : Bool)
  | newInterval (ssrc : Nat)
  | clearOwnCollisionFlag
  | clear

def Event.senderaddress : Event Time Address → Option Address
  | .rtpPacket _ _ senderaddress | .rtcpPacket _ _ senderaddress => senderaddress
  | _ => none

def replace (self : RTPSources Time Address) (old new : RTPInternalSourceData Time Address) :
    RTPSources Time Address :=
  { self with
    sourcelist := put RTPInternalSourceData.ssrc self.sourcelist new
    sendercount := self.sendercount - old.issender.toInt + new.issender.toInt
    activecount := self.activecount - old.isActive.toInt + new.isActive.toInt }

def insertNew (self : RTPSources Time Address) (srcdat : RTPInternalSourceData Time Address) :
    RTPSources Time Address :=
  { self with
    sourcelist := self.sourcelist ++ [srcdat]
    totalcount := self.totalcount + 1 }

def ownNew (ssrc : Nat) (probationtype : ProbationType) (zero : Time) :
    RTPInternalSourceData Time Address :=
  { (RTPInternalSourceData.new ssrc probationtype zero).setOwnSSRC with
    isrtpaddrset := true, isrtcpaddrset := true }

theorem ssrc_of_found {self : RTPSources Time Address} {ssrc : Nat}
    {srcdat : RTPInternalSourceData Time Address} (found : self.getSourceInfo ssrc = some srcdat) :
    srcdat.ssrc = ssrc :=
  (mem_of_find found).2

theorem mem_of_found {self : RTPSources Time Address} {ssrc : Nat}
    {srcdat : RTPInternalSourceData Time Address} (found : self.getSourceInfo ssrc = some srcdat) :
    srcdat ∈ self.sourcelist :=
  (mem_of_find found).1

theorem getSourceInfo_store {self : RTPSources Time Address}
    {old new : RTPInternalSourceData Time Address} {ssrc : Nat}
    (found : self.getSourceInfo ssrc = some old) (same : new.ssrc = old.ssrc) :
    (self.store new).getSourceInfo ssrc = some new := by
  have newIs : new.ssrc = ssrc := same.trans (ssrc_of_found found)
  rw [← newIs] at found ⊢
  exact find_put_self found

theorem replace_of_sameFlags {self : RTPSources Time Address}
    {old new : RTPInternalSourceData Time Address} (same : old.SameFlags new) :
    self.replace old new = self.store new := by
  unfold replace store
  rw [same.issender, same.isActive, Int.sub_add_cancel, Int.sub_add_cancel]

theorem raised_count (count : Int) {old new : Bool} (rises : old = true → new = true) :
    (if !old && new then count + 1 else count) = count - old.toInt + new.toInt := by
  cases old with
  | false =>
      cases new with
      | false => exact (Int.sub_add_cancel count 0).symm
      | true =>
          change count + 1 = count - 0 + 1
          rw [Int.sub_zero]
  | true =>
      rw [rises rfl]
      exact (Int.sub_add_cancel count 1).symm

theorem lowered_count (count : Int) {old new : Bool} (falls : new = true → old = true) :
    (if old && !new then count - 1 else count) = count - old.toInt + new.toInt := by
  cases new with
  | false =>
      cases old with
      | false => exact (Int.sub_add_cancel count 0).symm
      | true => exact (Int.add_zero (count - 1)).symm
  | true =>
      rw [falls rfl]
      exact (Int.sub_add_cancel count 1).symm

/-- The counting of the functions agrees with the counts of the sources. -/
theorem counted_of_rises (self : RTPSources Time Address)
    {old new : RTPInternalSourceData Time Address} (rises : old.Rises new) :
    ((self.store new).countSender old new).countActive old new = self.replace old new := by
  unfold countActive countSender store replace
  rw [raised_count _ rises.issender, raised_count _ rises.isActive]

theorem countActive_of_rises (self : RTPSources Time Address)
    {old new : RTPInternalSourceData Time Address} (rises : old.Rises new)
    (sender : new.issender = old.issender) :
    (self.store new).countActive old new = self.replace old new := by
  unfold countActive store replace
  rw [raised_count _ rises.isActive, sender, Int.sub_add_cancel]

theorem countSender_of_rises (self : RTPSources Time Address)
    {old new : RTPInternalSourceData Time Address} (rises : old.Rises new)
    (active : new.isActive = old.isActive) :
    (self.store new).countSender old new = self.replace old new := by
  unfold countSender store replace
  rw [raised_count _ rises.issender, active, Int.sub_add_cancel]

theorem countInactive_of_falls (self : RTPSources Time Address)
    {old new : RTPInternalSourceData Time Address}
    (falls : new.isActive = true → old.isActive = true) (sender : new.issender = old.issender) :
    (self.store new).countInactive old new = self.replace old new := by
  unfold countInactive store replace
  rw [lowered_count _ falls, sender, Int.sub_add_cancel]

theorem getSourceInfo_insertNew {self : RTPSources Time Address} {ssrc : Nat}
    {srcdat : RTPInternalSourceData Time Address} (isNew : self.getSourceInfo ssrc = none)
    (itself : srcdat.ssrc = ssrc) : (self.insertNew srcdat).getSourceInfo ssrc = some srcdat := by
  rw [← itself] at isNew ⊢
  exact find_append_new isNew

section Change

variable [RTPAddress Address]

def Matches : Option Address → Option Address → Prop
  | none, senderaddress => senderaddress = none
  | some address, senderaddress => isSameAddress address senderaddress = true

def SameHost : Option Address → Option Address → Prop
  | none, senderaddress => senderaddress = none
  | some address, senderaddress => isFromSameHost address senderaddress = true

def Harmless : RTPInternalSourceData.Event Time Address → Prop
  | .nextPacket | .sdesItem _ _ _ | .privateSDESItem _ _ _ | .message _ | .sentRTPPacket _
  | .flushPackets | .processedInRTCP _ | .newInterval => True
  | _ => False

inductive Allows (self : RTPSources Time Address) (cause : Event Time Address)
    (old : RTPInternalSourceData Time Address) : RTPInternalSourceData.Event Time Address → Prop
  | harmless {event : RTPInternalSourceData.Event Time Address} (harmless : Harmless event) :
      Allows self cause old event
  | bye (reason : List UInt8) (receivetime : Time) (other : self.owndata ≠ some old.ssrc) :
      Allows self cause old (.bye reason receivetime)
  | rtpAddress {senderaddress : Option Address} (unset : old.isrtpaddrset = false)
      (sameHost : old.isrtcpaddrset = true → SameHost old.rtcpaddr senderaddress) :
      Allows self cause old (.rtpAddress senderaddress)
  | rtcpAddress {senderaddress : Option Address} (unset : old.isrtcpaddrset = false)
      (sameHost : old.isrtpaddrset = true → SameHost old.rtpaddr senderaddress) :
      Allows self cause old (.rtcpAddress senderaddress)
  | csrc : Allows self cause old .csrc
  | rtpPacket {rtppack : StoredPacket} {receivetime : Time} {senderaddress : Option Address}
      (isCause : cause = .rtpPacket rtppack receivetime senderaddress)
      (named : rtppack.members.ssrc = old.ssrc) (isset : old.isrtpaddrset = true)
      (fits : Matches old.rtpaddr senderaddress) :
      Allows self cause old (.rtpPacket rtppack receivetime)

structure Examines (state : RTPSources Time Address)
    (examine : RTPInternalSourceData Time Address → Option (Kept Time Address)) : Prop where
  counts : ∀ srcdat kept, examine srcdat = some kept →
    kept.issender = kept.srcdat.issender ∧ kept.isactive = kept.srcdat.isActive
  keeps : ∀ srcdat kept, examine srcdat = some kept →
    ∃ events, kept.srcdat = srcdat.after events ∧
      ∀ event, event ∈ events → event = .clearNote ∨ event = .clearSenderFlag
  own : ∀ srcdat, state.owndata = some srcdat.ssrc → examine srcdat ≠ none

theorem matches_self (address : Option Address) : Matches address address := by
  cases address with
  | none => rfl
  | some address => exact RTPAddress.isSameAddress_self address

theorem compareAddresses_cases {isset otherisset : Bool}
    {addr otheraddr senderaddress : Option Address}
    {srcdat stored next : RTPInternalSourceData Time Address}
    (agreed : compareAddresses isset addr otherisset otheraddr senderaddress srcdat stored =
      some next) :
    (next = srcdat ∧ isset = true ∧ Matches addr senderaddress) ∨
      (next = stored ∧ isset = false ∧
        (otherisset = true → SameHost otheraddr senderaddress)) := by
  unfold compareAddresses at agreed
  cases isset with
  | true =>
      apply Or.inl
      rw [Bool.not_true, if_neg Bool.false_ne_true] at agreed
      cases addr with
      | none =>
          cases senderaddress with
          | some address => cases agreed
          | none => exact ⟨(Option.some.inj agreed).symm, rfl, rfl⟩
      | some address =>
          simp only at agreed
          split at agreed
          · cases agreed
          · rename_i same
            rw [Bool.not_eq_true', Bool.not_eq_false] at same
            exact ⟨(Option.some.inj agreed).symm, rfl, same⟩
  | false =>
      apply Or.inr
      rw [Bool.not_false, if_pos rfl] at agreed
      cases otherisset with
      | false => exact ⟨(Option.some.inj agreed).symm, rfl, fun impossible => (by cases impossible)⟩
      | true =>
          rw [if_pos rfl] at agreed
          cases otheraddr with
          | none =>
              cases senderaddress with
              | some address => cases agreed
              | none => exact ⟨(Option.some.inj agreed).symm, rfl, fun _ => rfl⟩
          | some other =>
              simp only at agreed
              split at agreed
              · cases agreed
              · rename_i same
                rw [Bool.not_eq_true', Bool.not_eq_false] at same
                exact ⟨(Option.some.inj agreed).symm, rfl, fun _ => same⟩

theorem checkCollision_cases {srcdat next : RTPInternalSourceData Time Address}
    {senderaddress : Option Address} {isrtp : Bool}
    (agreed : checkCollision srcdat senderaddress isrtp = some next)
    (self : RTPSources Time Address) (cause : Event Time Address) :
    (next = srcdat ∨ ∃ event, next = srcdat.step event ∧ self.Allows cause srcdat event ∧
        event.Uncounted) ∧
      (isrtp = true → next.isrtpaddrset = true ∧ Matches next.rtpaddr senderaddress) := by
  unfold checkCollision at agreed
  cases isrtp with
  | true =>
      rcases compareAddresses_cases agreed with ⟨rfl, isset, fits⟩ | ⟨rfl, unset, sameHost⟩
      · exact ⟨Or.inl rfl, fun _ => ⟨isset, fits⟩⟩
      · refine ⟨Or.inr ⟨.rtpAddress senderaddress, rfl, ?_, trivial⟩, fun _ => ?_⟩
        · exact .rtpAddress unset sameHost
        · exact ⟨rfl, matches_self senderaddress⟩
  | false =>
      rcases compareAddresses_cases agreed with ⟨rfl, isset, fits⟩ | ⟨rfl, unset, sameHost⟩
      · exact ⟨Or.inl rfl, fun impossible => (by cases impossible)⟩
      · refine ⟨Or.inr ⟨.rtcpAddress senderaddress, rfl, ?_, trivial⟩, fun impossible =>
          (by cases impossible)⟩
        exact .rtcpAddress unset sameHost

variable [Zero Time]

inductive Change (cause : Event Time Address) (self : RTPSources Time Address) :
    RTPSources Time Address → Prop
  | created {ssrc : Nat} (isNew : self.getSourceInfo ssrc = none) :
      Change cause self (self.insertNew (RTPInternalSourceData.new ssrc self.probationtype 0))
  | modified {old : RTPInternalSourceData Time Address}
      {event : RTPInternalSourceData.Event Time Address}
      (found : self.getSourceInfo old.ssrc = some old) (allowed : self.Allows cause old event) :
      Change cause self (self.replace old (old.step event))
  | collided {old : RTPInternalSourceData Time Address} {isrtp : Bool}
      (found : self.getSourceInfo old.ssrc = some old) (own : old.ownssrc = true)
      (clash : checkCollision old cause.senderaddress isrtp = none) :
      Change cause self { self with owncollision := true }
  | flagCleared : Change cause self self.clearOwnCollisionFlag
  | owned {ssrc : Nat} (without : self.owndata = none) (isNew : self.getSourceInfo ssrc = none) :
      Change cause self
        { self.insertNew (ownNew ssrc self.probationtype 0) with
          owndata := some ssrc, activecount := self.activecount + 1 }
  | disowned {owndata : RTPInternalSourceData Time Address} (own : self.ownSource = some owndata) :
      Change cause self self.deleteOwnSSRC.1

/-- A change, or what does not go by the counts: a known source that a packet lists as a
contributing source becomes active without being counted, and a loop counts all sources anew. -/
inductive Move (cause : Event Time Address) (self : RTPSources Time Address) :
    RTPSources Time Address → Prop
  | change {next : RTPSources Time Address} (changed : Change cause self next) :
      Move cause self next
  | promoted {old : RTPInternalSourceData Time Address}
      (found : self.getSourceInfo old.ssrc = some old) : Move cause self (self.store old.setCSRC)
  | recounted {examine : RTPInternalSourceData Time Address → Option (Kept Time Address)}
      (examines : self.Examines examine) : Move cause self (self.recount examine)
  | cleared : Move cause self self.clear

def Changes (cause : Event Time Address) :
    RTPSources Time Address → RTPSources Time Address → Prop :=
  Relation.ReflTransGen (Change cause)

def Moves (cause : Event Time Address) :
    RTPSources Time Address → RTPSources Time Address → Prop :=
  Relation.ReflTransGen (Move cause)

theorem Changes.moves {cause : Event Time Address} {self next : RTPSources Time Address}
    (changes : Changes cause self next) : Moves cause self next := by
  induction changes with
  | refl => exact .refl
  | tail _ change ih => exact ih.tail (.change change)

theorem Moves.invariant {cause : Event Time Address} {self next : RTPSources Time Address}
    (moves : Moves cause self next) {property : RTPSources Time Address → Prop}
    (holds : property self)
    (preserved : ∀ before after, property before → Move cause before after → property after) :
    property next := by
  induction moves with
  | refl => exact holds
  | tail _ move ih => exact preserved _ _ ih move

theorem Changes.invariant {cause : Event Time Address} {self next : RTPSources Time Address}
    (changes : Changes cause self next) {property : RTPSources Time Address → Prop}
    (holds : property self)
    (preserved : ∀ before after, property before → Change cause before after → property after) :
    property next := by
  induction changes with
  | refl => exact holds
  | tail _ change ih => exact preserved _ _ ih change

/-! ### Each function is a sequence of changes -/

/-- One event of a source that is in the table. -/
theorem change_of_event {self : RTPSources Time Address} {cause : Event Time Address}
    {ssrc : Nat} {old : RTPInternalSourceData Time Address}
    (found : self.getSourceInfo ssrc = some old)
    {event : RTPInternalSourceData.Event Time Address} (allowed : self.Allows cause old event)
    {next : RTPSources Time Address} (nextEq : next = self.replace old (old.step event)) :
    Changes cause self next := by
  rw [nextEq]
  apply Relation.ReflTransGen.single
  rw [← ssrc_of_found found] at found
  exact Change.modified found allowed

theorem changes_store {self : RTPSources Time Address} {cause : Event Time Address}
    {ssrc : Nat} {old : RTPInternalSourceData Time Address}
    (found : self.getSourceInfo ssrc = some old)
    {event : RTPInternalSourceData.Event Time Address} (allowed : self.Allows cause old event)
    (uncounted : event.Uncounted) : Changes cause self (self.store (old.step event)) :=
  change_of_event found allowed (replace_of_sameFlags (old.sameFlags_step uncounted)).symm

omit [RTPAddress Address] in
theorem obtain_of_none {self : RTPSources Time Address} {ssrc : Nat}
    (isNew : self.getSourceInfo ssrc = none) :
    self.obtainSourceDataInstance ssrc =
      { sources := self.insertNew (RTPInternalSourceData.new ssrc self.probationtype 0)
        srcdat := RTPInternalSourceData.new ssrc self.probationtype 0
        created := true } := by
  rw [obtainSourceDataInstance, isNew]
  rfl

omit [RTPAddress Address] in
theorem obtain_of_found {self : RTPSources Time Address} {ssrc : Nat}
    {srcdat : RTPInternalSourceData Time Address} (found : self.getSourceInfo ssrc = some srcdat) :
    self.obtainSourceDataInstance ssrc =
      { sources := self, srcdat := srcdat, created := false } := by
  rw [obtainSourceDataInstance, found]

theorem changes_collision {self : RTPSources Time Address} {cause : Event Time Address}
    {ssrc : Nat} {srcdat : RTPInternalSourceData Time Address}
    (found : self.getSourceInfo ssrc = some srcdat) {isrtp : Bool}
    (clash : checkCollision srcdat cause.senderaddress isrtp = none) :
    Changes cause self (self.onSSRCCollision srcdat) := by
  unfold onSSRCCollision
  cases own : srcdat.ownssrc with
  | false => exact .refl
  | true =>
      rw [← ssrc_of_found found] at found
      exact .single (.collided found own clash)

theorem changes_checked {self : RTPSources Time Address} (cause : Event Time Address)
    {ssrc : Nat} {srcdat next : RTPInternalSourceData Time Address}
    (found : self.getSourceInfo ssrc = some srcdat) {senderaddress : Option Address}
    {isrtp : Bool} (agreed : checkCollision srcdat senderaddress isrtp = some next) :
    Changes cause self (self.store next) ∧ next.ssrc = srcdat.ssrc := by
  rcases (checkCollision_cases agreed self cause).1 with rfl | ⟨event, rfl, allowed, uncounted⟩
  · refine ⟨?_, rfl⟩
    exact changes_store found
      (.harmless (by trivial : Harmless (.processedInRTCP next.processedinrtcp))) trivial
  · exact ⟨changes_store found allowed uncounted, srcdat.ssrc_step event⟩

/-- The source that a packet speaks for is in the table and bound to the sender. -/
theorem identify_changes (self : RTPSources Time Address) {cause : Event Time Address}
    {senderaddress : Option Address} (sent : cause.senderaddress = senderaddress) (ssrc : Nat)
    (isrtp : Bool) :
    Changes cause self (self.identify ssrc senderaddress isrtp).1 ∧
      ∀ srcdat, (self.identify ssrc senderaddress isrtp).2 = some srcdat →
        (self.identify ssrc senderaddress isrtp).1.getSourceInfo ssrc = some srcdat ∧
          (isrtp = true → srcdat.isrtpaddrset = true ∧ Matches srcdat.rtpaddr senderaddress) := by
  unfold identify
  cases found : self.getSourceInfo ssrc with
  | none =>
      rw [obtain_of_none found, if_pos rfl]
      have created : Change cause self _ := .created found
      have itself := getSourceInfo_insertNew found
        (rfl : (RTPInternalSourceData.new ssrc self.probationtype 0 :
          RTPInternalSourceData Time Address).ssrc = ssrc)
      cases isrtp with
      | true =>
          refine ⟨?_, ?_⟩
          · refine .head created (changes_store itself (.rtpAddress rfl ?_) trivial)
            exact fun impossible => by cases impossible
          · intro srcdat srcdatEq
            cases srcdatEq
            exact ⟨getSourceInfo_store itself rfl, fun _ => ⟨rfl, matches_self senderaddress⟩⟩
      | false =>
          refine ⟨?_, ?_⟩
          · refine .head created (changes_store itself (.rtcpAddress rfl ?_) trivial)
            exact fun impossible => by cases impossible
          · intro srcdat srcdatEq
            cases srcdatEq
            exact ⟨getSourceInfo_store itself rfl, fun impossible => (by cases impossible)⟩
  | some srcdat =>
      rw [obtain_of_found found, if_neg Bool.false_ne_true]
      cases agreed : checkCollision srcdat senderaddress isrtp with
      | none =>
          rw [← sent] at agreed
          exact ⟨changes_collision found agreed, fun _ impossible => (by cases impossible)⟩
      | some next =>
          obtain ⟨changes, same⟩ := changes_checked cause found agreed
          refine ⟨changes, ?_⟩
          intro srcdat' srcdatEq
          cases srcdatEq
          exact ⟨getSourceInfo_store found same, (checkCollision_cases agreed self cause).2⟩

end Change

end RTPSources

end DShowCapture.Jrtplib
