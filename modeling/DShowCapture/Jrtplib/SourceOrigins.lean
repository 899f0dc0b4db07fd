/-
Where the packets of a source come from.

A source is bound to the address of the first packet that speaks for it, and to one address of
the same host for each kind of packets.  Whatever waits at a source has come from the address
that the source is bound to; a packet of somebody else with the same number collides.
-/
import DShowCapture.Jrtplib.SourceCounts

namespace DShowCapture.Jrtplib

open KeyedTable

namespace RTPSources

variable {Time Address : Type} [RTPAddress Address]

/-! ### One source -/

structure CameFrom (history : List (Event Time Address))
    (srcdat : RTPInternalSourceData Time Address) (stored : StoredPacket) : Prop where
  isset : srcdat.isrtpaddrset = true
  packet : ∃ rtppack receivetime senderaddress extseqnr,
    Event.rtpPacket rtppack receivetime senderaddress ∈ history ∧
      stored = rtppack.setExtendedSequenceNumber extseqnr ∧
      rtppack.members.ssrc = srcdat.ssrc ∧ Matches srcdat.rtpaddr senderaddress

structure Bound (history : List (Event Time Address))
    (srcdat : RTPInternalSourceData Time Address) : Prop where
  wellformed : srcdat.Wellformed
  packets : ∀ stored, stored ∈ srcdat.packetlist → CameFrom history srcdat stored
  hosts : srcdat.isrtpaddrset = true → srcdat.isrtcpaddrset = true →
    SameHost srcdat.rtcpaddr srcdat.rtpaddr ∨ SameHost srcdat.rtpaddr srcdat.rtcpaddr

theorem bound_new (history : List (Event Time Address)) (ssrc : Nat)
    (probationtype : ProbationType) (zero : Time) :
    Bound history (RTPInternalSourceData.new ssrc probationtype zero) :=
  { wellformed := RTPInternalSourceData.wellformed_new ssrc probationtype zero
    packets := fun _ absent => absurd absent List.not_mem_nil
    hosts := fun impossible => by cases impossible }

theorem bound_ownNew (history : List (Event Time Address)) (ssrc : Nat)
    (probationtype : ProbationType) (zero : Time) :
    Bound history (ownNew ssrc probationtype zero : RTPInternalSourceData Time Address) := by
  have wellformed := RTPInternalSourceData.wellformed_step
    (RTPInternalSourceData.wellformed_new ssrc probationtype zero :
      (RTPInternalSourceData.new ssrc probationtype zero :
        RTPInternalSourceData Time Address).Wellformed) .ownSSRC
  exact
    { wellformed := { wellformed with }
      packets := fun _ absent => absurd absent List.not_mem_nil
      hosts := fun _ _ => Or.inl rfl }

theorem CameFrom.of_sameOwner {history : List (Event Time Address)}
    {old new : RTPInternalSourceData Time Address} {stored : StoredPacket}
    (came : CameFrom history old stored) (same : old.SameOwner new) :
    CameFrom history new stored := by
  obtain ⟨rtppack, receivetime, senderaddress, extseqnr, member, storedEq, named, fits⟩ :=
    came.packet
  refine { isset := same.isrtpaddrset.trans came.isset, packet := ?_ }
  refine ⟨rtppack, receivetime, senderaddress, extseqnr, member, storedEq,
    named.trans same.ssrc.symm, ?_⟩
  rw [same.rtpaddr]
  exact fits

theorem bound_quiet {history : List (Event Time Address)}
    {old : RTPInternalSourceData Time Address} (bound : Bound history old)
    {event : RTPInternalSourceData.Event Time Address} (claimsNot : ¬ event.Claims)
    (noPacket : event.number = none) : Bound history (old.step event) := by
  have same := old.sameOwner_step claimsNot
  refine
    { wellformed := RTPInternalSourceData.wellformed_step bound.wellformed event
      packets := ?_, hosts := ?_ }
  · intro stored member
    rcases RTPInternalSourceData.mem_packetlist_step bound.wellformed.ordered member with
      waiting | ⟨rtppack, receivetime, extseqnr, rfl, _⟩
    · exact (bound.packets stored waiting).of_sameOwner same
    · cases noPacket
  · rw [same.isrtpaddrset, same.isrtcpaddrset, same.rtpaddr, same.rtcpaddr]
    exact bound.hosts

theorem bound_step {history : List (Event Time Address)}
    {old : RTPInternalSourceData Time Address} (bound : Bound history old)
    {self : RTPSources Time Address} {cause : Event Time Address}
    {event : RTPInternalSourceData.Event Time Address} (allowed : self.Allows cause old event)
    (isCause : cause ∈ history) : Bound history (old.step event) := by
  have wellformed := RTPInternalSourceData.wellformed_step bound.wellformed event
  cases allowed with
  | harmless harmless =>
      have quiet : ¬ event.Claims ∧ event.number = none := by
        cases event <;> first | exact harmless.elim | exact ⟨id, rfl⟩
      exact bound_quiet bound quiet.1 quiet.2
  | bye reason receivetime other => exact bound_quiet bound id rfl
  | csrc => exact bound_quiet bound id rfl
  | rtpAddress unset sameHost =>
      refine { wellformed := wellformed, packets := ?_, hosts := ?_ }
      · intro stored member
        have isset := (bound.packets stored member).isset
        rw [unset] at isset
        cases isset
      · exact fun _ isrtcpset => Or.inl (sameHost isrtcpset)
  | rtcpAddress unset sameHost =>
      refine { wellformed := wellformed, packets := ?_, hosts := ?_ }
      · intro stored member
        exact { bound.packets stored member with }
      · exact fun isrtpset _ => Or.inr (sameHost isrtpset)
  | rtpPacket causeEq named isset fits =>
      rename_i rtppack receivetime senderaddress
      have same := old.sameOwner_step
        (id : ¬ (RTPInternalSourceData.Event.rtpPacket rtppack receivetime :
          RTPInternalSourceData.Event Time Address).Claims)
      refine { wellformed := wellformed, packets := ?_, hosts := ?_ }
      · intro stored member
        rcases RTPInternalSourceData.mem_packetlist_step bound.wellformed.ordered member with
          waiting | ⟨other, time, extseqnr, eventEq, storedEq⟩
        · exact (bound.packets stored waiting).of_sameOwner same
        · cases eventEq
          rw [causeEq] at isCause
          have came : CameFrom history old stored :=
            { isset := isset
              packet :=
                ⟨rtppack, receivetime, senderaddress, extseqnr, isCause, storedEq, named, fits⟩ }
          exact came.of_sameOwner same
      · rw [same.isrtpaddrset, same.isrtcpaddrset, same.rtpaddr, same.rtcpaddr]
        exact bound.hosts

theorem bound_kept {history : List (Event Time Address)} {self : RTPSources Time Address}
    {examine : RTPInternalSourceData Time Address → Option (Kept Time Address)}
    (examines : self.Examines examine) {srcdat : RTPInternalSourceData Time Address}
    (bound : Bound history srcdat) {kept : Kept Time Address}
    (isKept : examine srcdat = some kept) : Bound history kept.srcdat := by
  obtain ⟨events, keptEq, quiet⟩ := examines.keeps srcdat kept isKept
  rw [keptEq]
  clear keptEq isKept
  induction events generalizing srcdat with
  | nil => exact bound
  | cons event rest ih =>
      have first : Bound history (srcdat.step event) := by
        rcases quiet event List.mem_cons_self with rfl | rfl
        · exact bound_quiet bound id rfl
        · exact bound_quiet bound id rfl
      exact ih first fun later member => quiet later (List.mem_cons_of_mem event member)

/-! ### The table -/

/-- Our own source is the one that `owndata` points to, and no address is known for it. -/
structure Owned (state : RTPSources Time Address) : Prop where
  own : ∀ srcdat, srcdat ∈ state.sourcelist →
    (srcdat.ownssrc = true ↔ state.owndata = some srcdat.ssrc)
  present : ∀ ssrc, state.owndata = some ssrc → (state.getSourceInfo ssrc).isSome = true
  addresses : ∀ srcdat, srcdat ∈ state.sourcelist → srcdat.ownssrc = true →
    (srcdat.isrtpaddrset = true ∧ srcdat.rtpaddr = none) ∧
      srcdat.isrtcpaddrset = true ∧ srcdat.rtcpaddr = none

structure Sound (history : List (Event Time Address)) (state : RTPSources Time Address) : Prop where
  bound : ∀ srcdat, srcdat ∈ state.sourcelist → Bound history srcdat
  owned : state.Owned

omit [RTPAddress Address] in
theorem getSourceInfo_isSome_iff {self : RTPSources Time Address} {ssrc : Nat} :
    (self.getSourceInfo ssrc).isSome = true ↔
      ∃ srcdat, srcdat ∈ self.sourcelist ∧ srcdat.ssrc = ssrc := by
  constructor
  · intro isSome
    obtain ⟨srcdat, found⟩ := Option.isSome_iff_exists.mp isSome
    exact ⟨srcdat, mem_of_found found, ssrc_of_found found⟩
  · rintro ⟨srcdat, member, named⟩
    rw [Option.isSome_iff_ne_none]
    exact fun isNew => find_eq_none_iff.mp isNew srcdat member named

omit [RTPAddress Address] in
theorem owned_put {self : RTPSources Time Address} (owned : self.Owned)
    {old : RTPInternalSourceData Time Address} (member : old ∈ self.sourcelist)
    (new : RTPInternalSourceData Time Address) (same : new.ssrc = old.ssrc)
    (sameOwn : new.ownssrc = old.ownssrc)
    (addresses : new.ownssrc = true → (new.isrtpaddrset = true ∧ new.rtpaddr = none) ∧
      new.isrtcpaddrset = true ∧ new.rtcpaddr = none)
    {next : RTPSources Time Address}
    (listEq : next.sourcelist = put RTPInternalSourceData.ssrc self.sourcelist new)
    (owndataEq : next.owndata = self.owndata) : next.Owned := by
  refine { own := ?_, present := ?_, addresses := ?_ }
  · intro srcdat isMember
    rw [listEq] at isMember
    rw [owndataEq]
    rcases mem_put isMember with rfl | ⟨earlier, _⟩
    · rw [sameOwn, same]
      exact owned.own old member
    · exact owned.own srcdat earlier
  · intro ssrc isOwn
    rw [owndataEq] at isOwn
    obtain ⟨srcdat, isMember, named⟩ := getSourceInfo_isSome_iff.mp (owned.present ssrc isOwn)
    rw [getSourceInfo_isSome_iff, listEq]
    by_cases isOld : srcdat.ssrc = new.ssrc
    · exact ⟨new, mem_put_self isMember isOld, isOld.symm.trans named⟩
    · exact ⟨srcdat, mem_put_of_ne isMember isOld, named⟩
  · intro srcdat isMember
    rw [listEq] at isMember
    rcases mem_put isMember with rfl | ⟨earlier, _⟩
    · exact addresses
    · exact owned.addresses srcdat earlier

/-- What may happen to a source makes it neither ours nor somebody else's. -/
theorem owner_step {self : RTPSources Time Address} (owned : self.Owned)
    {old : RTPInternalSourceData Time Address} (member : old ∈ self.sourcelist)
    {cause : Event Time Address} {event : RTPInternalSourceData.Event Time Address}
    (allowed : self.Allows cause old event) :
    (old.step event).ownssrc = old.ownssrc ∧
      ((old.step event).ownssrc = true →
        ((old.step event).isrtpaddrset = true ∧ (old.step event).rtpaddr = none) ∧
          (old.step event).isrtcpaddrset = true ∧ (old.step event).rtcpaddr = none) := by
  have quiet (claimsNot : ¬ event.Claims) :
      (old.step event).ownssrc = old.ownssrc ∧
        ((old.step event).ownssrc = true →
          ((old.step event).isrtpaddrset = true ∧ (old.step event).rtpaddr = none) ∧
            (old.step event).isrtcpaddrset = true ∧ (old.step event).rtcpaddr = none) := by
    have same := old.sameOwner_step claimsNot
    rw [same.ownssrc, same.isrtpaddrset, same.isrtcpaddrset, same.rtpaddr, same.rtcpaddr]
    exact ⟨rfl, owned.addresses old member⟩
  cases allowed with
  | harmless harmless =>
      apply quiet
      cases event <;> first | exact harmless.elim | exact id
  | bye reason receivetime other => exact quiet id
  | csrc => exact quiet id
  | rtpPacket causeEq named isset fits => exact quiet id
  | rtpAddress unset sameHost =>
      refine ⟨rfl, fun own => ?_⟩
      have isset := (owned.addresses old member own).1.1
      rw [unset] at isset
      cases isset
  | rtcpAddress unset sameHost =>
      refine ⟨rfl, fun own => ?_⟩
      have isset := (owned.addresses old member own).2.1
      rw [unset] at isset
      cases isset

theorem sound_new (history : List (Event Time Address)) (probationtype : ProbationType) :
    Sound history (new probationtype) :=
  { bound := fun _ absent => absurd absent List.not_mem_nil
    owned :=
      { own := fun _ absent => absurd absent List.not_mem_nil
        present := fun _ impossible => by cases impossible
        addresses := fun _ absent => absurd absent List.not_mem_nil } }

section Runs

variable [Zero Time]

theorem sound_change {history : List (Event Time Address)} {self next : RTPSources Time Address}
    (sound : Sound history self) {cause : Event Time Address} (isCause : cause ∈ history)
    (change : Change cause self next) : Sound history next := by
  cases change with
  | created isNew =>
      rename_i ssrc
      refine { bound := ?_, owned := { own := ?_, present := ?_, addresses := ?_ } }
      · intro srcdat member
        rcases List.mem_append.mp member with earlier | added
        · exact sound.bound srcdat earlier
        · rw [List.mem_singleton.mp added]
          exact bound_new history ssrc _ 0
      · intro srcdat member
        rcases List.mem_append.mp member with earlier | added
        · exact sound.owned.own srcdat earlier
        · rw [List.mem_singleton.mp added]
          refine iff_of_false Bool.false_ne_true fun isOwn => ?_
          have present := sound.owned.present ssrc isOwn
          rw [isNew] at present
          cases present
      · intro other isOwn
        obtain ⟨srcdat, member, named⟩ :=
          getSourceInfo_isSome_iff.mp (sound.owned.present other isOwn)
        exact getSourceInfo_isSome_iff.mpr ⟨srcdat, List.mem_append_left _ member, named⟩
      · intro srcdat member
        rcases List.mem_append.mp member with earlier | added
        · exact sound.owned.addresses srcdat earlier
        · rw [List.mem_singleton.mp added]
          exact fun impossible => by cases impossible
  | modified found allowed =>
      rename_i old event
      have member := mem_of_found found
      obtain ⟨sameOwn, addresses⟩ := owner_step sound.owned member allowed
      refine { bound := ?_, owned := ?_ }
      · intro srcdat isMember
        rcases mem_put isMember with rfl | ⟨earlier, _⟩
        · exact bound_step (sound.bound old member) allowed isCause
        · exact sound.bound srcdat earlier
      · exact owned_put sound.owned member _ (old.ssrc_step event) sameOwn addresses rfl rfl
  | collided found own clash => exact { bound := sound.bound, owned := { sound.owned with } }
  | flagCleared => exact { bound := sound.bound, owned := { sound.owned with } }
  | owned without isNew =>
      rename_i ssrc
      have absent := find_eq_none_iff.mp isNew
      refine { bound := ?_, owned := { own := ?_, present := ?_, addresses := ?_ } }
      · intro srcdat member
        rcases List.mem_append.mp member with earlier | added
        · exact sound.bound srcdat earlier
        · rw [List.mem_singleton.mp added]
          exact bound_ownNew history ssrc _ 0
      · intro srcdat member
        rcases List.mem_append.mp member with earlier | added
        · have notOwn := (sound.owned.own srcdat earlier).not.mpr (by
            rw [without]
            exact fun impossible => by cases impossible)
          refine iff_of_false notOwn fun same => ?_
          exact absent srcdat earlier (Option.some.inj same).symm
        · rw [List.mem_singleton.mp added]
          exact iff_of_true rfl rfl
      · intro other isOwn
        cases isOwn
        exact getSourceInfo_isSome_iff.mpr
          ⟨ownNew ssrc self.probationtype 0, List.mem_append_right _ (List.mem_singleton_self _),
            rfl⟩
      · intro srcdat member
        rcases List.mem_append.mp member with earlier | added
        · exact sound.owned.addresses srcdat earlier
        · rw [List.mem_singleton.mp added]
          exact fun _ => ⟨⟨rfl, rfl⟩, rfl, rfl⟩
  | disowned own =>
      rename_i owndata
      obtain ⟨isOwn, _⟩ := mem_of_own own
      rw [deleteOwnSSRC, own]
      refine { bound := ?_, owned := { own := ?_, present := ?_, addresses := ?_ } }
      · intro srcdat member
        exact sound.bound srcdat (mem_remove_iff.mp member).1
      · intro srcdat member
        obtain ⟨earlier, other⟩ := mem_remove_iff.mp member
        refine iff_of_false ?_ fun impossible => (by cases impossible)
        rw [sound.owned.own srcdat earlier, isOwn]
        exact fun same => other (Option.some.inj same).symm
      · exact fun ssrc impossible => by cases impossible
      · intro srcdat member
        exact sound.owned.addresses srcdat (mem_remove_iff.mp member).1

omit [Zero Time] in
theorem sound_recount {history : List (Event Time Address)} {self : RTPSources Time Address}
    (sound : Sound history self)
    {examine : RTPInternalSourceData Time Address → Option (Kept Time Address)}
    (examines : self.Examines examine) : Sound history (self.recount examine) := by
  rw [recount_eq self examines]
  have origin {srcdat : RTPInternalSourceData Time Address}
      (member : srcdat ∈ self.sourcelist.filterMap fun srcdat =>
        (examine srcdat).map Kept.srcdat) :
      ∃ old kept, old ∈ self.sourcelist ∧ examine old = some kept ∧ kept.srcdat = srcdat := by
    obtain ⟨old, oldMember, mapped⟩ := List.mem_filterMap.mp member
    obtain ⟨kept, isKept, keptEq⟩ := Option.map_eq_some_iff.mp mapped
    exact ⟨old, kept, oldMember, isKept, keptEq⟩
  have sameOwner {old : RTPInternalSourceData Time Address} {kept : Kept Time Address}
      (isKept : examine old = some kept) : old.SameOwner kept.srcdat := by
    obtain ⟨events, keptEq, quiet⟩ := examines.keeps old kept isKept
    rw [keptEq]
    clear keptEq isKept
    induction events generalizing old with
    | nil => exact ⟨rfl, rfl, rfl, rfl, rfl, rfl⟩
    | cons event rest ih =>
        have first : old.SameOwner (old.step event) := by
          rcases quiet event List.mem_cons_self with rfl | rfl
          · exact old.sameOwner_step id
          · exact old.sameOwner_step id
        have later : (old.step event).SameOwner ((old.step event).after rest) :=
          ih fun other member => quiet other (List.mem_cons_of_mem event member)
        exact
          { ssrc := later.ssrc.trans first.ssrc
            ownssrc := later.ownssrc.trans first.ownssrc
            isrtpaddrset := later.isrtpaddrset.trans first.isrtpaddrset
            isrtcpaddrset := later.isrtcpaddrset.trans first.isrtcpaddrset
            rtpaddr := later.rtpaddr.trans first.rtpaddr
            rtcpaddr := later.rtcpaddr.trans first.rtcpaddr }
  refine { bound := ?_, owned := { own := ?_, present := ?_, addresses := ?_ } }
  · intro srcdat member
    obtain ⟨old, kept, oldMember, isKept, rfl⟩ := origin member
    exact bound_kept examines (sound.bound old oldMember) isKept
  · intro srcdat member
    obtain ⟨old, kept, oldMember, isKept, rfl⟩ := origin member
    rw [(sameOwner isKept).ownssrc, (sameOwner isKept).ssrc]
    exact sound.owned.own old oldMember
  · intro ssrc isOwn
    obtain ⟨old, oldMember, named⟩ :=
      getSourceInfo_isSome_iff.mp (sound.owned.present ssrc isOwn)
    have stays : examine old ≠ none := by
      apply examines.own
      rw [named]
      exact isOwn
    obtain ⟨kept, isKept⟩ := Option.ne_none_iff_exists'.mp stays
    apply getSourceInfo_isSome_iff.mpr
    refine ⟨kept.srcdat, List.mem_filterMap.mpr ⟨old, oldMember, ?_⟩, ?_⟩
    · rw [isKept]
      rfl
    · exact (sameOwner isKept).ssrc.trans named
  · intro srcdat member
    obtain ⟨old, kept, oldMember, isKept, rfl⟩ := origin member
    have same := sameOwner isKept
    rw [same.ownssrc, same.isrtpaddrset, same.isrtcpaddrset, same.rtpaddr, same.rtcpaddr]
    exact sound.owned.addresses old oldMember

theorem sound_move {history : List (Event Time Address)} {self next : RTPSources Time Address}
    (sound : Sound history self) {cause : Event Time Address} (isCause : cause ∈ history)
    (move : Move cause self next) : Sound history next := by
  cases move with
  | change changed => exact sound_change sound isCause changed
  | promoted found =>
      rename_i old
      have member := mem_of_found found
      refine { bound := ?_, owned := ?_ }
      · intro srcdat isMember
        rcases mem_put isMember with rfl | ⟨earlier, _⟩
        · exact bound_step (sound.bound old member) (.csrc : self.Allows cause old .csrc) isCause
        · exact sound.bound srcdat earlier
      · exact owned_put sound.owned member old.setCSRC rfl rfl
          (sound.owned.addresses old member) rfl rfl
  | recounted examines => exact sound_recount sound examines
  | cleared =>
      exact
        { bound := fun _ absent => absurd absent List.not_mem_nil
          owned :=
            { own := fun _ absent => absurd absent List.not_mem_nil
              present := fun _ impossible => by cases impossible
              addresses := fun _ absent => absurd absent List.not_mem_nil } }

variable [LT Time] [DecidableLT Time] [Sub Time]

theorem sound_step {history : List (Event Time Address)} {self : RTPSources Time Address}
    (sound : Sound history self) {event : Event Time Address} (isCause : event ∈ history) :
    Sound history (self.step event) :=
  (self.moves_step event).invariant sound fun _ _ holds move => sound_move holds isCause move

theorem sound_after {history : List (Event Time Address)} {self : RTPSources Time Address}
    (sound : Sound history self) {events : List (Event Time Address)}
    (isPart : ∀ event, event ∈ events → event ∈ history) : Sound history (self.after events) := by
  induction events generalizing self with
  | nil => exact sound
  | cons event rest ih =>
      exact ih (sound_step sound (isPart event List.mem_cons_self)) fun other member =>
        isPart other (List.mem_cons_of_mem event member)

/-- What a source hands out has come under its number from the address that it is bound to, which
is on the host that its RTCP packets come from. -/
theorem nextPacket_came_from (probationtype : ProbationType) (events : List (Event Time Address))
    (ssrc : Nat) (stored : StoredPacket)
    (handedOut : (((new probationtype).after events).getNextPacket ssrc).1 = some stored) :
    ∃ srcdat rtppack receivetime senderaddress extseqnr,
      ((new probationtype).after events).getSourceInfo ssrc = some srcdat ∧
        Event.rtpPacket rtppack receivetime senderaddress ∈ events ∧
        stored = rtppack.setExtendedSequenceNumber extseqnr ∧ rtppack.members.ssrc = ssrc ∧
        Matches srcdat.rtpaddr senderaddress ∧
        (srcdat.isrtcpaddrset = true →
          SameHost srcdat.rtcpaddr srcdat.rtpaddr ∨ SameHost srcdat.rtpaddr srcdat.rtcpaddr) := by
  have sound := sound_after (sound_new events probationtype) fun _ member => member
  unfold getNextPacket at handedOut
  cases found : ((new probationtype).after events).getSourceInfo ssrc with
  | none =>
      rw [found] at handedOut
      cases handedOut
  | some srcdat =>
      rw [found] at handedOut
      have member : stored ∈ srcdat.packetlist := by
        change srcdat.getNextPacket.1 = some stored at handedOut
        unfold RTPInternalSourceData.getNextPacket at handedOut
        split at handedOut
        · cases handedOut
        · cases queued : srcdat.packetlist with
          | nil =>
              rw [queued] at handedOut
              cases handedOut
          | cons first rest =>
              rw [queued] at handedOut
              cases handedOut
              exact List.mem_cons_self
      have bound := sound.bound srcdat (mem_of_found found)
      have came := bound.packets stored member
      obtain ⟨rtppack, receivetime, senderaddress, extseqnr, isEvent, storedEq, named, fits⟩ :=
        came.packet
      exact ⟨srcdat, rtppack, receivetime, senderaddress, extseqnr, rfl, isEvent, storedEq,
        named.trans (ssrc_of_found found), fits, bound.hosts came.isset⟩

/-- A packet of somebody else under the number of the source is not handed out. -/
theorem nextPacket_came_from_intruder :
    let honest : RTPIPv4Address := { ip := 1, port := 5000 }
    let intruder : RTPIPv4Address := { ip := 2, port := 5000 }
    let events : List (Event Nat RTPIPv4Address) :=
      [.rtpPacket (RTPInternalSourceData.barePacket 5) 1 (some honest),
        .rtpPacket (RTPInternalSourceData.barePacket 6) 2 (some intruder)]
    let final := (new .noProbation).after events
    (final.sourcelist.map fun srcdat => srcdat.packetlist.length) = [1] ∧
      ∃ srcdat rtppack receivetime senderaddress, final.getSourceInfo 7 = some srcdat ∧
        Event.rtpPacket rtppack receivetime senderaddress ∈ events ∧
        Matches srcdat.rtpaddr senderaddress := by
  intro honest intruder events final
  refine ⟨by decide, ?_⟩
  obtain ⟨srcdat, rtppack, receivetime, senderaddress, _, found, member, _, _, fits, _⟩ :=
    nextPacket_came_from .noProbation events 7
      ((RTPInternalSourceData.barePacket 5).setExtendedSequenceNumber 5) rfl
  exact ⟨srcdat, rtppack, receivetime, senderaddress, found, member, fits⟩

end Runs

end RTPSources

end DShowCapture.Jrtplib
