/-
The three counters of the table of participants.

The number of members and the number of senders are always right.  The number of active members
falls behind by the sources that were known, inactive and then listed as contributing sources
by a packet: they become active without being counted, until the next loop over all sources.
-/
import DShowCapture.Jrtplib.SourceSteps

namespace DShowCapture.Jrtplib

open KeyedTable

namespace RTPSources

variable {Time Address : Type}

structure Counted (state : RTPSources Time Address) (uncounted : Nat) : Prop where
  distinct : Distinct RTPInternalSourceData.ssrc state.sourcelist
  total : state.totalcount = state.sourcelist.length
  senders : state.sendercount = state.sourcelist.countP RTPInternalSourceData.issender
  active : state.activecount + uncounted = state.sourcelist.countP RTPInternalSourceData.isActive

theorem counted_new (probationtype : ProbationType) :
    (new probationtype : RTPSources Time Address).Counted 0 :=
  { distinct := List.nodup_nil, total := rfl, senders := rfl, active := rfl }

theorem toInt_eq (flag : Bool) : flag.toInt = ((if flag then 1 else 0 : Nat) : Int) := by
  cases flag with
  | false => rfl
  | true => rfl

theorem counted_replace {self : RTPSources Time Address} {uncounted : Nat}
    (counted : self.Counted uncounted) {old new : RTPInternalSourceData Time Address}
    (member : old ∈ self.sourcelist) (same : new.ssrc = old.ssrc) :
    (self.replace old new).Counted uncounted := by
  have senders := countP_put counted.distinct member same RTPInternalSourceData.issender
  have active := countP_put counted.distinct member same RTPInternalSourceData.isActive
  have senderCount := counted.senders
  have activeCount := counted.active
  refine { distinct := distinct_put counted.distinct new, total := ?_, senders := ?_, active := ?_ }
  · change self.totalcount = _
    rw [replace, length_put]
    exact counted.total
  · change self.sendercount - old.issender.toInt + new.issender.toInt = _
    rw [toInt_eq, toInt_eq]
    change _ = ((put RTPInternalSourceData.ssrc self.sourcelist new).countP _ : Int)
    omega
  · change self.activecount - old.isActive.toInt + new.isActive.toInt + uncounted = _
    rw [toInt_eq, toInt_eq]
    change _ = ((put RTPInternalSourceData.ssrc self.sourcelist new).countP _ : Int)
    omega

theorem countP_concat (entries : List (RTPInternalSourceData Time Address))
    (entry : RTPInternalSourceData Time Address)
    (counted : RTPInternalSourceData Time Address → Bool) :
    (entries ++ [entry]).countP counted =
      entries.countP counted + (if counted entry then 1 else 0) := by
  rw [List.countP_append, List.countP_singleton]

theorem counted_insertNew {self : RTPSources Time Address} {uncounted : Nat}
    (counted : self.Counted uncounted) (srcdat : RTPInternalSourceData Time Address)
    (isNew : self.getSourceInfo srcdat.ssrc = none) (silent : srcdat.issender = false) :
    ({ self.insertNew srcdat with
      activecount := self.activecount + srcdat.isActive.toInt } :
        RTPSources Time Address).Counted uncounted := by
  have total := counted.total
  have senders := counted.senders
  have active := counted.active
  refine
    { distinct := distinct_append counted.distinct isNew, total := ?_, senders := ?_, active := ?_ }
  · change self.totalcount + 1 = ((self.sourcelist ++ [srcdat]).length : Int)
    rw [List.length_append, List.length_singleton]
    omega
  · change self.sendercount = ((self.sourcelist ++ [srcdat]).countP _ : Int)
    rw [countP_concat, silent, if_neg Bool.false_ne_true]
    exact senders
  · change self.activecount + srcdat.isActive.toInt + uncounted =
      ((self.sourcelist ++ [srcdat]).countP _ : Int)
    rw [countP_concat, toInt_eq]
    omega

theorem counted_deleteOwnSSRC {self : RTPSources Time Address} {uncounted : Nat}
    (counted : self.Counted uncounted) {owndata : RTPInternalSourceData Time Address}
    (own : self.ownSource = some owndata) : self.deleteOwnSSRC.1.Counted uncounted := by
  have member := mem_of_found (mem_of_own own).2
  have length := length_remove counted.distinct member
  have senders := countP_remove counted.distinct member RTPInternalSourceData.issender
  have active := countP_remove counted.distinct member RTPInternalSourceData.isActive
  have totalCount := counted.total
  have senderCount := counted.senders
  have activeCount := counted.active
  rw [deleteOwnSSRC, own]
  refine
    { distinct := distinct_filter counted.distinct _, total := ?_, senders := ?_, active := ?_ }
  · change self.totalcount - 1 =
      ((remove RTPInternalSourceData.ssrc self.sourcelist owndata.ssrc).length : Int)
    omega
  · change (if owndata.issender then self.sendercount - 1 else self.sendercount) =
      ((remove RTPInternalSourceData.ssrc self.sourcelist owndata.ssrc).countP _ : Int)
    cases sender : owndata.issender with
    | false =>
        rw [sender, if_neg Bool.false_ne_true] at senders
        rw [if_neg Bool.false_ne_true]
        omega
    | true =>
        rw [sender, if_pos rfl] at senders
        rw [if_pos rfl]
        omega
  · change (if owndata.isActive then self.activecount - 1 else self.activecount) + uncounted =
      ((remove RTPInternalSourceData.ssrc self.sourcelist owndata.ssrc).countP _ : Int)
    cases isActive : owndata.isActive with
    | false =>
        rw [isActive, if_neg Bool.false_ne_true] at active
        rw [if_neg Bool.false_ne_true]
        omega
    | true =>
        rw [isActive, if_pos rfl] at active
        rw [if_pos rfl]
        omega

theorem counted_setCSRC {self : RTPSources Time Address} {uncounted : Nat}
    (counted : self.Counted uncounted) {old : RTPInternalSourceData Time Address}
    (member : old ∈ self.sourcelist) :
    (self.store old.setCSRC).Counted
      (uncounted + if !old.isActive && !old.receivedbye then 1 else 0) := by
  have senders := countP_put counted.distinct member (rfl : old.setCSRC.ssrc = old.ssrc)
    RTPInternalSourceData.issender
  have active := countP_put counted.distinct member (rfl : old.setCSRC.ssrc = old.ssrc)
    RTPInternalSourceData.isActive
  have senderCount := counted.senders
  have activeCount := counted.active
  have senderEq : old.setCSRC.issender = old.issender := rfl
  have nextActive : (if old.setCSRC.isActive then 1 else 0 : Nat) =
      (if old.isActive then 1 else 0) + if !old.isActive && !old.receivedbye then 1 else 0 := by
    have activeEq : old.setCSRC.isActive = !old.receivedbye := by
      change (if old.receivedbye then false else true) = _
      cases old.receivedbye with
      | false => rfl
      | true => rfl
    have heldBack : old.isActive = true → old.receivedbye = false := fun isActive =>
      (old.isActive_iff.mp isActive).2
    rw [activeEq]
    cases received : old.receivedbye with
    | true =>
        cases isActive : old.isActive with
        | true =>
            rw [heldBack isActive] at received
            cases received
        | false => rfl
    | false =>
        cases old.isActive with
        | true => rfl
        | false => rfl
  rw [senderEq] at senders
  rw [nextActive] at active
  refine { distinct := distinct_put counted.distinct _, total := ?_, senders := ?_, active := ?_ }
  · change self.totalcount = _
    rw [store, length_put]
    exact counted.total
  · change self.sendercount = ((put RTPInternalSourceData.ssrc self.sourcelist _).countP _ : Int)
    omega
  · change self.activecount + _ =
      ((put RTPInternalSourceData.ssrc self.sourcelist _).countP _ : Int)
    omega

section Steps

variable [RTPAddress Address] [Zero Time]

theorem counted_change {cause : Event Time Address} {self next : RTPSources Time Address}
    {uncounted : Nat} (counted : self.Counted uncounted) (change : Change cause self next) :
    next.Counted uncounted := by
  cases change with
  | created isNew =>
      have inserted := counted_insertNew counted
        (RTPInternalSourceData.new _ self.probationtype 0) isNew rfl
      change Counted { insertNew self _ with activecount := self.activecount + 0 } _ at inserted
      rw [Int.add_zero] at inserted
      exact inserted
  | modified found allowed =>
      exact counted_replace counted (mem_of_found found) (RTPInternalSourceData.ssrc_step _ _)
  | collided found own => exact { counted with }
  | flagCleared => exact { counted with }
  | owned without isNew =>
      have inserted := counted_insertNew counted (ownNew _ self.probationtype 0) isNew rfl
      exact { inserted with }
  | disowned own => exact counted_deleteOwnSSRC counted own

theorem counted_changes {cause : Event Time Address} {self next : RTPSources Time Address}
    {uncounted : Nat} (counted : self.Counted uncounted) (changes : Changes cause self next) :
    next.Counted uncounted :=
  changes.invariant counted fun _ _ holds change => counted_change holds change

/-! ### Contributing sources that are not counted -/

def promotes (self : RTPSources Time Address) (senderaddress : Option Address) (csrc : Nat) :
    Bool :=
  match self.getSourceInfo csrc with
  | none => false
  | some csrcdat =>
      (checkCollision csrcdat senderaddress true).isSome && !csrcdat.isActive &&
        !csrcdat.receivedbye

def promotions (senderaddress : Option Address) : RTPSources Time Address → List Nat → Nat
  | _, [] => 0
  | self, csrc :: rest =>
      (if self.promotes senderaddress csrc then 1 else 0) +
        promotions senderaddress (processCSRC senderaddress self csrc) rest

theorem counted_processCSRC {self : RTPSources Time Address} {uncounted : Nat}
    (counted : self.Counted uncounted) (senderaddress : Option Address) (csrc : Nat) :
    (processCSRC senderaddress self csrc).Counted
      (uncounted + if self.promotes senderaddress csrc then 1 else 0) := by
  unfold promotes
  cases found : self.getSourceInfo csrc with
  | none => exact counted_changes counted (changes_processCSRC_new found .clear senderaddress)
  | some csrcdat =>
      rcases processCSRC_known found senderaddress with
        ⟨agreed, nextEq⟩ | ⟨next, agreed, nextEq, itself⟩
      · have collision : Changes (.rtcpPacket [] 0 senderaddress) self _ :=
          changes_collision found agreed
        rw [nextEq]
        simp only [agreed]
        exact counted_changes counted collision
      · obtain ⟨changes, _⟩ := changes_checked .clear found agreed
        have flags : csrcdat.SameFlags next := by
          rcases (checkCollision_cases agreed self .clear).1 with
            rfl | ⟨event, rfl, _, uncountedEvent⟩
          · exact ⟨rfl, rfl, rfl⟩
          · exact csrcdat.sameFlags_step uncountedEvent
        have promoted := counted_setCSRC (counted_changes counted changes) (mem_of_found itself)
        rw [flags.isActive, flags.receivedbye] at promoted
        rw [nextEq]
        simp only [agreed]
        exact promoted

theorem counted_processCSRCs {self : RTPSources Time Address} {uncounted : Nat}
    (counted : self.Counted uncounted) (senderaddress : Option Address) (listed : List Nat) :
    (listed.foldl (processCSRC senderaddress) self).Counted
      (uncounted + promotions senderaddress self listed) := by
  induction listed generalizing self uncounted with
  | nil => exact counted
  | cons csrc rest ih =>
      have first := counted_processCSRC counted senderaddress csrc
      rw [List.foldl_cons, promotions, ← Nat.add_assoc]
      exact ih first

/-! ### Counting anew -/

omit [RTPAddress Address] [Zero Time] in
theorem foldl_add (sourcelist : List (RTPInternalSourceData Time Address))
    {examine : RTPInternalSourceData Time Address → Option (Kept Time Address)}
    (counts : ∀ srcdat kept, examine srcdat = some kept →
      kept.issender = kept.srcdat.issender ∧ kept.isactive = kept.srcdat.isActive)
    (start : Recount Time Address) :
    let kept := sourcelist.filterMap fun srcdat => (examine srcdat).map Kept.srcdat
    sourcelist.foldl (fun counted srcdat => counted.add (examine srcdat)) start =
      { sourcelist := start.sourcelist ++ kept
        newtotalcount := start.newtotalcount + kept.length
        newsendercount := start.newsendercount + kept.countP RTPInternalSourceData.issender
        newactivecount := start.newactivecount + kept.countP RTPInternalSourceData.isActive } := by
  induction sourcelist generalizing start with
  | nil =>
      simp only [List.foldl_nil, List.filterMap_nil, List.append_nil, List.length_nil,
        List.countP_nil, Int.add_zero, Nat.cast_zero]
  | cons srcdat rest ih =>
      intro kept
      rw [List.foldl_cons, ih]
      cases examined : examine srcdat with
      | none =>
          have keptEq : kept = rest.filterMap fun srcdat => (examine srcdat).map Kept.srcdat :=
            List.filterMap_cons_none (by rw [examined]; rfl)
          rw [keptEq]
          rfl
      | some result =>
          obtain ⟨senderEq, activeEq⟩ := counts srcdat result examined
          have keptEq : kept = result.srcdat ::
              rest.filterMap fun srcdat => (examine srcdat).map Kept.srcdat :=
            List.filterMap_cons_some (by rw [examined]; rfl)
          rw [keptEq, Recount.add, List.length_cons, List.countP_cons, List.countP_cons, senderEq,
            activeEq, List.append_assoc, List.singleton_append]
          congr 1
          · push_cast
            omega
          · cases result.srcdat.issender with
            | false => simp only [Bool.false_eq_true, if_false, Nat.add_zero]
            | true =>
                simp only [if_true]
                push_cast
                omega
          · cases result.srcdat.isActive with
            | false => simp only [Bool.false_eq_true, if_false, Nat.add_zero]
            | true =>
                simp only [if_true]
                push_cast
                omega

omit [RTPAddress Address] [Zero Time] in
theorem recount_eq (self : RTPSources Time Address)
    {examine : RTPInternalSourceData Time Address → Option (Kept Time Address)}
    (examines : self.Examines examine) :
    let kept := self.sourcelist.filterMap fun srcdat => (examine srcdat).map Kept.srcdat
    self.recount examine =
      { self with
        sourcelist := kept
        totalcount := kept.length
        sendercount := kept.countP RTPInternalSourceData.issender
        activecount := kept.countP RTPInternalSourceData.isActive } := by
  intro kept
  unfold recount
  simp only [foldl_add self.sourcelist examines.counts, List.nil_append, Int.zero_add]
  rfl

omit [RTPAddress Address] [Zero Time] in
theorem ssrc_of_examines {self : RTPSources Time Address}
    {examine : RTPInternalSourceData Time Address → Option (Kept Time Address)}
    (examines : self.Examines examine) {srcdat : RTPInternalSourceData Time Address}
    {kept : Kept Time Address} (isKept : examine srcdat = some kept) :
    kept.srcdat.ssrc = srcdat.ssrc := by
  obtain ⟨events, keptEq, _⟩ := examines.keeps srcdat kept isKept
  rw [keptEq]
  exact srcdat.ssrc_after events

omit [RTPAddress Address] [Zero Time] in
theorem sublist_kept {self : RTPSources Time Address}
    {examine : RTPInternalSourceData Time Address → Option (Kept Time Address)}
    (examines : self.Examines examine) (sourcelist : List (RTPInternalSourceData Time Address)) :
    ((sourcelist.filterMap fun srcdat => (examine srcdat).map Kept.srcdat).map
      RTPInternalSourceData.ssrc).Sublist (sourcelist.map RTPInternalSourceData.ssrc) := by
  induction sourcelist with
  | nil => exact List.Sublist.refl []
  | cons srcdat rest ih =>
      cases examined : examine srcdat with
      | none =>
          rw [List.filterMap_cons_none (by rw [examined]; rfl), List.map_cons]
          exact ih.cons srcdat.ssrc
      | some kept =>
          rw [List.filterMap_cons_some (by rw [examined]; rfl), List.map_cons, List.map_cons,
            ssrc_of_examines examines examined]
          exact ih.cons_cons srcdat.ssrc

omit [RTPAddress Address] [Zero Time] in
theorem counted_recount {self : RTPSources Time Address}
    (distinct : Distinct RTPInternalSourceData.ssrc self.sourcelist)
    {examine : RTPInternalSourceData Time Address → Option (Kept Time Address)}
    (examines : self.Examines examine) : (self.recount examine).Counted 0 := by
  rw [recount_eq self examines]
  exact
    { distinct := distinct.sublist (sublist_kept examines self.sourcelist)
      total := rfl
      senders := rfl
      active := Int.add_zero _ }

/-! ### Whole runs -/

variable [LT Time] [DecidableLT Time] [Sub Time]

/-- The sources that an event makes active without counting them. -/
def promotedBy (self : RTPSources Time Address) : Event Time Address → Nat
  | .rtpPacket rtppack receivetime senderaddress =>
      promotions senderaddress (self.beforeCSRCs rtppack receivetime senderaddress)
        (self.listedCSRCs rtppack receivetime senderaddress)
  | _ => 0

def uncountedStep (self : RTPSources Time Address) (uncounted : Nat)
    (event : Event Time Address) : Nat :=
  if event.recounts then 0 else uncounted + self.promotedBy event

/-- The number of active members that are not counted at the end of a run. -/
def uncountedAfter (uncounted : Nat) : RTPSources Time Address → List (Event Time Address) → Nat
  | _, [] => uncounted
  | self, event :: rest =>
      uncountedAfter (self.uncountedStep uncounted event) (self.step event) rest

theorem counted_step {self : RTPSources Time Address} {uncounted : Nat}
    (counted : self.Counted uncounted) (event : Event Time Address) :
    (self.step event).Counted (self.uncountedStep uncounted event) := by
  unfold uncountedStep
  by_cases recounts : event.recounts = true
  · rw [if_pos recounts]
    rcases self.recount_step recounts with nextEq | ⟨examine, examines, nextEq⟩
    · rw [nextEq]
      exact { distinct := List.nodup_nil, total := rfl, senders := rfl, active := rfl }
    · rw [nextEq]
      exact counted_recount counted.distinct examines
  · rw [if_neg recounts]
    rw [Bool.not_eq_true] at recounts
    cases event with
    | rtpPacket rtppack receivetime senderaddress =>
        have before := counted_changes counted
          (self.changes_beforeCSRCs rtppack receivetime senderaddress)
        rw [step, perform, processRTPPacket_eq]
        exact counted_processCSRCs before senderaddress _
    | _ => exact counted_changes counted (self.changes_step rfl recounts)

theorem counted_after {self : RTPSources Time Address} {uncounted : Nat}
    (counted : self.Counted uncounted) (events : List (Event Time Address)) :
    (self.after events).Counted (uncountedAfter uncounted self events) := by
  induction events generalizing self uncounted with
  | nil => exact counted
  | cons event rest ih => exact ih (counted_step counted event)

/-- In every run the counters of members and senders are right, and that of active members lacks
those that contributing sources became since the last loop over all sources. -/
theorem counts_after (probationtype : ProbationType) (events : List (Event Time Address)) :
    let final := (new probationtype : RTPSources Time Address).after events
    (final.sourcelist.map RTPInternalSourceData.ssrc).Nodup ∧
      final.totalcount = final.sourcelist.length ∧
      final.sendercount = final.sourcelist.countP RTPInternalSourceData.issender ∧
      final.activecount =
        final.sourcelist.countP RTPInternalSourceData.isActive -
          uncountedAfter 0 (new probationtype) events := by
  intro final
  have counted := counted_after (counted_new probationtype) events
  refine ⟨counted.distinct, counted.total, counted.senders, ?_⟩
  have active : final.activecount + uncountedAfter 0 (new probationtype) events =
      (final.sourcelist.countP RTPInternalSourceData.isActive : Int) := counted.active
  omega

/-- The receiver 9 is listed by a packet of the mixer 7 and says BYE: the mixer is no longer
counted. -/
example :
    let mixer : RTPIPv4Address := { ip := 1, port := 5000 }
    let packet : StoredPacket :=
      { members := { (RTPInternalSourceData.barePacket 5).members with numcsrcs := 1 }
        packet := fun position => if position = 15 then 9 else 0 }
    let events : List (Event Nat RTPIPv4Address) :=
      [.rtcpPacket [.rr 9 []] 1 (some mixer), .rtpPacket packet 2 (some mixer),
        .rtcpPacket [.bye [9] []] 3 (some mixer)]
    let final := (new .noProbation).after events
    final.activecount = 0 ∧ final.sourcelist.countP RTPInternalSourceData.isActive = 1 := by
  decide

/-! ### One pass instead of four -/

omit [RTPAddress Address] [Zero Time] in
/-- `MultipleTimeouts` is `NoteTimeout`, `BYETimeout`, `Timeout` and `SenderTimeout`. -/
theorem multipleTimeouts_eq (self : RTPSources Time Address)
    (curtime sendertimeout byetimeout generaltimeout notetimeout : Time) :
    self.multipleTimeouts curtime sendertimeout byetimeout generaltimeout notetimeout =
      (((self.noteTimeout curtime notetimeout).byeTimeout curtime byetimeout).timeout curtime
        generaltimeout).senderTimeout curtime sendertimeout := by
  unfold multipleTimeouts senderTimeout timeout byeTimeout noteTimeout
  rw [recount_eq _ (self.examines_all _ _ _ _), recount_eq _ (examines_sender _ _),
    recount_eq _ (examines_message _ _), recount_eq _ (examines_bye _ _),
    recount_eq _ (self.examines_note _)]
  have keptEq : (self.sourcelist.filterMap fun srcdat =>
        (self.examineAll (curtime - sendertimeout) (curtime - byetimeout)
          (curtime - generaltimeout) (curtime - notetimeout) srcdat).map Kept.srcdat) =
      ((((self.sourcelist.filterMap fun srcdat =>
          (keep (expireNote (curtime - notetimeout) srcdat)).map Kept.srcdat).filterMap
            fun srcdat => (self.examineBYE (curtime - byetimeout) srcdat).map Kept.srcdat).filterMap
            fun srcdat =>
              (self.examineMessage (curtime - generaltimeout) srcdat).map Kept.srcdat).filterMap
            fun srcdat => (examineSender (curtime - sendertimeout) srcdat).map Kept.srcdat) := by
    rw [List.filterMap_filterMap, List.filterMap_filterMap, List.filterMap_filterMap]
    apply List.filterMap_congr
    intro srcdat _
    rw [examineAll_eq]
    change _ = ((self.examineBYE _ (expireNote _ srcdat)).map Kept.srcdat).bind _
    cases self.examineBYE (curtime - byetimeout) (expireNote (curtime - notetimeout) srcdat) with
    | none => rfl
    | some heard =>
        change ((self.examineMessage _ heard.srcdat).bind _).map Kept.srcdat =
          ((self.examineMessage _ heard.srcdat).map Kept.srcdat).bind _
        cases self.examineMessage (curtime - generaltimeout) heard.srcdat with
        | none => rfl
        | some alive => rfl
  rw [keptEq]
  rfl

end Steps

end RTPSources

end DShowCapture.Jrtplib
