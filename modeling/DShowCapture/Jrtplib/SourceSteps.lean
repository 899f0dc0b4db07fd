/-
The functions of the table of participants as sequences of changes.
-/
import DShowCapture.Jrtplib.SourceChanges

namespace DShowCapture.Jrtplib

open KeyedTable

namespace RTPSources

variable {Time Address : Type} [RTPAddress Address] [Zero Time]

/-! ### RTP packets -/

theorem changes_processSourcePacket {self : RTPSources Time Address} {cause : Event Time Address}
    {ssrc : Nat} {srcdat : RTPInternalSourceData Time Address}
    (found : self.getSourceInfo ssrc = some srcdat) {rtppack : StoredPacket} {receivetime : Time}
    (allowed : self.Allows cause srcdat (.rtpPacket rtppack receivetime)) :
    Changes cause self (self.processSourcePacket srcdat rtppack receivetime) :=
  change_of_event found allowed
    (self.counted_of_rises (srcdat.rises_rtpPacket rtppack receivetime))

/-- The table once a packet has been processed, before its contributing sources are. -/
def beforeCSRCs (self : RTPSources Time Address) (rtppack : StoredPacket) (receivetime : Time)
    (senderaddress : Option Address) : RTPSources Time Address :=
  match self.identify rtppack.members.ssrc senderaddress true with
  | (sources, none) => sources
  | (sources, some srcdat) => sources.processSourcePacket srcdat rtppack receivetime

/-- The contributing sources that are looked at: those of a packet from a valid source. -/
def listedCSRCs (self : RTPSources Time Address) (rtppack : StoredPacket) (receivetime : Time)
    (senderaddress : Option Address) : List Nat :=
  match self.identify rtppack.members.ssrc senderaddress true with
  | (_, none) => []
  | (_, some srcdat) =>
      if (srcdat.processRTPPacket rtppack receivetime).1.validated then csrcs rtppack else []

theorem processRTPPacket_eq (self : RTPSources Time Address) (rtppack : StoredPacket)
    (receivetime : Time) (senderaddress : Option Address) :
    self.processRTPPacket rtppack receivetime senderaddress =
      (self.listedCSRCs rtppack receivetime senderaddress).foldl (processCSRC senderaddress)
        (self.beforeCSRCs rtppack receivetime senderaddress) := by
  unfold processRTPPacket listedCSRCs beforeCSRCs
  cases self.identify rtppack.members.ssrc senderaddress true with
  | mk sources srcdat =>
      cases srcdat with
      | none => rfl
      | some srcdat =>
          simp only
          split
          · rfl
          · rfl

theorem changes_beforeCSRCs (self : RTPSources Time Address) (rtppack : StoredPacket)
    (receivetime : Time) (senderaddress : Option Address) :
    Changes (.rtpPacket rtppack receivetime senderaddress) self
      (self.beforeCSRCs rtppack receivetime senderaddress) := by
  have sent : (Event.rtpPacket rtppack receivetime senderaddress).senderaddress =
      senderaddress := rfl
  obtain ⟨changes, identified⟩ := self.identify_changes sent rtppack.members.ssrc true
  unfold beforeCSRCs
  cases result : self.identify rtppack.members.ssrc senderaddress true with
  | mk sources srcdat =>
      rw [result] at changes identified
      cases srcdat with
      | none => exact changes
      | some srcdat =>
          obtain ⟨found, bound⟩ := identified srcdat rfl
          obtain ⟨isset, fits⟩ := bound rfl
          exact changes.trans (changes_processSourcePacket found
            (.rtpPacket (rfl : Event.rtpPacket rtppack receivetime senderaddress = _)
              (ssrc_of_found found).symm isset fits))

theorem changes_processCSRC_new {self : RTPSources Time Address} {csrc : Nat}
    (isNew : self.getSourceInfo csrc = none) (cause : Event Time Address)
    (senderaddress : Option Address) :
    Changes cause self (processCSRC senderaddress self csrc) := by
  have itself := getSourceInfo_insertNew isNew
    (rfl : (RTPInternalSourceData.new csrc self.probationtype 0 :
      RTPInternalSourceData Time Address).ssrc = csrc)
  unfold processCSRC
  rw [obtain_of_none isNew, if_pos rfl]
  refine .head (.created isNew) (change_of_event itself .csrc ?_)
  exact countActive_of_rises _
    { issender := fun sender => sender, isActive := fun impossible => by cases impossible } rfl

theorem processCSRC_known {self : RTPSources Time Address} {csrc : Nat}
    {csrcdat : RTPInternalSourceData Time Address} (found : self.getSourceInfo csrc = some csrcdat)
    (senderaddress : Option Address) :
    (checkCollision csrcdat senderaddress true = none ∧
        processCSRC senderaddress self csrc = self.onSSRCCollision csrcdat) ∨
      ∃ next, checkCollision csrcdat senderaddress true = some next ∧
        processCSRC senderaddress self csrc = (self.store next).store next.setCSRC ∧
        (self.store next).getSourceInfo csrc = some next := by
  unfold processCSRC
  rw [obtain_of_found found, if_neg Bool.false_ne_true]
  cases agreed : checkCollision csrcdat senderaddress true with
  | none => exact Or.inl ⟨rfl, rfl⟩
  | some next =>
      obtain ⟨_, same⟩ := changes_checked (.clear : Event Time Address) found agreed
      have once : put RTPInternalSourceData.ssrc
          (put RTPInternalSourceData.ssrc self.sourcelist next) next.setCSRC =
          put RTPInternalSourceData.ssrc self.sourcelist next.setCSRC := put_put self.sourcelist rfl
      refine Or.inr ⟨next, rfl, ?_, getSourceInfo_store found same⟩
      unfold store
      rw [once]

theorem moves_processCSRC (self : RTPSources Time Address) (cause : Event Time Address)
    (csrc : Nat) : Moves cause self (processCSRC cause.senderaddress self csrc) := by
  cases found : self.getSourceInfo csrc with
  | none => exact (changes_processCSRC_new found cause cause.senderaddress).moves
  | some csrcdat =>
      rcases processCSRC_known found cause.senderaddress with
        ⟨clash, nextEq⟩ | ⟨next, agreed, nextEq, itself⟩
      · rw [nextEq]
        exact (changes_collision found clash).moves
      · rw [nextEq]
        obtain ⟨changes, _⟩ := changes_checked cause found agreed
        rw [← ssrc_of_found itself] at itself
        exact changes.moves.tail (.promoted itself)

theorem moves_processCSRCs (self : RTPSources Time Address) (cause : Event Time Address)
    (listed : List Nat) :
    Moves cause self (listed.foldl (processCSRC cause.senderaddress) self) := by
  induction listed generalizing self with
  | nil => exact .refl
  | cons csrc rest ih => exact (self.moves_processCSRC cause csrc).trans (ih _)

theorem moves_processRTPPacket (self : RTPSources Time Address) (rtppack : StoredPacket)
    (receivetime : Time) (senderaddress : Option Address) :
    Moves (.rtpPacket rtppack receivetime senderaddress) self
      (self.processRTPPacket rtppack receivetime senderaddress) := by
  rw [processRTPPacket_eq]
  exact (self.changes_beforeCSRCs rtppack receivetime senderaddress).moves.trans
    (moves_processCSRCs _ (.rtpPacket rtppack receivetime senderaddress) _)

/-! ### RTCP packets -/

variable (cause : Event Time Address)

theorem changes_updateReceiveTime (self : RTPSources Time Address) (ssrc : Nat)
    (receivetime : Time) :
    Changes cause self (self.updateReceiveTime ssrc receivetime cause.senderaddress) := by
  obtain ⟨changes, identified⟩ := self.identify_changes (rfl : cause.senderaddress = _) ssrc false
  unfold updateReceiveTime getRTCPSourceData
  cases result : self.identify ssrc cause.senderaddress false with
  | mk sources srcdat =>
      rw [result] at changes identified
      cases srcdat with
      | none => exact changes
      | some srcdat =>
          obtain ⟨found, _⟩ := identified srcdat rfl
          exact changes.trans (changes_store found
            (.harmless (by trivial : Harmless (.message receivetime))) trivial)

theorem changes_processReports (ownssrc : Option Nat) (receivetime : Time)
    (self : RTPSources Time Address) (senderssrc : Nat) (reports : List RTCPReceiverReport) :
    Changes cause self
      (processReports ownssrc receivetime cause.senderaddress self senderssrc reports) := by
  have each (blocks : List RTCPReceiverReport) (start : RTPSources Time Address) :
      Changes cause start (blocks.foldl (fun sources _ =>
        sources.processRTCPReportBlock senderssrc receivetime cause.senderaddress) start) := by
    induction blocks generalizing start with
    | nil => exact .refl
    | cons block rest ih =>
        exact (changes_updateReceiveTime cause start senderssrc receivetime).trans
          (ih _)
  unfold processReports
  simp only
  split
  · exact changes_updateReceiveTime cause self senderssrc receivetime
  · exact each _ self

theorem changes_processSDESItem (ssrc : Nat) (receivetime : Time)
    (self : RTPSources Time Address) (item : RTCPSDESItem) :
    Changes cause self (processSDESItem ssrc receivetime cause.senderaddress self item).1 := by
  obtain ⟨changes, identified⟩ := self.identify_changes (rfl : cause.senderaddress = _) ssrc false
  unfold processSDESItem
  cases item.itemType with
  | none => exact .refl
  | unknown => exact .refl
  | normal kind =>
      simp only [processSDESNormalItem, getRTCPSourceData]
      cases result : self.identify ssrc cause.senderaddress false with
      | mk sources srcdat =>
          rw [result] at changes identified
          cases srcdat with
          | none => exact changes
          | some srcdat =>
              obtain ⟨found, _⟩ := identified srcdat rfl
              refine changes.trans (change_of_event found
                (.harmless (by trivial : Harmless (.sdesItem kind item.itemdata receivetime))) ?_)
              obtain ⟨rises, senderEq⟩ := srcdat.rises_sdesItem kind item.itemdata receivetime
              exact countActive_of_rises sources rises senderEq
  | priv =>
      simp only [processSDESPrivateItem, getRTCPSourceData]
      cases result : self.identify ssrc cause.senderaddress false with
      | mk sources srcdat =>
          rw [result] at changes identified
          cases srcdat with
          | none => exact changes
          | some srcdat =>
              obtain ⟨found, _⟩ := identified srcdat rfl
              exact changes.trans (changes_store found
                (.harmless (by trivial : Harmless
                  (.privateSDESItem item.privPrefixData item.privValueData receivetime))) trivial)

theorem changes_processAll {Part : Type}
    {process : RTPSources Time Address → Part →
      RTPSources Time Address × Except SourcesError Unit}
    (each : ∀ sources part, Changes cause sources (process sources part).1)
    (self : RTPSources Time Address) (parts : List Part) :
    Changes cause self (processAll process self parts).1 := by
  induction parts generalizing self with
  | nil => exact .refl
  | cons part rest ih =>
      have first := each self part
      rw [processAll]
      cases result : process self part with
      | mk sources status =>
          rw [result] at first
          cases status with
          | error error => exact first
          | ok done => exact first.trans (ih sources)

theorem changes_processSDESChunk (receivetime : Time)
    (self : RTPSources Time Address) (chunk : RTCPSDESChunk) :
    Changes cause self (processSDESChunk receivetime cause.senderaddress self chunk).1 := by
  unfold processSDESChunk
  split
  · exact changes_updateReceiveTime cause self chunk.ssrc receivetime
  · exact changes_processAll cause
      (changes_processSDESItem cause chunk.ssrc receivetime) self chunk.items

theorem changes_processBYE (reason : List UInt8) (receivetime : Time)
    (self : RTPSources Time Address) (ssrc : Nat) :
    Changes cause self (processBYE reason receivetime cause.senderaddress self ssrc) := by
  obtain ⟨changes, identified⟩ := self.identify_changes (rfl : cause.senderaddress = _) ssrc false
  unfold processBYE getRTCPSourceData
  cases result : self.identify ssrc cause.senderaddress false with
  | mk sources srcdat =>
      rw [result] at changes identified
      cases srcdat with
      | none => exact changes
      | some srcdat =>
          obtain ⟨found, _⟩ := identified srcdat rfl
          simp only
          by_cases own : sources.owndata = some srcdat.ssrc
          · rw [if_pos own]
            exact changes
          · rw [if_neg own]
            refine changes.trans (change_of_event found (.bye reason receivetime own) ?_)
            have falls : (srcdat.processBYEPacket reason receivetime).isActive = true →
                srcdat.isActive = true := by
              intro active
              have both := (RTPInternalSourceData.isActive_iff _).mp active
              exact absurd both.2.symm Bool.false_ne_true
            exact countInactive_of_falls sources falls rfl

theorem changes_processRTCPPacket (ownssrc : Option Nat) (receivetime : Time)
    (self : RTPSources Time Address) (packet : RTCPContents) :
    Changes cause self
      (processRTCPPacket ownssrc receivetime cause.senderaddress self packet).1 := by
  cases packet with
  | sr senderssrc info reports =>
      exact (changes_updateReceiveTime cause self senderssrc receivetime).trans
        (changes_processReports cause ownssrc receivetime _ senderssrc reports)
  | rr senderssrc reports =>
      exact changes_processReports cause ownssrc receivetime self senderssrc reports
  | sdes chunks =>
      exact changes_processAll cause (changes_processSDESChunk cause receivetime)
        self chunks
  | bye ssrcs reason =>
      have each (listed : List Nat) (start : RTPSources Time Address) :
          Changes cause start
            (listed.foldl (processBYE reason receivetime cause.senderaddress) start) := by
        induction listed generalizing start with
        | nil => exact .refl
        | cons ssrc rest ih =>
            exact (changes_processBYE cause reason receivetime start ssrc).trans
              (ih _)
      exact each ssrcs self
  | app subtype ssrc name appdata => exact .refl
  | unknownType => exact .refl
  | unknownFormat => exact .refl

theorem changes_processRTCPCompoundPacket (self : RTPSources Time Address)
    (packets : List RTCPContents) (receivetime : Time) :
    Changes cause self (self.processRTCPCompoundPacket packets receivetime cause.senderaddress).1 :=
  changes_processAll cause
    (changes_processRTCPPacket cause self.owndata receivetime) self packets

/-! ### Our own source -/

theorem changes_createOwnSSRC (self : RTPSources Time Address) (ssrc : Nat) :
    Changes cause self (self.createOwnSSRC ssrc).1 := by
  unfold createOwnSSRC
  by_cases without : self.owndata.isSome = true
  · rw [if_pos without]
    exact .refl
  · rw [if_neg without]
    by_cases known : self.gotEntry ssrc = true
    · rw [if_pos known]
      exact .refl
    · rw [Option.not_isSome_iff_eq_none] at without
      have isNew : self.getSourceInfo ssrc = none := Option.not_isSome_iff_eq_none.mp known
      rw [if_neg known, obtain_of_none isNew]
      have put_own : put RTPInternalSourceData.ssrc
          (self.sourcelist ++ [RTPInternalSourceData.new ssrc self.probationtype 0])
          (ownNew ssrc self.probationtype 0) =
          self.sourcelist ++ [ownNew ssrc self.probationtype 0] := put_append_new isNew rfl
      have owned : Change cause self _ := .owned without isNew
      unfold insertNew at owned
      rw [← put_own] at owned
      exact .single owned

omit [RTPAddress Address] [Zero Time] in
theorem mem_of_own {self : RTPSources Time Address}
    {owndata : RTPInternalSourceData Time Address} (own : self.ownSource = some owndata) :
    self.owndata = some owndata.ssrc ∧ self.getSourceInfo owndata.ssrc = some owndata := by
  obtain ⟨ssrc, isOwn, found⟩ := Option.bind_eq_some_iff.mp own
  rw [ssrc_of_found found]
  exact ⟨isOwn, found⟩

theorem changes_deleteOwnSSRC (self : RTPSources Time Address) :
    Changes cause self self.deleteOwnSSRC.1 := by
  cases own : self.ownSource with
  | none =>
      rw [deleteOwnSSRC, own]
      exact .refl
  | some owndata => exact .single (.disowned own)

theorem changes_sentRTPPacket (self : RTPSources Time Address) (now : Time) :
    Changes cause self (self.sentRTPPacket now) := by
  unfold sentRTPPacket
  cases own : self.ownSource with
  | none => exact .refl
  | some owndata =>
      obtain ⟨rises, active⟩ := owndata.rises_sentRTPPacket now
      exact change_of_event (mem_of_own own).2
        (.harmless (by trivial : Harmless (.sentRTPPacket now)))
        (self.countSender_of_rises rises active)

/-! ### The application -/

def visit (self : RTPSources Time Address) (ssrc : Nat)
    (event : RTPInternalSourceData.Event Time Address) : RTPSources Time Address :=
  match self.getSourceInfo ssrc with
  | none => self
  | some srcdat => self.store (srcdat.step event)

theorem changes_visit (self : RTPSources Time Address) (ssrc : Nat)
    {event : RTPInternalSourceData.Event Time Address} (harmless : Harmless event)
    (uncounted : event.Uncounted) : Changes cause self (self.visit ssrc event) := by
  unfold visit
  cases found : self.getSourceInfo ssrc with
  | none => exact .refl
  | some srcdat => exact changes_store found (.harmless harmless) uncounted

omit [RTPAddress Address] [Zero Time] in
theorem getNextPacket_eq_visit (self : RTPSources Time Address) (ssrc : Nat) :
    (self.getNextPacket ssrc).2 = self.visit ssrc .nextPacket := by
  unfold getNextPacket visit
  cases self.getSourceInfo ssrc with
  | none => rfl
  | some srcdat => rfl

/-! ### Timeouts -/

section Timeouts

variable [LT Time] [DecidableLT Time]

omit [RTPAddress Address] [Zero Time] in
theorem expireNote_cases (checktime : Time) (srcdat : RTPInternalSourceData Time Address) :
    expireNote checktime srcdat = srcdat ∨ expireNote checktime srcdat = srcdat.clearNote := by
  unfold expireNote
  split
  · split
    · exact Or.inr rfl
    · exact Or.inl rfl
  · exact Or.inl rfl

omit [RTPAddress Address] [Zero Time] in
theorem expireNote_frame (checktime : Time) (srcdat : RTPInternalSourceData Time Address) :
    ∃ sdesinf, expireNote checktime srcdat = { srcdat with sdesinf := sdesinf } := by
  rcases expireNote_cases checktime srcdat with sameEq | clearedEq
  · exact ⟨srcdat.sdesinf, sameEq⟩
  · obtain ⟨sdesinf, setEq⟩ := srcdat.setSDES_frame
      (srcdat.sdesinf.setNonPrivateItem .note [])
    exact ⟨sdesinf, clearedEq.trans setEq⟩

omit [RTPAddress Address] [Zero Time] in
theorem examines_message (self : RTPSources Time Address) (checktime : Time) :
    self.Examines (self.examineMessage checktime) := by
  have kept {srcdat : RTPInternalSourceData Time Address} {result : Kept Time Address}
      (isKept : self.examineMessage checktime srcdat = some result) :
      result = { srcdat := srcdat, issender := srcdat.issender, isactive := srcdat.isActive } := by
    unfold examineMessage at isKept
    split at isKept
    · cases isKept
    · exact (Option.some.inj isKept).symm
  refine { counts := ?_, keeps := ?_, own := ?_ }
  · intro srcdat result isKept
    rw [kept isKept]
    exact ⟨rfl, rfl⟩
  · intro srcdat result isKept
    rw [kept isKept]
    exact ⟨[], rfl, fun _ absent => absurd absent List.not_mem_nil⟩
  · intro srcdat own
    have isOwn : self.isOwn srcdat = true := decide_eq_true own
    unfold examineMessage keep
    rw [isOwn, if_neg fun both => Bool.false_ne_true both.1]
    exact Option.some_ne_none _

omit [RTPAddress Address] [Zero Time] in
theorem examines_sender (self : RTPSources Time Address) (checktime : Time) :
    self.Examines (examineSender checktime) := by
  have kept {srcdat : RTPInternalSourceData Time Address} {result : Kept Time Address}
      (isKept : examineSender checktime srcdat = some result) :
      result = { srcdat := srcdat.clearSenderFlag, issender := false
                 isactive := srcdat.isActive } ∨
        result = { srcdat := srcdat, issender := srcdat.issender
                   isactive := srcdat.isActive } := by
    unfold examineSender at isKept
    cases sender : srcdat.issender with
    | false =>
        rw [sender] at isKept
        exact Or.inr (Option.some.inj isKept).symm
    | true =>
        rw [sender, if_pos rfl] at isKept
        split at isKept
        · exact Or.inl (Option.some.inj isKept).symm
        · exact Or.inr (Option.some.inj isKept).symm
  refine { counts := ?_, keeps := ?_, own := ?_ }
  · intro srcdat result isKept
    rcases kept isKept with resultEq | resultEq
    · rw [resultEq]
      exact ⟨rfl, rfl⟩
    · rw [resultEq]
      exact ⟨rfl, rfl⟩
  · intro srcdat result isKept
    rcases kept isKept with resultEq | resultEq
    · rw [resultEq]
      exact ⟨[.clearSenderFlag], rfl, fun event member => Or.inr (List.mem_singleton.mp member)⟩
    · rw [resultEq]
      exact ⟨[], rfl, fun _ absent => absurd absent List.not_mem_nil⟩
  · intro srcdat _
    unfold examineSender
    split
    · split
      · exact Option.some_ne_none _
      · exact Option.some_ne_none _
    · exact Option.some_ne_none _

omit [RTPAddress Address] [Zero Time] in
theorem examines_bye (self : RTPSources Time Address) (checktime : Time) :
    self.Examines (self.examineBYE checktime) := by
  have kept {srcdat : RTPInternalSourceData Time Address} {result : Kept Time Address}
      (isKept : self.examineBYE checktime srcdat = some result) :
      result = { srcdat := srcdat, issender := srcdat.issender, isactive := srcdat.isActive } := by
    unfold examineBYE at isKept
    split at isKept
    · split at isKept
      · cases isKept
      · exact (Option.some.inj isKept).symm
    · exact (Option.some.inj isKept).symm
  refine { counts := ?_, keeps := ?_, own := ?_ }
  · intro srcdat result isKept
    rw [kept isKept]
    exact ⟨rfl, rfl⟩
  · intro srcdat result isKept
    rw [kept isKept]
    exact ⟨[], rfl, fun _ absent => absurd absent List.not_mem_nil⟩
  · intro srcdat own
    have isOwn : self.isOwn srcdat = true := decide_eq_true own
    unfold examineBYE keep
    rw [isOwn]
    split
    · rw [if_neg fun both => Bool.false_ne_true both.1]
      exact Option.some_ne_none _
    · exact Option.some_ne_none _

omit [RTPAddress Address] [Zero Time] in
theorem examines_note (self : RTPSources Time Address) (checktime : Time) :
    self.Examines fun srcdat => keep (expireNote checktime srcdat) := by
  refine { counts := ?_, keeps := ?_, own := fun _ _ => Option.some_ne_none _ }
  · intro srcdat result isKept
    rw [← Option.some.inj isKept]
    exact ⟨rfl, rfl⟩
  · intro srcdat result isKept
    rw [← Option.some.inj isKept]
    rcases expireNote_cases checktime srcdat with sameEq | clearedEq
    · exact ⟨[], sameEq, fun _ absent => absurd absent List.not_mem_nil⟩
    · exact ⟨[.clearNote], clearedEq, fun event member => Or.inl (List.mem_singleton.mp member)⟩

omit [RTPAddress Address] [Zero Time] in
theorem examineBYE_eq (self : RTPSources Time Address) (checktime : Time)
    (srcdat : RTPInternalSourceData Time Address) :
    self.examineBYE checktime srcdat =
      if srcdat.receivedbye ∧ !self.isOwn srcdat ∧ srcdat.byetime < checktime then none
      else keep srcdat := by
  unfold examineBYE
  by_cases received : srcdat.receivedbye = true
  · simp only [received, true_and, if_true]
  · rw [if_neg received, if_neg fun all => received all.1]

omit [RTPAddress Address] [Zero Time] [LT Time] [DecidableLT Time] in
theorem bind_of_kept (gone : Prop) [Decidable gone] (srcdat : RTPInternalSourceData Time Address)
    (examine : RTPInternalSourceData Time Address → Option (Kept Time Address)) :
    ((if gone then none else keep srcdat).bind fun kept => examine kept.srcdat) =
      if gone then none else examine srcdat := by
  by_cases isGone : gone
  · rw [if_pos isGone, if_pos isGone]
    rfl
  · rw [if_neg isGone, if_neg isGone]
    rfl

omit [RTPAddress Address] [Zero Time] in
/-- What the loop of `MultipleTimeouts` leaves of a source is what the four examinations leave of
it one after the other. -/
theorem examineAll_eq (self : RTPSources Time Address)
    (senderchecktime byechecktime generaltchecktime notechecktime : Time)
    (srcdat : RTPInternalSourceData Time Address) :
    self.examineAll senderchecktime byechecktime generaltchecktime notechecktime srcdat =
      ((self.examineBYE byechecktime (expireNote notechecktime srcdat)).bind fun kept =>
        (self.examineMessage generaltchecktime kept.srcdat).bind fun kept =>
          examineSender senderchecktime kept.srcdat) := by
  obtain ⟨sdesinf, notedEq⟩ := expireNote_frame notechecktime srcdat
  have senderEq : srcdat.issender = (expireNote notechecktime srcdat).issender := by rw [notedEq]
  have activeEq : srcdat.isActive = (expireNote notechecktime srcdat).isActive := by
    rw [notedEq]
    rfl
  rw [examineBYE_eq, bind_of_kept _ _ fun kept =>
    (self.examineMessage generaltchecktime kept).bind fun kept =>
      examineSender senderchecktime kept.srcdat]
  unfold examineAll examineMessage
  rw [bind_of_kept, senderEq, activeEq]
  rfl

omit [RTPAddress Address] [Zero Time] in
theorem examines_all (self : RTPSources Time Address)
    (senderchecktime byechecktime generaltchecktime notechecktime : Time) :
    self.Examines
      (self.examineAll senderchecktime byechecktime generaltchecktime notechecktime) := by
  have passed {srcdat : RTPInternalSourceData Time Address} {result : Kept Time Address}
      (isKept : self.examineAll senderchecktime byechecktime generaltchecktime notechecktime
        srcdat = some result) :
      examineSender senderchecktime (expireNote notechecktime srcdat) = some result := by
    rw [examineAll_eq] at isKept
    obtain ⟨heard, byeKept, rest⟩ := Option.bind_eq_some_iff.mp isKept
    obtain ⟨alive, messageKept, senderKept⟩ := Option.bind_eq_some_iff.mp rest
    have heardEq : heard.srcdat = expireNote notechecktime srcdat := by
      unfold examineBYE keep at byeKept
      split at byeKept
      · split at byeKept
        · cases byeKept
        · exact congrArg Kept.srcdat (Option.some.inj byeKept).symm
      · exact congrArg Kept.srcdat (Option.some.inj byeKept).symm
    have aliveEq : alive.srcdat = heard.srcdat := by
      unfold examineMessage keep at messageKept
      split at messageKept
      · cases messageKept
      · rw [← Option.some.inj messageKept]
    rw [← heardEq, ← aliveEq]
    exact senderKept
  have sender := self.examines_sender senderchecktime
  refine { counts := ?_, keeps := ?_, own := ?_ }
  · intro srcdat result isKept
    exact sender.counts _ result (passed isKept)
  · intro srcdat result isKept
    obtain ⟨events, resultEq, quiet⟩ := sender.keeps _ result (passed isKept)
    rcases expireNote_cases notechecktime srcdat with sameEq | clearedEq
    · rw [sameEq] at resultEq
      exact ⟨events, resultEq, quiet⟩
    · rw [clearedEq] at resultEq
      refine ⟨.clearNote :: events, resultEq, fun event member => ?_⟩
      rcases List.mem_cons.mp member with first | later
      · exact Or.inl first
      · exact quiet event later
  · intro srcdat own
    have isOwn : self.isOwn (expireNote notechecktime srcdat) = true := by
      obtain ⟨sdesinf, notedEq⟩ := expireNote_frame notechecktime srcdat
      rw [notedEq]
      exact decide_eq_true own
    unfold examineAll
    simp only
    rw [isOwn, if_neg fun all => Bool.false_ne_true all.2.1,
      if_neg fun both => Bool.false_ne_true both.1]
    split
    · split
      · exact Option.some_ne_none _
      · exact Option.some_ne_none _
    · exact Option.some_ne_none _

end Timeouts

/-! ### The steps of the table -/

variable [LT Time] [DecidableLT Time] [Sub Time]

def perform (self : RTPSources Time Address) :
    Event Time Address → RTPSources Time Address × Except SourcesError Unit
  | .rtpPacket rtppack receivetime senderaddress =>
      (self.processRTPPacket rtppack receivetime senderaddress, .ok ())
  | .rtcpPacket packets receivetime senderaddress =>
      self.processRTCPCompoundPacket packets receivetime senderaddress
  | .createOwnSSRC ssrc => self.createOwnSSRC ssrc
  | .deleteOwnSSRC => self.deleteOwnSSRC
  | .sentRTPPacket now => (self.sentRTPPacket now, .ok ())
  | .timeout curtime timeoutdelay => (self.timeout curtime timeoutdelay, .ok ())
  | .senderTimeout curtime timeoutdelay => (self.senderTimeout curtime timeoutdelay, .ok ())
  | .byeTimeout curtime timeoutdelay => (self.byeTimeout curtime timeoutdelay, .ok ())
  | .noteTimeout curtime timeoutdelay => (self.noteTimeout curtime timeoutdelay, .ok ())
  | .multipleTimeouts curtime sendertimeout byetimeout generaltimeout notetimeout =>
      (self.multipleTimeouts curtime sendertimeout byetimeout generaltimeout notetimeout, .ok ())
  | .nextPacket ssrc => ((self.getNextPacket ssrc).2, .ok ())
  | .flushPackets ssrc => (self.visit ssrc .flushPackets, .ok ())
  | .processedInRTCP ssrc done => (self.visit ssrc (.processedInRTCP done), .ok ())
  | .newInterval ssrc => (self.visit ssrc .newInterval, .ok ())
  | .clearOwnCollisionFlag => (self.clearOwnCollisionFlag, .ok ())
  | .clear => (self.clear, .ok ())

def step (self : RTPSources Time Address) (event : Event Time Address) : RTPSources Time Address :=
  (self.perform event).1

def after (self : RTPSources Time Address) (events : List (Event Time Address)) :
    RTPSources Time Address :=
  events.foldl step self

def Event.recounts : Event Time Address → Bool
  | .timeout _ _ | .senderTimeout _ _ | .byeTimeout _ _ | .noteTimeout _ _
  | .multipleTimeouts _ _ _ _ _ | .clear => true
  | _ => false

def Event.isRTPPacket : Event Time Address → Bool
  | .rtpPacket _ _ _ => true
  | _ => false

theorem changes_step (self : RTPSources Time Address) {event : Event Time Address}
    (noPacket : event.isRTPPacket = false) (noRecount : event.recounts = false) :
    Changes event self (self.step event) := by
  cases event with
  | rtcpPacket packets receivetime senderaddress =>
      exact changes_processRTCPCompoundPacket (.rtcpPacket packets receivetime senderaddress) self
        packets receivetime
  | createOwnSSRC ssrc => exact changes_createOwnSSRC _ self ssrc
  | deleteOwnSSRC => exact changes_deleteOwnSSRC _ self
  | sentRTPPacket now => exact changes_sentRTPPacket _ self now
  | nextPacket ssrc =>
      rw [step, perform, getNextPacket_eq_visit]
      exact changes_visit _ self ssrc (by trivial) (by trivial)
  | flushPackets ssrc => exact changes_visit _ self ssrc (by trivial) (by trivial)
  | processedInRTCP ssrc done => exact changes_visit _ self ssrc (by trivial) (by trivial)
  | newInterval ssrc => exact changes_visit _ self ssrc (by trivial) (by trivial)
  | clearOwnCollisionFlag => exact .single .flagCleared
  | rtpPacket rtppack receivetime senderaddress => cases noPacket
  | _ => cases noRecount

theorem recount_step (self : RTPSources Time Address) {event : Event Time Address}
    (recounts : event.recounts = true) :
    self.step event = self.clear ∨
      ∃ examine, self.Examines examine ∧ self.step event = self.recount examine := by
  cases event with
  | timeout curtime timeoutdelay => exact Or.inr ⟨_, self.examines_message _, rfl⟩
  | senderTimeout curtime timeoutdelay => exact Or.inr ⟨_, self.examines_sender _, rfl⟩
  | byeTimeout curtime timeoutdelay => exact Or.inr ⟨_, self.examines_bye _, rfl⟩
  | noteTimeout curtime timeoutdelay => exact Or.inr ⟨_, self.examines_note _, rfl⟩
  | multipleTimeouts curtime sendertimeout byetimeout generaltimeout notetimeout =>
      exact Or.inr ⟨_, self.examines_all _ _ _ _, rfl⟩
  | clear => exact Or.inl rfl
  | _ => cases recounts

theorem moves_step (self : RTPSources Time Address) (event : Event Time Address) :
    Moves event self (self.step event) := by
  by_cases recounts : event.recounts = true
  · rcases self.recount_step recounts with nextEq | ⟨examine, examines, nextEq⟩
    · rw [nextEq]
      exact .single .cleared
    · rw [nextEq]
      exact .single (.recounted examines)
  · rw [Bool.not_eq_true] at recounts
    cases event with
    | rtpPacket rtppack receivetime senderaddress =>
        exact self.moves_processRTPPacket rtppack receivetime senderaddress
    | _ => exact (self.changes_step rfl recounts).moves

/-- A raw packet is nothing to the table, or one of its events. -/
theorem processRawPacket_cases (self : RTPSources Time Address)
    (rawpack : RTPRawPacket Time Address) (comesFromThisTransmitter : Option Address → Bool)
    (acceptownpackets : Bool) :
    self.processRawPacket rawpack comesFromThisTransmitter acceptownpackets = (self, .ok ()) ∨
      ∃ event, self.processRawPacket rawpack comesFromThisTransmitter acceptownpackets =
        self.perform event := by
  unfold processRawPacket
  simp only
  split
  · split
    · exact Or.inl rfl
    · split
      · exact Or.inl rfl
      · exact Or.inr ⟨.rtpPacket _ _ _, rfl⟩
  · split
    · exact Or.inl rfl
    · split
      · exact Or.inl rfl
      · exact Or.inr ⟨.rtcpPacket _ _ _, rfl⟩

end RTPSources

end DShowCapture.Jrtplib
