/-
`RTPSourceStats` of `jrtp/jrtplib/rtpsourcedata.h` and `ProcessPacket` of `rtpsourcedata.cpp`.

The statistics of a source decide when its packets are accepted and extend their numbers to 32
bits.  A source on probation is accepted with the third packet in a row whose numbers follow
each other.  From then on the extended numbers are the indices that the sender counts up, as
long as each packet comes inside a window around the highest one.  The estimate of the jitter,
which is computed with floating point numbers, is left out.
-/
import DShowCapture.Library.FixedWidth
import DShowCapture.Library.SequenceNumbers
import Mathlib.Data.List.Induction

namespace DShowCapture.Jrtplib

open FixedWidth SequenceNumbers

def rtpProbationCount : Nat := 2

structure RTPSourceStats (Time : Type) where
  sentdata : Bool
  packetsreceived : Nat
  /-- Shifted left by 16 bits. -/
  numcycles : Nat
  baseseqnr : Nat
  exthighseqnr : Nat
  lastmsgtime : Time
  lastrtptime : Time
  lastnotetime : Time
  numnewpackets : Nat
  savedextseqnr : Nat
  prevseqnr : Nat
  probation : Nat

structure Processed (Time : Type) where
  stats : RTPSourceStats Time
  extseqnr : Nat
  accept : Bool
  onprobation : Bool

namespace RTPSourceStats

variable {Time : Type}

def new (zero : Time) : RTPSourceStats Time :=
  { sentdata := false
    packetsreceived := 0
    numcycles := 0
    baseseqnr := 0
    exthighseqnr := 0
    lastmsgtime := zero
    lastrtptime := zero
    lastnotetime := zero
    numnewpackets := 0
    savedextseqnr := 0
    prevseqnr := 0
    probation := 0 }

/-- `ACCEPTPACKETCODE`. -/
def acceptPacket (self : RTPSourceStats Time) (seqnr : Nat) (receivetime : Time)
    (ownpacket : Bool) : Processed Time :=
  let base := if seqnr = 0 then 0xFFFF else u32 ((seqnr : Int) - 1)
  let exthigh := u32 ((base : Int) + 1)
  { stats :=
      { self with
        sentdata := true
        packetsreceived := u32 ((self.packetsreceived : Int) + 1)
        numnewpackets := u32 ((self.numnewpackets : Int) + 1)
        numcycles := if seqnr = 0 then 0x10000 else self.numcycles
        baseseqnr := base
        exthighseqnr := exthigh
        savedextseqnr := base
        lastmsgtime := receivetime
        lastrtptime := if ownpacket then self.lastrtptime else receivetime }
    extseqnr := exthigh
    accept := true
    onprobation := false }

/-- A packet that leaves the source on probation. -/
def keepOnProbation (self : RTPSourceStats Time) (seqnr : Nat) (probation : Nat)
    (receivetime : Time) : Processed Time :=
  { stats :=
      { self with probation := probation, prevseqnr := u16 seqnr, lastmsgtime := receivetime }
    extseqnr := seqnr
    accept := false
    onprobation := true }

/-- The branch for a source without a valid packet that is on probation. -/
def probe (self : RTPSourceStats Time) (seqnr : Nat) (receivetime : Time) (ownpacket : Bool) :
    Processed Time :=
  if self.probation ≠ 0 then
    let pseq := u16 ((self.prevseqnr : Int) + 1)
    if pseq = seqnr then
      if self.probation - 1 = 0 then
        ({ self with probation := 0, prevseqnr := u16 seqnr } : RTPSourceStats Time).acceptPacket
          seqnr receivetime ownpacket
      else self.keepOnProbation seqnr (self.probation - 1) receivetime
    else self.keepOnProbation seqnr rtpProbationCount receivetime
  else self.keepOnProbation seqnr rtpProbationCount receivetime

/-- The branch for a source that has sent valid packets. -/
def follow (self : RTPSourceStats Time) (seqnr : Nat) (receivetime : Time) (ownpacket : Bool) :
    Processed Time :=
  let counted : RTPSourceStats Time :=
    { self with
      packetsreceived := u32 ((self.packetsreceived : Int) + 1)
      numnewpackets := u32 ((self.numnewpackets : Int) + 1)
      lastmsgtime := receivetime
      lastrtptime := if ownpacket then self.lastrtptime else receivetime }
  let maxseq16 := self.exthighseqnr % 65536
  if maxseq16 ≤ seqnr then
    let extseqnr := u32 ((self.numcycles : Int) + seqnr)
    { stats := { counted with exthighseqnr := extseqnr }
      extseqnr := extseqnr, accept := true, onprobation := false }
  else
    let dif1 := u16 ((seqnr : Int) - maxseq16)
    let dif2 := u16 ((maxseq16 : Int) - seqnr)
    if dif1 < dif2 then
      let numcycles := u32 ((self.numcycles : Int) + 0x10000)
      let extseqnr := u32 ((numcycles : Int) + seqnr)
      { stats := { counted with numcycles := numcycles, exthighseqnr := extseqnr }
        extseqnr := extseqnr, accept := true, onprobation := false }
    else
      { stats := counted
        extseqnr := u32 ((self.numcycles : Int) + seqnr), accept := true, onprobation := false }

/-- `ProcessPacket` for a packet with this number in its header. -/
def processPacket (self : RTPSourceStats Time) (seqnr : Nat) (receivetime : Time)
    (ownpacket applyprobation : Bool) : Processed Time :=
  if !self.sentdata then
    if applyprobation then self.probe seqnr receivetime ownpacket
    else self.acceptPacket seqnr receivetime ownpacket
  else self.follow seqnr receivetime ownpacket

def startNewInterval (self : RTPSourceStats Time) : RTPSourceStats Time :=
  { self with numnewpackets := 0, savedextseqnr := self.exthighseqnr }

/-! ### Extended numbers -/

/-- The statistics of a source whose packets have been numbered up to this index. -/
structure Tracks (stats : RTPSourceStats Time) (highest : Nat) : Prop where
  sentdata : stats.sentdata = true
  numcycles : stats.numcycles = highest / 65536 * 65536
  exthighseqnr : stats.exthighseqnr = highest

/-- The index that the first accepted packet is given. -/
def firstIndex (seqnr : Nat) : Nat := if seqnr = 0 then 65536 else seqnr

theorem tracks_acceptPacket {self : RTPSourceStats Time} (noCycles : self.numcycles = 0)
    {seqnr : Nat} (small : seqnr < 65536) (receivetime : Time) (ownpacket : Bool) :
    (self.acceptPacket seqnr receivetime ownpacket).stats.Tracks (firstIndex seqnr) ∧
      (self.acceptPacket seqnr receivetime ownpacket).extseqnr = firstIndex seqnr ∧
      (self.acceptPacket seqnr receivetime ownpacket).stats.baseseqnr = firstIndex seqnr - 1 := by
  unfold acceptPacket firstIndex
  by_cases isZero : seqnr = 0
  · rw [isZero]
    exact ⟨⟨rfl, rfl, rfl⟩, rfl, rfl⟩
  · simp only [if_neg isZero]
    have baseEq : u32 ((seqnr : Int) - 1) = seqnr - 1 := by
      unfold u32
      omega
    have highEq : u32 (((seqnr - 1 : Nat) : Int) + 1) = seqnr := by
      unfold u32
      omega
    rw [baseEq, highEq]
    refine ⟨⟨rfl, ?_, rfl⟩, rfl, rfl⟩
    rw [noCycles, Nat.div_eq_of_lt small]

/-- The number of a packet is unwrapped around the highest one. -/
theorem follow_unwraps {self : RTPSourceStats Time} {highest : Nat} (tracks : self.Tracks highest)
    (notLast : highest < 4294901760) {seqnr : Nat} (small : seqnr < 65536) (receivetime : Time)
    (ownpacket : Bool) :
    let index := unwrap 65536 highest seqnr
    (self.follow seqnr receivetime ownpacket).extseqnr = index ∧
      (self.follow seqnr receivetime ownpacket).stats.Tracks (max highest index) := by
  intro index
  have whole := split highest 65536
  have cycleEq (cycle : Nat) : (cycle * 65536 + seqnr) / 65536 = cycle := by omega
  have numbered (cycle : Nat) (few : cycle < 65536) :
      u32 (((cycle * 65536 : Nat) : Int) + seqnr) = cycle * 65536 + seqnr := by
    unfold u32
    omega
  have few : highest / 65536 < 65535 := by omega
  unfold follow
  simp only [tracks.exthighseqnr, tracks.numcycles]
  by_cases notBehind : highest % 65536 ≤ seqnr
  · have indexEq : index = highest / 65536 * 65536 + seqnr := if_pos notBehind
    have highEq : max highest index = index := by omega
    rw [if_pos notBehind, numbered _ (by omega), highEq, indexEq]
    refine ⟨rfl, ⟨tracks.sentdata, ?_, rfl⟩⟩
    rw [cycleEq]
  · rw [if_neg notBehind]
    have difEq : u16 ((seqnr : Int) - (highest % 65536 : Nat)) = 65536 - (highest % 65536 - seqnr) ∧
        u16 (((highest % 65536 : Nat) : Int) - seqnr) = highest % 65536 - seqnr := by
      unfold u16
      omega
    rw [difEq.1, difEq.2]
    by_cases farBehind : 65536 < 2 * (highest % 65536 - seqnr)
    · have indexEq : index = (highest / 65536 + 1) * 65536 + seqnr := by
        rw [Nat.succ_mul]
        exact (if_neg notBehind).trans (if_pos farBehind)
      have highEq : max highest index = index := by omega
      have nextCycle : u32 (((highest / 65536 * 65536 : Nat) : Int) + 0x10000) =
          (highest / 65536 + 1) * 65536 := by
        unfold u32
        omega
      rw [if_pos (by omega), nextCycle, numbered _ (by omega), highEq, indexEq]
      refine ⟨rfl, ⟨tracks.sentdata, ?_, rfl⟩⟩
      rw [cycleEq]
    · have indexEq : index = highest / 65536 * 65536 + seqnr :=
        (if_neg notBehind).trans (if_neg farBehind)
      have highEq : max highest index = highest := by omega
      rw [if_neg (by omega), numbered _ (by omega), highEq, indexEq]
      exact ⟨rfl, ⟨tracks.sentdata, rfl, rfl⟩⟩

def followAll (self : RTPSourceStats Time) (ownpacket : Bool) :
    List (Nat × Time) → List Nat × RTPSourceStats Time
  | [] => ([], self)
  | (seqnr, receivetime) :: rest =>
      let processed := self.processPacket seqnr receivetime ownpacket false
      let later := followAll processed.stats ownpacket rest
      (processed.extseqnr :: later.1, later.2)

theorem accept_follow (self : RTPSourceStats Time) (seqnr : Nat) (receivetime : Time)
    (ownpacket : Bool) : (self.follow seqnr receivetime ownpacket).accept = true := by
  simp only [follow]
  repeat' split
  all_goals rfl

theorem processPacket_of_sentdata {self : RTPSourceStats Time} (sent : self.sentdata = true)
    (seqnr : Nat) (receivetime : Time) (ownpacket applyprobation : Bool) :
    self.processPacket seqnr receivetime ownpacket applyprobation =
      self.follow seqnr receivetime ownpacket := by
  rw [processPacket, sent]
  rfl

def highestOf (highest : Nat) (indices : List Nat) : Nat := indices.foldl max highest

/-- The packets of a run are given their indices exactly when each of them is in the window of
the highest one before it. -/
theorem followAll_eq_iff {self : RTPSourceStats Time} {highest : Nat}
    (tracks : self.Tracks highest) (notLast : highest < 4294901760) (ownpacket : Bool)
    {arrivals : List (Nat × Time)}
    (early : ∀ arrival, arrival ∈ arrivals → arrival.1 < 4294901760) :
    (self.followAll ownpacket (arrivals.map fun arrival => (arrival.1 % 65536, arrival.2))).1 =
        arrivals.map Prod.fst ↔
      AllInWindow 65536 highest (arrivals.map Prod.fst) := by
  induction arrivals generalizing self highest with
  | nil => exact iff_of_true rfl trivial
  | cons arrival rest ih =>
      have small : arrival.1 % 65536 < 65536 := Nat.mod_lt _ (by decide)
      obtain ⟨extEq, next⟩ := follow_unwraps tracks notLast small arrival.2 ownpacket
      have isSmall := early arrival List.mem_cons_self
      rw [List.map_cons, List.map_cons, followAll, processPacket_of_sentdata tracks.sentdata,
        AllInWindow, ← unwrap_eq_iff (by decide), List.cons.injEq, extEq]
      apply and_congr_right
      intro same
      rw [same] at next
      exact ih next (Nat.max_lt.mpr ⟨notLast, isSmall⟩) fun other member =>
        early other (List.mem_cons_of_mem arrival member)

theorem tracks_followAll {self : RTPSourceStats Time} {highest : Nat}
    (tracks : self.Tracks highest) (notLast : highest < 4294901760) (ownpacket : Bool)
    {arrivals : List (Nat × Time)}
    (early : ∀ arrival, arrival ∈ arrivals → arrival.1 < 4294901760)
    (inWindow : AllInWindow 65536 highest (arrivals.map Prod.fst)) :
    (self.followAll ownpacket
        (arrivals.map fun arrival => (arrival.1 % 65536, arrival.2))).2.Tracks
      (highestOf highest (arrivals.map Prod.fst)) := by
  induction arrivals generalizing self highest with
  | nil => exact tracks
  | cons arrival rest ih =>
      have small : arrival.1 % 65536 < 65536 := Nat.mod_lt _ (by decide)
      obtain ⟨_, next⟩ := follow_unwraps tracks notLast small arrival.2 ownpacket
      have isSmall := early arrival List.mem_cons_self
      obtain ⟨here, later⟩ := inWindow
      rw [(unwrap_eq_iff (by decide)).mpr here] at next
      rw [List.map_cons, followAll, processPacket_of_sentdata tracks.sentdata]
      exact ih next (Nat.max_lt.mpr ⟨notLast, isSmall⟩)
        (fun other member => early other (List.mem_cons_of_mem arrival member)) later

theorem counts_follow (self : RTPSourceStats Time) (seqnr : Nat) (receivetime : Time)
    (ownpacket : Bool) :
    let next := (self.follow seqnr receivetime ownpacket).stats
    next.packetsreceived = u32 ((self.packetsreceived : Int) + 1) ∧
      next.baseseqnr = self.baseseqnr ∧ next.sentdata = self.sentdata := by
  simp only [follow]
  split
  · exact ⟨rfl, rfl, rfl⟩
  · split
    · exact ⟨rfl, rfl, rfl⟩
    · exact ⟨rfl, rfl, rfl⟩

theorem counts_followAll {self : RTPSourceStats Time} (sent : self.sentdata = true)
    (ownpacket : Bool) (arrivals : List (Nat × Time)) :
    let final := (self.followAll ownpacket arrivals).2
    final.packetsreceived % 4294967296 = (self.packetsreceived + arrivals.length) % 4294967296 ∧
      final.baseseqnr = self.baseseqnr := by
  induction arrivals generalizing self with
  | nil => exact ⟨rfl, rfl⟩
  | cons arrival rest ih =>
      obtain ⟨countEq, baseEq, sentEq⟩ := self.counts_follow arrival.1 arrival.2 ownpacket
      rw [followAll, processPacket_of_sentdata sent]
      obtain ⟨restCount, restBase⟩ := ih (sentEq.trans sent)
      refine ⟨restCount.trans ?_, restBase.trans baseEq⟩
      rw [countEq, List.length_cons]
      unfold u32
      omega

/-- The cumulative number of lost packets of a report block, `FillInReportBlocks`. -/
def packetsLost (self : RTPSourceStats Time) : Int :=
  let expected := u32 ((self.exthighseqnr : Int) - self.baseseqnr)
  i32 (u32 ((expected : Int) - self.packetsreceived))

/-! ### Probation -/

structure Unaccepted (stats : RTPSourceStats Time) : Prop where
  sentdata : stats.sentdata = false
  numcycles : stats.numcycles = 0
  packetsreceived : stats.packetsreceived = 0

theorem unaccepted_new (zero : Time) : (new zero).Unaccepted :=
  { sentdata := rfl, numcycles := rfl, packetsreceived := rfl }

theorem probe_cases (self : RTPSourceStats Time) (seqnr : Nat) (receivetime : Time)
    (ownpacket : Bool) :
    (self.probation = 1 ∧ u16 ((self.prevseqnr : Int) + 1) = seqnr ∧
        self.probe seqnr receivetime ownpacket =
          ({ self with probation := 0, prevseqnr := u16 seqnr } : RTPSourceStats Time).acceptPacket
            seqnr receivetime ownpacket) ∨
      (∃ probation, self.probe seqnr receivetime ownpacket =
          self.keepOnProbation seqnr probation receivetime ∧
        ((1 < self.probation ∧ u16 ((self.prevseqnr : Int) + 1) = seqnr ∧
            probation = self.probation - 1) ∨
          ((self.probation = 0 ∨ u16 ((self.prevseqnr : Int) + 1) ≠ seqnr) ∧
            probation = rtpProbationCount))) := by
  unfold probe
  by_cases begun : self.probation ≠ 0
  · rw [if_pos begun]
    by_cases isNext : u16 ((self.prevseqnr : Int) + 1) = seqnr
    · simp only [if_pos isNext]
      by_cases last : self.probation - 1 = 0
      · rw [if_pos last]
        exact Or.inl ⟨by omega, isNext, rfl⟩
      · rw [if_neg last]
        exact Or.inr ⟨_, rfl, Or.inl ⟨by omega, isNext, rfl⟩⟩
    · simp only [if_neg isNext]
      exact Or.inr ⟨_, rfl, Or.inr ⟨Or.inr isNext, rfl⟩⟩
  · rw [if_neg begun]
    exact Or.inr ⟨_, rfl, Or.inr ⟨Or.inl (not_not.mp begun), rfl⟩⟩

def following (seqnr : Nat) : Nat := (seqnr + 1) % 65536

def TwoInRow (numbers : List Nat) : Prop :=
  ∃ front first, numbers = front ++ [first, following first]

def ThreeInRow (numbers : List Nat) : Prop :=
  ∃ front first back,
    numbers = front ++ first :: following first :: following (following first) :: back

theorem twoInRow_concat_iff (numbers : List Nat) (seqnr : Nat) :
    TwoInRow (numbers ++ [seqnr]) ↔
      ∃ front last, numbers = front ++ [last] ∧ seqnr = following last := by
  constructor
  · rintro ⟨front, first, shape⟩
    have regrouped : numbers ++ [seqnr] = (front ++ [first]) ++ [following first] := by
      rw [shape, List.append_assoc]
      rfl
    obtain ⟨frontEq, lastEq⟩ := List.append_inj' regrouped rfl
    exact ⟨front, first, frontEq, (List.cons.inj lastEq).1⟩
  · rintro ⟨front, last, rfl, rfl⟩
    exact ⟨front, last, List.append_assoc front [last] _⟩

theorem ThreeInRow.append {numbers : List Nat} (three : ThreeInRow numbers) (more : List Nat) :
    ThreeInRow (numbers ++ more) := by
  obtain ⟨front, first, back, rfl⟩ := three
  refine ⟨front, first, back ++ more, ?_⟩
  rw [List.append_assoc]
  rfl

theorem ThreeInRow.long {numbers : List Nat} (three : ThreeInRow numbers) :
    3 ≤ numbers.length := by
  obtain ⟨front, first, back, rfl⟩ := three
  rw [List.length_append]
  simp only [List.length_cons]
  omega

theorem threeInRow_concat_iff (numbers : List Nat) (seqnr : Nat) :
    ThreeInRow (numbers ++ [seqnr]) ↔
      ThreeInRow numbers ∨
        ∃ front first, numbers = front ++ [first, following first] ∧
          seqnr = following (following first) := by
  constructor
  · rintro ⟨front, first, back, shape⟩
    rcases List.eq_nil_or_concat back with rfl | ⟨middle, last, rfl⟩
    · apply Or.inr
      have regrouped : numbers ++ [seqnr] =
          (front ++ [first, following first]) ++ [following (following first)] := by
        rw [shape, List.append_assoc]
        rfl
      obtain ⟨frontEq, lastEq⟩ := List.append_inj' regrouped rfl
      exact ⟨front, first, frontEq, (List.cons.inj lastEq).1⟩
    · apply Or.inl
      have regrouped : numbers ++ [seqnr] =
          (front ++ first :: following first :: following (following first) :: middle) ++
            [last] := by
        rw [shape, List.concat_eq_append, List.append_assoc]
        rfl
      exact ⟨front, first, middle, (List.append_inj' regrouped rfl).1⟩
  · rintro (three | ⟨front, first, rfl, rfl⟩)
    · exact three.append [seqnr]
    · refine ⟨front, first, [], ?_⟩
      rw [List.append_assoc]
      rfl

structure Probes (stats : RTPSourceStats Time) (numbers : List Nat) : Prop where
  unaccepted : stats.Unaccepted
  none : ¬ ThreeInRow numbers
  begun : numbers = [] → stats.probation = 0
  latest : ∀ front last, numbers = front ++ [last] →
    stats.prevseqnr = last ∧
      ((TwoInRow numbers ∧ stats.probation = 1) ∨ (¬ TwoInRow numbers ∧ stats.probation = 2))

theorem probes_new (zero : Time) : (new zero).Probes [] :=
  { unaccepted := unaccepted_new zero
    none := fun three => absurd three.long (by decide)
    begun := fun _ => rfl
    latest := fun front last shape => by
      have lengthEq := congrArg List.length shape
      rw [List.length_append, List.length_singleton, List.length_nil] at lengthEq
      omega }

/-- Neither the times nor the counters of an interval matter to the probation. -/
theorem Probes.of_same {self next : RTPSourceStats Time} {numbers : List Nat}
    (probes : self.Probes numbers) (sentdata : next.sentdata = self.sentdata)
    (numcycles : next.numcycles = self.numcycles)
    (packetsreceived : next.packetsreceived = self.packetsreceived)
    (probation : next.probation = self.probation) (prevseqnr : next.prevseqnr = self.prevseqnr) :
    next.Probes numbers :=
  { unaccepted :=
      { sentdata := sentdata.trans probes.unaccepted.sentdata
        numcycles := numcycles.trans probes.unaccepted.numcycles
        packetsreceived := packetsreceived.trans probes.unaccepted.packetsreceived }
    none := probes.none
    begun := fun empty => probation.trans (probes.begun empty)
    latest := by
      rw [prevseqnr, probation]
      exact probes.latest }

theorem u16_following (seqnr : Nat) : u16 ((seqnr : Int) + 1) = following seqnr := by
  unfold u16 following
  omega

/-- A packet ends the probation exactly when its number is the third in a row. -/
theorem probes_probe {self : RTPSourceStats Time} {numbers : List Nat}
    (probes : self.Probes numbers) {seqnr : Nat} (small : seqnr < 65536) (receivetime : Time)
    (ownpacket : Bool) :
    let processed := self.probe seqnr receivetime ownpacket
    (ThreeInRow (numbers ++ [seqnr]) ∧ processed.accept = true) ∨
      (processed.accept = false ∧ processed.onprobation = true ∧ processed.extseqnr = seqnr ∧
        processed.stats.Probes (numbers ++ [seqnr])) := by
  intro processed
  rcases self.probe_cases seqnr receivetime ownpacket with
    ⟨isLast, isNext, probeEq⟩ | ⟨probation, probeEq, kept⟩
  · apply Or.inl
    refine ⟨?_, congrArg Processed.accept probeEq⟩
    rcases List.eq_nil_or_concat numbers with empty | ⟨front, last, shape⟩
    · have none := probes.begun empty
      omega
    · rw [List.concat_eq_append] at shape
      obtain ⟨prevEq, rows⟩ := probes.latest front last shape
      rcases rows with ⟨⟨earlier, first, twoEq⟩, _⟩ | ⟨_, isTwo⟩
      · refine (threeInRow_concat_iff numbers seqnr).mpr (Or.inr ⟨earlier, first, twoEq, ?_⟩)
        have regrouped : front ++ [last] = (earlier ++ [first]) ++ [following first] := by
          rw [← shape, twoEq, List.append_assoc]
          rfl
        obtain ⟨_, lastEq⟩ := List.append_inj' regrouped rfl
        rw [← isNext, prevEq, (List.cons.inj lastEq).1, u16_following]
      · omega
  · apply Or.inr
    have processedEq : processed = self.keepOnProbation seqnr probation receivetime := probeEq
    rw [processedEq]
    refine ⟨rfl, rfl, rfl, ?_⟩
    have notThird : ¬ ThreeInRow (numbers ++ [seqnr]) := by
      rw [threeInRow_concat_iff]
      rintro (three | ⟨front, first, shape, isThird⟩)
      · exact probes.none three
      · have grouped : numbers = (front ++ [first]) ++ [following first] := by
          rw [shape, List.append_assoc]
          rfl
        obtain ⟨prevEq, rows⟩ := probes.latest _ _ grouped
        have isNext : u16 ((self.prevseqnr : Int) + 1) = seqnr := by
          rw [prevEq, u16_following, isThird]
        rcases rows with ⟨_, isOne⟩ | ⟨notTwo, _⟩
        · rcases kept with ⟨more, _, _⟩ | ⟨none | other, _⟩
          · omega
          · omega
          · exact other isNext
        · exact notTwo ⟨front, first, shape⟩
    exact
      { unaccepted :=
          { sentdata := probes.unaccepted.sentdata
            numcycles := probes.unaccepted.numcycles
            packetsreceived := probes.unaccepted.packetsreceived }
        none := notThird
        begun := fun empty =>
          absurd empty (List.append_ne_nil_of_right_ne_nil _ (List.cons_ne_nil _ _))
        latest := by
          intro front last shape
          obtain ⟨frontEq, lastEq⟩ := List.append_inj' shape rfl
          rw [← (List.cons.inj lastEq).1, twoInRow_concat_iff]
          refine ⟨u16_natCast seqnr small, ?_⟩
          change (_ ∧ probation = 1) ∨ (_ ∧ probation = 2)
          rcases kept with ⟨more, isNext, rfl⟩ | ⟨broken, rfl⟩
          · apply Or.inl
            rcases List.eq_nil_or_concat numbers with empty | ⟨earlier, previous, grouped⟩
            · have none := probes.begun empty
              omega
            · rw [List.concat_eq_append] at grouped
              obtain ⟨prevEq, rows⟩ := probes.latest earlier previous grouped
              refine ⟨⟨earlier, previous, grouped, ?_⟩, by omega⟩
              rw [← isNext, prevEq, u16_following]
          · refine Or.inr ⟨?_, rfl⟩
            rintro ⟨earlier, previous, grouped, isNext⟩
            obtain ⟨prevEq, rows⟩ := probes.latest earlier previous grouped
            rcases broken with none | other
            · omega
            · apply other
              rw [prevEq, u16_following, isNext] }

theorem acceptPacket_of_probe {self : RTPSourceStats Time} {seqnr : Nat} {receivetime : Time}
    {ownpacket : Bool} (accepted : (self.probe seqnr receivetime ownpacket).accept = true) :
    ∃ before : RTPSourceStats Time, before.numcycles = self.numcycles ∧
      before.packetsreceived = self.packetsreceived ∧
      self.probe seqnr receivetime ownpacket = before.acceptPacket seqnr receivetime ownpacket := by
  rcases self.probe_cases seqnr receivetime ownpacket with ⟨_, _, probeEq⟩ | ⟨_, probeEq, _⟩
  · exact ⟨{ self with probation := 0, prevseqnr := u16 seqnr }, rfl, rfl, probeEq⟩
  · rw [probeEq] at accepted
    cases accepted

theorem sentdata_of_not_accept {self : RTPSourceStats Time} {seqnr : Nat} {receivetime : Time}
    {ownpacket applyprobation : Bool}
    (rejected : (self.processPacket seqnr receivetime ownpacket applyprobation).accept = false) :
    (self.processPacket seqnr receivetime ownpacket applyprobation).stats.sentdata = false := by
  cases sent : self.sentdata with
  | true =>
      rw [processPacket_of_sentdata sent, accept_follow] at rejected
      cases rejected
  | false =>
      cases applyprobation with
      | false =>
          rw [processPacket, sent] at rejected
          cases rejected
      | true =>
          rw [processPacket, sent] at rejected ⊢
          rw [Bool.not_false, if_pos rfl, if_pos rfl] at rejected ⊢
          rcases self.probe_cases seqnr receivetime ownpacket with
            ⟨_, _, probeEq⟩ | ⟨_, probeEq, _⟩
          · rw [probeEq] at rejected
            cases rejected
          · rw [probeEq]
            exact sent

def probeAll (self : RTPSourceStats Time) (ownpacket : Bool) (packets : List (Nat × Time)) :
    RTPSourceStats Time :=
  packets.foldl
    (fun stats packet => (stats.processPacket packet.1 packet.2 ownpacket true).stats) self

/-- A source has been accepted exactly when three packets in a row carried numbers that follow
each other. -/
theorem probeAll_cases (zero : Time) (ownpacket : Bool) {packets : List (Nat × Time)}
    (small : ∀ packet, packet ∈ packets → packet.1 < 65536) :
    (ThreeInRow (packets.map Prod.fst) ∧
        ((new zero).probeAll ownpacket packets).sentdata = true) ∨
      ((new zero).probeAll ownpacket packets).Probes (packets.map Prod.fst) := by
  induction packets using List.reverseRecOn with
  | nil => exact Or.inr (probes_new zero)
  | append_singleton packets packet ih =>
      have isSmall := small packet (List.mem_append_right packets (List.mem_singleton_self packet))
      rw [probeAll, List.foldl_append, List.map_append, List.map_singleton]
      change _ ∨ Probes (processPacket ((new zero).probeAll ownpacket packets) packet.1 packet.2
        ownpacket true).stats _
      change (_ ∧ (processPacket ((new zero).probeAll ownpacket packets) packet.1 packet.2
        ownpacket true).stats.sentdata = true) ∨ _
      rcases ih fun other member => small other (List.mem_append_left _ member) with
        ⟨three, sent⟩ | probes
      · apply Or.inl
        refine ⟨(threeInRow_concat_iff _ _).mpr (Or.inl three), ?_⟩
        rw [processPacket_of_sentdata sent]
        exact (counts_follow _ _ _ _).2.2.trans sent
      · rw [processPacket, probes.unaccepted.sentdata]
        rcases probes_probe probes isSmall packet.2 ownpacket with
          ⟨three, accepted⟩ | ⟨_, _, _, stillProbes⟩
        · obtain ⟨before, _, _, probeEq⟩ := acceptPacket_of_probe accepted
          refine Or.inl ⟨three, ?_⟩
          rw [Bool.not_false, if_pos rfl, if_pos rfl, probeEq]
          rfl
        · exact Or.inr stillProbes

/-- The packets behind the one that is accepted are given the indices that their sender counted
exactly when each of them comes in the window around the highest one so far; a report block
then announces the number of packets that are missing up to the highest, less the duplicates. -/
theorem extended_numbers (zero : Time) (ownpacket : Bool) (packets : List (Nat × Time))
    (small : ∀ packet, packet ∈ packets → packet.1 < 65536)
    (waiting : ((new zero).probeAll ownpacket packets).sentdata = false) {first : Nat}
    (firstSmall : first < 65536) (receivetime : Time) (applyprobation : Bool)
    (accepted : (((new zero).probeAll ownpacket packets).processPacket first receivetime
      ownpacket applyprobation).accept = true)
    {arrivals : List (Nat × Time)}
    (early : ∀ arrival, arrival ∈ arrivals → arrival.1 < 4294901760) :
    let processed := ((new zero).probeAll ownpacket packets).processPacket first receivetime
      ownpacket applyprobation
    let run := processed.stats.followAll ownpacket
      (arrivals.map fun arrival => (arrival.1 % 65536, arrival.2))
    let indices := arrivals.map Prod.fst
    processed.extseqnr = firstIndex first ∧
      (run.1 = indices ↔ AllInWindow 65536 (firstIndex first) indices) ∧
      (AllInWindow 65536 (firstIndex first) indices →
        run.2.exthighseqnr = highestOf (firstIndex first) indices ∧
        run.2.packetsLost =
          i32 ((highestOf (firstIndex first) indices : Int) - firstIndex first -
            indices.length)) := by
  intro processed run indices
  have unaccepted : ((new zero).probeAll ownpacket packets).Unaccepted := by
    rcases probeAll_cases zero ownpacket small with ⟨_, sent⟩ | probes
    · rw [waiting] at sent
      cases sent
    · exact probes.unaccepted
  obtain ⟨before, noCycles, notCounted, processedEq⟩ :
      ∃ before : RTPSourceStats Time, before.numcycles = 0 ∧ before.packetsreceived = 0 ∧
        processed = before.acceptPacket first receivetime ownpacket := by
    have unfolded : processed = if applyprobation then
        ((new zero).probeAll ownpacket packets).probe first receivetime ownpacket
        else ((new zero).probeAll ownpacket packets).acceptPacket first receivetime ownpacket := by
      change processPacket _ _ _ _ _ = _
      rw [processPacket, waiting]
      rfl
    cases applyprobation with
    | false => exact ⟨_, unaccepted.numcycles, unaccepted.packetsreceived, unfolded⟩
    | true =>
        rw [if_pos rfl] at unfolded
        have probed : processed.accept = true := accepted
        rw [unfolded] at probed
        obtain ⟨before, cycles, counted, probeEq⟩ := acceptPacket_of_probe probed
        exact ⟨before, cycles.trans unaccepted.numcycles,
          counted.trans unaccepted.packetsreceived, unfolded.trans probeEq⟩
  obtain ⟨tracks, extEq, baseEq⟩ := tracks_acceptPacket noCycles firstSmall receivetime ownpacket
  rw [← processedEq] at tracks extEq baseEq
  have received : processed.stats.packetsreceived = 1 := by
    rw [processedEq]
    change u32 ((before.packetsreceived : Int) + 1) = 1
    rw [notCounted]
    rfl
  have notLast : firstIndex first < 4294901760 := by
    unfold firstIndex
    split
    · decide
    · omega
  refine ⟨extEq, followAll_eq_iff tracks notLast ownpacket early, ?_⟩
  intro inWindow
  have final := tracks_followAll tracks notLast ownpacket early inWindow
  refine ⟨final.exthighseqnr, ?_⟩
  obtain ⟨countEq, finalBase⟩ := counts_followAll tracks.sentdata ownpacket
    (arrivals.map fun arrival => (arrival.1 % 65536, arrival.2))
  have lengthEq : indices.length = arrivals.length := List.length_map _
  have positive : 0 < firstIndex first := by
    unfold firstIndex
    split
    · decide
    · omega
  rw [List.length_map, received] at countEq
  have highEq : run.2.exthighseqnr = highestOf (firstIndex first) indices := final.exthighseqnr
  have finalCount : run.2.packetsreceived % 4294967296 = (1 + arrivals.length) % 4294967296 :=
    countEq
  have baseIs : run.2.baseseqnr = firstIndex first - 1 := finalBase.trans baseEq
  rw [packetsLost, highEq, baseIs, lengthEq]
  unfold i32 u32
  omega

/-- The numbers wrap behind the accepted packet, two packets change places and one is lost. -/
theorem extended_numbers_wrapped :
    let waiting := (new 0 : RTPSourceStats Nat).probeAll false [(65533, 0), (65534, 1)]
    let processed := waiting.processPacket 65535 2 false true
    let run := processed.stats.followAll false [(0, 3), (3, 4), (1, 5)]
    processed.extseqnr = 65535 ∧ run.1 = [65536, 65539, 65537] ∧ run.2.packetsLost = 1 := by
  intro waiting processed run
  have early : ∀ arrival, arrival ∈ [(65536, 3), (65539, 4), (65537, 5)] →
      arrival.1 < 4294901760 := by decide
  have inWindow : AllInWindow 65536 65535 [65536, 65539, 65537] := by decide
  obtain ⟨extEq, numbersIff, lost⟩ := extended_numbers 0 false [(65533, 0), (65534, 1)]
    (by decide) rfl (by decide : 65535 < 65536) 2 true rfl early
  exact ⟨extEq, numbersIff.mpr inWindow, (lost inWindow).2.trans rfl⟩

end RTPSourceStats

end DShowCapture.Jrtplib
