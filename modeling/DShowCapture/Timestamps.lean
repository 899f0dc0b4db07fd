/-
RTP time stamps over a sending run.

The session stamps a packet with its current time stamp and then adds the increment it
was given.  `SendH264Nalu` passes the milliseconds since the last marker as the increment
of the next one, and zero with all other packets.
-/
import DShowCapture.SendLoop
import DShowCapture.Sending
import Mathlib.Data.Int.GCD

namespace DShowCapture

open ByteMemory FixedWidth Logged AnnexB

/-! ### The packet builder -/

structure RTPPacketBuilder where
  timestamp : Nat

namespace RTPPacketBuilder

/-- The time stamp that `PrivateBuildPacket` writes into a packet, and its effect on that of
the next. -/
def privateBuildPacket (self : RTPPacketBuilder) (timestampinc : Nat) : Nat × RTPPacketBuilder :=
  (self.timestamp, { timestamp := u32 (self.timestamp + timestampinc) })

/-- One packet after the other.  The increment is converted to `uint32_t` on the way. -/
def buildPackets : RTPPacketBuilder → List SentPacket → List Nat × RTPPacketBuilder
  | self, [] => ([], self)
  | self, packet :: rest =>
      let built := self.privateBuildPacket (u32 packet.timestampInc)
      let later := buildPackets built.2 rest
      (built.1 :: later.1, later.2)

def buildFrames : RTPPacketBuilder → List (List SentPacket) → List (List Nat)
  | _, [] => []
  | self, packets :: rest =>
      let built := self.buildPackets packets
      built.1 :: buildFrames built.2 rest

/-- The packets of a frame before its last one leave the time stamp as it is. -/
theorem buildPackets_of_marked {self : RTPPacketBuilder} (inRange : self.timestamp < 4294967296)
    {front : List SentPacket} (unchanged : ∀ packet, packet ∈ front → packet.timestampInc = 0)
    (last : SentPacket) :
    self.buildPackets (front ++ [last]) =
      (List.replicate (front.length + 1) self.timestamp,
        { timestamp := u32 (self.timestamp + u32 last.timestampInc) }) := by
  induction front with
  | nil => rfl
  | cons packet front ih =>
      have same : u32 (self.timestamp + u32 packet.timestampInc) = self.timestamp := by
        rw [unchanged packet List.mem_cons_self]
        unfold u32
        omega
      have built : self.privateBuildPacket (u32 packet.timestampInc) = (self.timestamp, self) := by
        rw [privateBuildPacket, same]
      rw [List.cons_append, buildPackets, built, ih fun later member =>
        unchanged later (List.mem_cons_of_mem packet member)]
      rfl

theorem buildFrames_of_marked {self : RTPPacketBuilder} (inRange : self.timestamp < 4294967296)
    {front : List SentPacket} (unchanged : ∀ packet, packet ∈ front → packet.timestampInc = 0)
    (last : SentPacket) (rest : List (List SentPacket)) :
    ∃ next : RTPPacketBuilder, next.timestamp = u32 (self.timestamp + u32 last.timestampInc) ∧
      self.buildFrames ((front ++ [last]) :: rest) =
        List.replicate (front.length + 1) self.timestamp :: next.buildFrames rest := by
  refine ⟨{ timestamp := u32 (self.timestamp + u32 last.timestampInc) }, rfl, ?_⟩
  rw [buildFrames, buildPackets_of_marked inRange unchanged last]

end RTPPacketBuilder

/-! ### The increments of one frame -/

namespace RTPSender

/-- The clock reading from which the increment of the next marker counts. -/
def startTime (clock : Nat → Int) (self : RTPSender) : Int :=
  if self.lastTime = 0 then clock self.readings else self.lastTime

/-- Clock readings are milliseconds since an epoch in the past, in 64 bits. -/
def ClockReads (clock : Nat → Int) : Prop :=
  ∀ reading, 0 < clock reading ∧ clock reading < 9223372036854775808

theorem sendEncoded_of_not_last {clock : Nat → Int} (reads : ClockReads clock)
    (self : RTPSender) {encoded : CH264EncodeRtp.EncodeResult}
    (notLast : encoded.flags.lastFrame = false) :
    ∃ packet, (self.sendEncoded clock encoded).sent = [packet] ∧ packet.timestampInc = 0 ∧
      (self.sendEncoded clock encoded).self.startTime clock = self.startTime clock := by
  have read := reads self.readings
  simp only [sendEncoded, notLast, Bool.false_eq_true, if_false, getCurrentTime]
  refine ⟨_, rfl, rfl, ?_⟩
  by_cases unset : self.lastTime = 0
  · have converted : ((u64 (clock self.readings) : Nat) : Int) = clock self.readings := by
      unfold u64
      omega
    have isSet : u64 (clock self.readings) ≠ 0 := by omega
    simp only [startTime, if_pos unset, if_neg isSet, converted]
  · simp only [if_neg unset]

theorem sendEncoded_of_last {clock : Nat → Int} (reads : ClockReads clock) (self : RTPSender)
    {encoded : CH264EncodeRtp.EncodeResult} (last : encoded.flags.lastFrame = true) :
    ∃ packet, (self.sendEncoded clock encoded).sent = [packet] ∧
      packet.timestampInc =
        i32 (clock ((self.sendEncoded clock encoded).self.readings - 1) -
          self.startTime clock) := by
  have read := reads self.readings
  simp only [sendEncoded, last, if_true, getCurrentTime]
  refine ⟨_, rfl, ?_⟩
  by_cases unset : self.lastTime = 0
  · have converted : ((u64 (clock self.readings) : Nat) : Int) = clock self.readings := by
      unfold u64
      omega
    simp only [startTime, if_pos unset, converted, Nat.add_sub_cancel]
  · simp only [startTime, if_neg unset, Nat.add_sub_cancel]

/-- A round sends one packet.  Only with the one that ends the loop does the time stamp
advance, by the time since the last such packet. -/
theorem sent_sendRound {clock : Nat → Int} (reads : ClockReads clock) (self : RTPSender)
    (h264buf : Memory) (buflen : Nat) :
    let round := self.sendRound clock h264buf buflen
    ∃ packet, round.sent = [packet] ∧
      (round.done = false → packet.timestampInc = 0 ∧
        round.self.startTime clock = self.startTime clock) ∧
      (round.done = true → packet.timestampInc =
        i32 (clock (round.self.readings - 1) - self.startTime clock)) := by
  have returned : (self.h264Rtp.encodeFrames h264buf buflen (fun _ => 0) 1212).value.returned =
      true := by rw [CH264EncodeRtp.value_encodeFrames]
  simp only [sendRound, returned, if_true]
  generalize (self.h264Rtp.encodeFrames h264buf buflen (fun _ => 0) 1212).value = encoded
  have doneEq := (self_sendEncoded clock { self with h264Rtp := encoded.self } encoded).2
  rw [doneEq]
  cases flagged : encoded.flags.lastFrame with
  | false =>
      obtain ⟨packet, sent, unchanged, kept⟩ := sendEncoded_of_not_last reads
        { self with h264Rtp := encoded.self } flagged
      exact ⟨packet, sent, fun _ => ⟨unchanged, kept⟩, fun last => absurd last (by decide)⟩
  | true =>
      obtain ⟨packet, sent, advance⟩ := sendEncoded_of_last reads
        { self with h264Rtp := encoded.self } flagged
      exact ⟨packet, sent, fun notLast => absurd notLast (by decide), fun _ => advance⟩

theorem sent_sendH264Nalu {clock : Nat → Int} (reads : ClockReads clock) {h264buf : Memory}
    {buflen rounds : Nat} {self final : RTPSender} {sent : List SentPacket}
    (run : sendH264Nalu clock h264buf buflen rounds self = some (final, sent)) :
    ∃ front last, sent = front ++ [last] ∧
      (∀ packet, packet ∈ front → packet.timestampInc = 0) ∧
      last.timestampInc = i32 (clock (final.readings - 1) - self.startTime clock) := by
  induction rounds generalizing self sent with
  | zero => cases run
  | succ rounds ih =>
      obtain ⟨packet, roundSent, notDone, isDone⟩ := sent_sendRound reads self h264buf buflen
      simp only [sendH264Nalu] at run
      cases doneEq : (self.sendRound clock h264buf buflen).done with
      | true =>
          rw [if_pos doneEq] at run
          obtain ⟨rfl, rfl⟩ := Prod.mk.inj (Option.some.inj run)
          exact ⟨[], packet, roundSent, fun _ member => absurd member List.not_mem_nil,
            isDone doneEq⟩
      | false =>
          rw [if_neg (by simp [doneEq])] at run
          obtain ⟨later, laterRun, shape⟩ := Option.map_eq_some_iff.mp run
          obtain ⟨rfl, rfl⟩ := Prod.mk.inj shape
          obtain ⟨unchanged, kept⟩ := notDone doneEq
          obtain ⟨front, last, laterSent, laterUnchanged, advance⟩ := ih laterRun
          rw [kept] at advance
          refine ⟨packet :: front, last, ?_, ?_, advance⟩
          · rw [roundSent, laterSent]
            rfl
          · intro other member
            rcases List.mem_cons.mp member with rfl | inFront
            · exact unchanged
            · exact laterUnchanged other inFront

/-! ### Runs -/

inductive SendsFrames (clock : Nat → Int) :
    RTPSender → List Source → List (RTPSender × List SentPacket) → Prop
  | nil (self : RTPSender) : SendsFrames clock self [] []
  | cons {self : RTPSender} {source : Source} {rounds : Nat}
      {first : RTPSender × List SentPacket} {sources : List Source}
      {later : List (RTPSender × List SentPacket)}
      (sends : sendH264Nalu clock source.src source.srcLen rounds self = some first)
      (rest : SendsFrames clock first.1 sources later) :
      SendsFrames clock self (source :: sources) (first :: later)

/-- The first clock reading, and then those taken for the markers of the frames. -/
def clockTimes (clock : Nat → Int) (self : RTPSender)
    (results : List (RTPSender × List SentPacket)) : List Int :=
  clock self.readings :: results.map fun result => clock (result.1.readings - 1)

/-- The time stamps of a run: one for each frame, different ones for different frames, and
ninety ticks for each millisecond between the markers. -/
structure KeepsTime (clock : Nat → Int) (sender : RTPSender) (builder : RTPPacketBuilder)
    (results : List (RTPSender × List SentPacket)) : Prop where
  constant : ∀ stamps, stamps ∈ builder.buildFrames (results.map Prod.snd) →
    ∀ first second : Nat, first ∈ stamps → second ∈ stamps → first = second
  distinct : (builder.buildFrames (results.map Prod.snd)).Pairwise fun earlier later =>
    ∀ first second : Nat, first ∈ earlier → second ∈ later → first ≠ second
  advances : ∀ index earlier later start stop,
    (builder.buildFrames (results.map Prod.snd))[index]? = some earlier →
    (builder.buildFrames (results.map Prod.snd))[index + 1]? = some later →
    (clockTimes clock sender results)[index]? = some start →
    (clockTimes clock sender results)[index + 1]? = some stop →
    ∀ first second : Nat, first ∈ earlier → second ∈ later →
      u32 ((second : Int) - first) = u32 (90 * (stop - start))

theorem constant_of_sendsFrames {clock : Nat → Int} (reads : ClockReads clock)
    {builder : RTPPacketBuilder} (inRange : builder.timestamp < 4294967296) {self : RTPSender}
    {sources : List Source} {results : List (RTPSender × List SentPacket)}
    (run : SendsFrames clock self sources results) :
    ∀ stamps, stamps ∈ builder.buildFrames (results.map Prod.snd) →
      ∀ first second, first ∈ stamps → second ∈ stamps → first = second := by
  induction run generalizing builder with
  | nil => exact fun stamps member => absurd member List.not_mem_nil
  | @cons self source rounds result sources later sends rest ih =>
      obtain ⟨front, last, sentEq, unchanged, _⟩ := sent_sendH264Nalu reads sends
      obtain ⟨next, nextEq, built⟩ := RTPPacketBuilder.buildFrames_of_marked inRange unchanged
        last (later.map Prod.snd)
      rw [List.map_cons, sentEq, built]
      intro stamps member first second firstMember secondMember
      rcases List.mem_cons.mp member with rfl | inLater
      · rw [List.eq_of_mem_replicate firstMember, List.eq_of_mem_replicate secondMember]
      · refine ih ?_ stamps inLater first second firstMember secondMember
        rw [nextEq]
        exact u32_lt _

/-- Eighty-nine is prime to `2 ^ 32`, so ninety ticks for each millisecond are as many as one
only when neither moves the time stamp. -/
private theorem timestamp_eq_of_ticks {timestamp next : Nat} (inRange : timestamp < 4294967296)
    {elapsed : Int} (nextEq : next = u32 (timestamp + u32 (i32 elapsed)))
    (ticks : u32 ((next : Int) - timestamp) = u32 (90 * elapsed)) : timestamp = next := by
  have nextRange : next < 4294967296 := by
    rw [nextEq]
    exact u32_lt _
  have advance : ((next : Int) - timestamp - elapsed) % 4294967296 = 0 := by
    rw [nextEq, natCast_u32, natCast_u32]
    unfold i32
    omega
  have multiple : (4294967296 : Int) ∣ 89 * elapsed := by
    have ticksCast : (u32 ((next : Int) - timestamp) : Int) = u32 (90 * elapsed) := by rw [ticks]
    rw [natCast_u32, natCast_u32] at ticksCast
    omega
  have whole : (4294967296 : Int) ∣ elapsed :=
    Int.dvd_of_dvd_mul_right_of_gcd_one multiple (by decide)
  omega

/-- With two frames either their time stamps are the same, or the second is not ninety ticks
for each millisecond behind the first. -/
theorem not_keepsTime {clock : Nat → Int} (reads : ClockReads clock)
    {builder : RTPPacketBuilder} (inRange : builder.timestamp < 4294967296) {self : RTPSender}
    (unset : self.lastTime = 0) {first second : RTPSender × List SentPacket}
    {source : Source} {rounds : Nat} {sources : List Source}
    {later : List (RTPSender × List SentPacket)}
    (sends : sendH264Nalu clock source.src source.srcLen rounds self = some first)
    (rest : SendsFrames clock first.1 sources (second :: later)) :
    ¬ KeepsTime clock self builder (first :: second :: later) := by
  intro keeps
  obtain ⟨front, last, sentEq, unchanged, advance⟩ := sent_sendH264Nalu reads sends
  rw [startTime, if_pos unset] at advance
  cases rest with
  | cons sendsNext rest =>
      obtain ⟨nextFront, nextLast, nextEq, nextUnchanged, _⟩ := sent_sendH264Nalu reads sendsNext
      obtain ⟨next, stampEq, built⟩ := RTPPacketBuilder.buildFrames_of_marked inRange unchanged
        last ((second :: later).map Prod.snd)
      have nextRange : next.timestamp < 4294967296 := by
        rw [stampEq]
        exact u32_lt _
      obtain ⟨_, _, builtNext⟩ := RTPPacketBuilder.buildFrames_of_marked nextRange nextUnchanged
        nextLast (later.map Prod.snd)
      rw [← sentEq, List.map_cons, nextEq, builtNext] at built
      have framesEq : (first :: second :: later).map Prod.snd =
          first.2 :: (nextFront ++ [nextLast]) :: later.map Prod.snd := by
        rw [List.map_cons, List.map_cons, nextEq]
      rw [← framesEq] at built
      have firstMember : builder.timestamp ∈ List.replicate (front.length + 1) builder.timestamp :=
        List.mem_replicate.mpr ⟨Nat.succ_ne_zero _, rfl⟩
      have nextMember : next.timestamp ∈ List.replicate (nextFront.length + 1) next.timestamp :=
        List.mem_replicate.mpr ⟨Nat.succ_ne_zero _, rfl⟩
      have apart := keeps.distinct
      rw [built] at apart
      have differ := List.rel_of_pairwise_cons apart List.mem_cons_self builder.timestamp
        next.timestamp firstMember nextMember
      have ticks := keeps.advances 0 _ _ (clock self.readings) (clock (first.1.readings - 1))
        (by rw [built]; rfl) (by rw [built]; rfl) rfl rfl builder.timestamp next.timestamp
        firstMember nextMember
      rw [advance] at stampEq
      exact differ (timestamp_eq_of_ticks inRange stampEq ticks)

theorem exists_sendsFrames (clock : Nat → Int) {self : RTPSender}
    (drained : self.h264Rtp.encapsulation.hasRTPFrames = false)
    (limit : self.h264Rtp.encapsulation.maxPayloadSize = 1200) {sources : List Source}
    (startCodes : ∀ source, source ∈ sources → [0, 0, 1] <:+: read source.src 0 source.srcLen) :
    ∃ results, SendsFrames clock self sources results := by
  induction sources generalizing self with
  | nil => exact ⟨[], .nil self⟩
  | cons source sources ih =>
      obtain ⟨bounded, someLeft⟩ := CH264EncodeRtp.bounded_stageFrame drained (by omega)
        (by omega) source.src source.srcLen
      obtain ⟨rounds, final, sent, run, nothingLeft, limitLater⟩ := sendH264Nalu_of_hasRTPFrames
        clock source.src source.srcLen _ bounded
        (someLeft.mpr (startCodes source List.mem_cons_self)) self rfl
      rw [CH264EncodeRtp.maxPayloadSize_stageFrame, limit] at limitLater
      obtain ⟨later, rest⟩ := ih nothingLeft limitLater fun other member =>
        startCodes other (List.mem_cons_of_mem source member)
      exact ⟨(final, sent) :: later, .cons run rest⟩

/-- The time stamps of a run are right only when it sends no second frame. -/
theorem keepsTime_iff {clock : Nat → Int} (reads : ClockReads clock)
    {builder : RTPPacketBuilder} (inRange : builder.timestamp < 4294967296) {self : RTPSender}
    (unset : self.lastTime = 0) (drained : self.h264Rtp.encapsulation.hasRTPFrames = false)
    (limit : self.h264Rtp.encapsulation.maxPayloadSize = 1200) {sources : List Source}
    (startCodes : ∀ source, source ∈ sources → [0, 0, 1] <:+: read source.src 0 source.srcLen) :
    (∃ results, SendsFrames clock self sources results) ∧
      ∀ results, SendsFrames clock self sources results →
        (KeepsTime clock self builder results ↔ sources.length ≤ 1) := by
  refine ⟨exists_sendsFrames clock drained limit startCodes, ?_⟩
  intro results run
  have constant := constant_of_sendsFrames reads inRange run
  cases run with
  | nil =>
      refine ⟨fun _ => Nat.zero_le 1, fun _ => ?_⟩
      exact
        { constant := constant
          distinct := List.Pairwise.nil
          advances := fun _ _ _ _ _ found => by cases found }
  | cons sends rest =>
      cases rest with
      | nil =>
          refine ⟨fun _ => Nat.le_refl 1, fun _ => ?_⟩
          exact
            { constant := constant
              distinct := List.pairwise_singleton _ _
              advances := fun _ _ _ _ _ _ found => by cases found }
      | cons sendsNext rest =>
          refine ⟨fun keeps => absurd keeps ?_, fun few => absurd few (by simp)⟩
          exact not_keepsTime reads inRange unset sends (.cons sendsNext rest)

private def idleSender : RTPSender :=
  { h264Rtp :=
      CH264EncodeRtp.setMaxRTPFrameSize
        { encapsulation := H264Frame.new (fun _ => 0) fun _ => default } 1200
    lastTime := 0
    readings := 0 }

private def steadyClock : Nat → Int := fun reading => 1000 + 40 * min reading 1000

private theorem steadyClock_reads : ClockReads steadyClock := by
  intro reading
  simp only [steadyClock]
  omega

theorem keepsTime_iff_sliced :
    let source := Source.ofBytes (write slicedStream)
    ∃ results, SendsFrames steadyClock idleSender [source] results ∧
      KeepsTime steadyClock idleSender { timestamp := 7 } results := by
  intro source
  have startCodes : ∀ other, other ∈ [source] →
      [0, 0, 1] <:+: read other.src 0 other.srcLen := by
    intro other member
    have held : read source.src 0 source.srcLen = write slicedStream := read_ofBytes _
    rw [List.mem_singleton.mp member, held]
    exact ⟨[0], _, rfl⟩
  obtain ⟨⟨results, run⟩, keepsIff⟩ := keepsTime_iff steadyClock_reads
    (by decide : ({ timestamp := 7 } : RTPPacketBuilder).timestamp < 4294967296)
    (rfl : idleSender.lastTime = 0) rfl rfl startCodes
  exact ⟨results, run, (keepsIff results run).mpr (Nat.le_refl 1)⟩

/-- Two frames of one NAL unit each, forty milliseconds apart. -/
theorem keepsTime_fails :
    let source := Source.ofBytes [0, 0, 1, 9]
    ∃ results, SendsFrames steadyClock idleSender [source, source] results ∧
      ¬ KeepsTime steadyClock idleSender { timestamp := 7 } results := by
  intro source
  have startCodes : ∀ other, other ∈ [source, source] →
      [0, 0, 1] <:+: read other.src 0 other.srcLen := by
    intro other member
    have same : other = source := by simpa using member
    rw [same]
    decide
  obtain ⟨results, run⟩ := exists_sendsFrames steadyClock
    (rfl : idleSender.h264Rtp.encapsulation.hasRTPFrames = false) rfl startCodes
  refine ⟨results, run, ?_⟩
  cases run with
  | cons sends rest =>
      cases rest with
      | cons sendsNext rest =>
          exact not_keepsTime steadyClock_reads (by decide) rfl sends (.cons sendsNext rest)

end RTPSender

end DShowCapture
