/-
Packet loss between the encoder object and the decoder object.
-/
import DShowCapture.LossyReceiver
import DShowCapture.RoundTrip
import Mathlib.Data.List.Sublists

namespace DShowCapture

open ByteMemory Logged AnnexB RFC6184 Chunks

/-- The bytes are NAL units that were sent, in order, each behind a start code. -/
def Intact (sent : List (List UInt8)) (output : List UInt8) : Prop :=
  ∃ nals : List (List UInt8), nals.Sublist sent ∧ output = byteStream nals

/-! ### What is shipped -/

theorem markLast_append {first second : List Payload} (someLeft : second ≠ []) :
    markLast true (first ++ second) = markLast false first ++ markLast true second := by
  induction first with
  | nil => rfl
  | cons payload rest ih =>
      rw [List.cons_append,
        Receiver.markLast_cons (List.append_ne_nil_of_right_ne_nil rest someLeft), ih]
      cases rest with
      | nil => rfl
      | cons next rest => rfl

theorem packets_ship {nals : List (List UInt8)} (sendable : Sendable nals) :
    (ship nals).map Shipped.packet = packetsOf nals := by
  have packets_shipNAL : ∀ nal marker, (shipNAL nal marker).map Shipped.packet =
      markLast marker (Carriage.ofNAL payloadLimit nal).payloads := by
    intro nal marker
    rw [shipNAL, List.map_map]
    exact List.map_id _
  rcases sendable with ⟨someNAL, types⟩
  induction nals with
  | nil => exact absurd rfl someNAL
  | cons nal nals ih =>
      cases nals with
      | nil =>
          rw [ship, packets_shipNAL, packetsOf, payloadsOf, List.map_singleton,
            List.flatMap_singleton]
      | cons next nals =>
          have later : Sendable (next :: nals) :=
            { someNAL := List.cons_ne_nil next nals
              types := fun other member => types other (List.mem_cons_of_mem nal member) }
          rw [ship, List.map_append, packets_shipNAL, ih later.someNAL later.types, packetsOf,
            packetsOf, ← markLast_append later.payloads_ne_nil]
          rfl

/-- A careful run, as far as the assembly decides about it: for each packet shipped whether it
arrives. -/
def Assembly.CarefulRun : Assembly → Bool → List Shipped → List Bool → Prop
  | self, _, _ :: shipped, false :: arrive => self.CarefulRun true shipped arrive
  | self, gap, packet :: shipped, true :: arrive =>
      Careful self.openFragments self.size gap packet ∧
        (self.after packet.packet).CarefulRun false shipped arrive
  | _, _, _, _ => True

/-! ### The decoder object -/

namespace CH264DecodeRtp

/-- A careful run of the decoder object: for each packet shipped there is the call that
receives it, or nothing when it is lost. -/
def CarefulRun : CH264DecodeRtp → Bool → List Shipped → List (Option DecodeCall) → Prop
  | self, _, _ :: shipped, none :: fates => self.CarefulRun true shipped fates
  | self, gap, packet :: shipped, some call :: fates =>
      Careful self.fullFrame.currentFU self.fullFrame.encodedFrameLen gap packet ∧
        (call.decode self).self.CarefulRun false shipped fates
  | _, _, _, _ => True

/-- A careful run of the decoder object is one of the receiver. -/
theorem lossyRuns_of_carefulRun {decoder : CH264DecodeRtp} {receiver : Receiver}
    (represents : decoder.Represents receiver) {gap : Bool} {shipped : List Shipped}
    {fates : List (Option DecodeCall)}
    (received : List.Forall₂ (fun packet fate => ∀ call, fate = some call →
      Receives call (Shipped.packet packet)) shipped fates)
    (careful : decoder.CarefulRun gap shipped fates) :
    ∃ outcomes, receiver.LossyRuns gap shipped outcomes ∧
      ShowsAll fates.reduceOption (decoder.decodeAll fates.reduceOption).1 outcomes := by
  induction received generalizing decoder receiver gap with
  | nil => exact ⟨[], .nil receiver gap, trivial⟩
  | @cons packet fate shipped fates here later ih =>
      cases fate with
      | none =>
          obtain ⟨outcomes, runs, shows⟩ := ih represents careful
          exact ⟨outcomes, .lost runs, shows⟩
      | some call =>
          obtain ⟨key, stepped, showsHere, _⟩ := decodeFrames_refines represents (here call rfl)
          obtain ⟨outcomes, runs, shows⟩ := ih stepped careful.2
          have carefulHere := careful.1
          rw [represents.frame.counter, represents.frame.length] at carefulHere
          refine ⟨_, .received key carefulHere runs, ?_⟩
          exact ⟨showsHere, shows⟩

/-- A run of the decoder object is careful when that of the assembly is. -/
theorem carefulRun_iff {decoder : CH264DecodeRtp} {receiver : Receiver}
    (represents : decoder.Represents receiver) {gap : Bool} {shipped : List Shipped}
    {fates : List (Option DecodeCall)}
    (received : List.Forall₂ (fun packet fate => ∀ call, fate = some call →
      Receives call (Shipped.packet packet)) shipped fates) :
    decoder.CarefulRun gap shipped fates ↔
      receiver.assembly.CarefulRun gap shipped (fates.map Option.isSome) := by
  induction received generalizing decoder receiver gap with
  | nil => exact Iff.rfl
  | @cons packet fate shipped fates here later ih =>
      cases fate with
      | none => exact ih represents
      | some call =>
          obtain ⟨key, stepped, _, _⟩ := decodeFrames_refines represents (here call rfl)
          have behind := @ih _ _ stepped false
          rw [Receiver.assembly_step] at behind
          rw [CarefulRun, represents.frame.counter, represents.frame.length]
          exact and_congr_right fun _ => behind

theorem ShowsAll.exists_outcome {calls : List DecodeCall} {results : List DecodeResult}
    {outcomes : List Outcome} (shows : ShowsAll calls results outcomes) {result : DecodeResult}
    (member : result ∈ results) :
    ∃ call outcome, outcome ∈ outcomes ∧ Outcome.Shows (DecodeCall.args call) result outcome := by
  fun_induction ShowsAll calls results outcomes with
  | case1 => exact absurd member List.not_mem_nil
  | case2 call calls head results outcome outcomes ih =>
      rcases List.mem_cons.mp member with rfl | inside
      · exact ⟨call, outcome, List.mem_cons_self, shows.1⟩
      · obtain ⟨other, found, foundMember, showsFound⟩ := ih shows.2 inside
        exact ⟨other, found, List.mem_cons_of_mem outcome foundMember, showsFound⟩
  | case3 => exact shows.elim

theorem ShowsAll.exists_result {calls : List DecodeCall} {results : List DecodeResult}
    {outcomes : List Outcome} (shows : ShowsAll calls results outcomes) {outcome : Outcome}
    (member : outcome ∈ outcomes) :
    ∃ call result, result ∈ results ∧ Outcome.Shows (DecodeCall.args call) result outcome := by
  fun_induction ShowsAll calls results outcomes with
  | case1 => exact absurd member List.not_mem_nil
  | case2 call calls result results head outcomes ih =>
      rcases List.mem_cons.mp member with rfl | inside
      · exact ⟨call, result, List.mem_cons_self, shows.1⟩
      · obtain ⟨other, found, foundMember, showsFound⟩ := ih shows.2 inside
        exact ⟨other, found, List.mem_cons_of_mem result foundMember, showsFound⟩
  | case3 => exact shows.elim

end CH264DecodeRtp

def Arrives (result : CH264EncodeRtp.EncodeResult) (fate : Option DecodeCall) : Prop :=
  ∀ call, fate = some call → Forwards result call

theorem receives_of_arrives {results : List CH264EncodeRtp.EncodeResult}
    {shipped : List Shipped} {fates : List (Option DecodeCall)}
    (carries : List.Forall₂ CH264EncodeRtp.Carries results (shipped.map Shipped.packet))
    (arrives : List.Forall₂ Arrives results fates)
    (sent : ∀ packet, packet ∈ shipped.map Shipped.packet → packet.Sent) :
    List.Forall₂ (fun packet fate => ∀ call, fate = some call →
      CH264DecodeRtp.Receives call (Shipped.packet packet)) shipped fates := by
  induction shipped generalizing results fates with
  | nil =>
      cases carries
      cases arrives
      exact .nil
  | cons packet shipped ih =>
      cases carries with
      | cons carried carriedLater =>
          cases arrives with
          | cons arrived arrivedLater =>
              refine .cons ?_ (ih carriedLater arrivedLater fun other member =>
                sent other (List.mem_cons_of_mem _ member))
              intro call isCall
              exact (arrived call isCall).receives carried (sent _ List.mem_cons_self)

theorem sendable_of_stages {sources : List Source} {units : List (List (List UInt8))}
    (stages : List.Forall₂ Source.Stages sources units) :
    ∀ nals, nals ∈ units → Sendable nals := by
  induction stages with
  | nil => exact fun _ member => absurd member List.not_mem_nil
  | cons here later ih =>
      intro nals member
      rcases List.mem_cons.mp member with rfl | inside
      · exact here.sendable
      · exact ih nals inside

/-! ### Three fragments -/

theorem ofNAL_threeFragments :
    Carriage.ofNAL payloadLimit threeFragments =
      .fragments 0x65 [List.replicate 1198 0x88, List.replicate 1198 0x88,
        List.replicate 4 0x88] := by
  have cut : chunks 1198 (List.replicate 2400 (0x88 : UInt8)) =
      [List.replicate 1198 0x88, List.replicate 1198 0x88, List.replicate 4 0x88] := by
    rw [chunks_of_lt (by decide) (by rw [List.length_replicate]; decide), List.take_replicate,
      List.drop_replicate, chunks_of_lt (by decide) (by rw [List.length_replicate]; decide),
      List.take_replicate, List.drop_replicate,
      chunks_of_le (by rw [List.length_replicate]; decide)]
    rfl
  have long : ¬ (List.replicate 2400 (0x88 : UInt8)).length + 1 ≤ payloadLimit := by
    rw [List.length_replicate]
    decide
  rw [threeFragments, Carriage.ofNAL, if_neg long]
  exact congrArg _ cut

theorem payloads_slicedUnit :
    payloadsOf slicedUnit.nals =
      [.single 0x67 [0x42],
        .fragment 0x7c 0x85 (List.replicate 1198 0x88),
        .fragment 0x7c 0x05 (List.replicate 1198 0x88),
        .fragment 0x7c 0x45 (List.replicate 4 0x88)] := by
  show payloadsOf [[0x67, 0x42], threeFragments] = _
  rw [payloadsOf, List.map_cons, List.map_singleton, ofNAL_threeFragments]
  rfl

def shippedUnits : List Shipped :=
  [{ packet := { payload := .single 0x67 [0x42], marker := false }, nal := [0x67, 0x42] },
    { packet := { payload := .single 0x68 [0xce], marker := true }, nal := [0x68, 0xce] },
    { packet := { payload := .single 0x67 [0x42], marker := false }, nal := [0x67, 0x42] },
    { packet :=
        { payload := .fragment 0x7c 0x85 (List.replicate 1198 0x88), marker := false }
      nal := threeFragments },
    { packet :=
        { payload := .fragment 0x7c 0x05 (List.replicate 1198 0x88), marker := false }
      nal := threeFragments },
    { packet := { payload := .fragment 0x7c 0x45 (List.replicate 4 0x88), marker := true }
      nal := threeFragments }]

theorem flatMap_ship_units :
    [parameterSetsUnit.nals, slicedUnit.nals].flatMap ship = shippedUnits := by
  have slice : ship slicedUnit.nals = shipNAL [0x67, 0x42] false ++ shipNAL threeFragments true :=
    rfl
  rw [List.flatMap_cons, List.flatMap_singleton, slice, shipNAL, shipNAL, ofNAL_threeFragments]
  rfl

theorem carefulRun_shippedUnits :
    Assembly.empty.CarefulRun false shippedUnits [true, false, true, true, true, true] := by
  have noGap : ∀ {openFragments size : Nat} {shipped : Shipped},
      shipped.packet.payload.BeginsFragments = false →
        Careful openFragments size false shipped := by
    intro openFragments size shipped others
    refine { gapless := fun isGap => absurd isGap (by decide), room := fun _ begins => ?_ }
    rw [others] at begins
    cases begins
  refine ⟨noGap rfl, ⟨fun _ => rfl, fun _ begins => absurd begins (by decide)⟩,
    ⟨fun isGap => absurd isGap (by decide), fun _ _ => ?_⟩, noGap (by decide), noGap (by decide),
    trivial⟩
  have room : RoomFor 12 threeFragments := by
    left
    rw [threeFragments, List.length_cons, List.length_replicate]
    decide
  exact room

theorem flatten_replicates (byte : UInt8) (counts : List Nat) :
    (counts.map fun count => List.replicate count byte).flatten =
      List.replicate counts.sum byte := by
  induction counts with
  | nil => rfl
  | cons count counts ih =>
      rw [List.map_cons, List.flatten_cons, ih, List.replicate_append_replicate, List.sum_cons]

/-- Fragments that fit are assembled to a slice. -/
theorem receiveAll_slice (front : List (List UInt8)) {counts : List Nat} {total : Nat}
    (several : 2 ≤ counts.length) (few : counts.length ≤ 65535) (positive : 0 ∉ counts)
    (sum : counts.sum = total) (room : streamSize front + total + 5 ≤ maxFrameSize) :
    Assembly.receiveAll { nals := front, openFragments := 0 }
        (fragmentPayloads 0x65 true (counts.map fun count => List.replicate count 0x88)) =
      some { nals := front ++ [0x65 :: List.replicate total 0x88], openFragments := 0 } := by
  subst sum
  let slice : Carriage := .fragments 0x65 (counts.map fun count => List.replicate count 0x88)
  have legal : slice.Legal := by
    refine ⟨by rw [List.length_map]; exact several, by rw [List.length_map]; exact few, ?_⟩
    intro body member isEmpty
    obtain ⟨count, countMember, rfl⟩ := List.mem_map.mp member
    rw [List.replicate_eq_nil_iff] at isEmpty
    exact positive (isEmpty ▸ countMember)
  have nalsEq : slice.nals = [0x65 :: List.replicate counts.sum 0x88] :=
    congrArg (fun bytes => [0x65 :: bytes]) (flatten_replicates 0x88 counts)
  have legalAll : ∀ carriage, carriage ∈ [slice] → carriage.Legal := by
    intro carriage member
    rw [List.mem_singleton.mp member]
    exact legal
  have received := Assembly.receiveAll_carriages legalAll front (by
    rw [List.flatMap_singleton, nalsEq, streamSize_append, streamSize_cons, streamSize_nil,
      List.length_cons, List.length_replicate]
    omega)
  rw [List.flatMap_singleton, List.flatMap_singleton, nalsEq] at received
  exact received

/-- Behind the first parameter set the receiver assembles the second access unit. -/
theorem receiveAll_lostMarker :
    Assembly.empty.receiveAll
        [.single 0x67 [0x42], .single 0x67 [0x42],
          .fragment 0x7c 0x85 (List.replicate 1198 0x88),
          .fragment 0x7c 0x05 (List.replicate 1198 0x88),
          .fragment 0x7c 0x45 (List.replicate 4 0x88)] =
      some { nals := [[0x67, 0x42], [0x67, 0x42], threeFragments], openFragments := 0 } := by
  have begun : ∀ payloads, Assembly.empty.receiveAll
      (.single 0x67 [0x42] :: .single 0x67 [0x42] :: payloads) =
        Assembly.receiveAll { nals := [[0x67, 0x42], [0x67, 0x42]], openFragments := 0 } payloads :=
    fun _ => rfl
  have pieces : ∀ first second third, fragmentPayloads 0x65 true [first, second, third] =
      [.fragment 0x7c 0x85 first, .fragment 0x7c 0x05 second, .fragment 0x7c 0x45 third] :=
    fun _ _ _ => rfl
  rw [begun, ← pieces]
  have slice := receiveAll_slice [[0x67, 0x42], [0x67, 0x42]]
    (by decide : 2 ≤ [1198, 1198, 4].length) (by decide) (by decide)
    (by decide : [1198, 1198, 4].sum = 2400) (by decide)
  exact slice

/-- Packets that make up whole NAL units are handed over by a fresh decoder object. -/
theorem CH264DecodeRtp.exists_delivered {results : List CH264EncodeRtp.EncodeResult}
    {payloads : List Payload} {nals : List (List UInt8)} (someLeft : payloads ≠ [])
    (carries : List.Forall₂ CH264EncodeRtp.Carries results (markLast true payloads))
    (sent : ∀ packet, packet ∈ markLast true payloads → packet.Sent)
    (received : Assembly.empty.receiveAll payloads = some { nals := nals, openFragments := 0 })
    (begins : ∃ nal others, nals = nal :: others ∧ nal.headD 0 &&& 0x1f = 7)
    (args : DecodeArgs) :
    ∃ result,
      result ∈ ((new (fun _ => 0) default 0 0).decodeAll (results.map (forward args))).1 ∧
        result.returned = true ∧ result.args.flags.lastFrame = true ∧
        result.output = byteStream nals := by
  have forwards : List.Forall₂ Forwards results (results.map (forward args)) := by
    rw [List.forall₂_map_right_iff, List.forall₂_same]
    exact fun result _ => forwards_forward args result
  have receives := receives_of_forwards carries forwards sent
  obtain ⟨outcomes, final, run, _, shows⟩ := decodeAll_refines
    (represents_new (fun _ => 0) default 0 0) receives
  rw [← List.append_nil (markLast true _)] at run
  rcases begins with ⟨nal, others, nalsEq, sps⟩
  obtain ⟨later, outcomesEq, runsLater⟩ := Receiver.Runs.accessUnit someLeft
    run received (by rw [nalsEq]; exact List.cons_ne_nil nal others)
    (Or.inr ⟨nal, others, nalsEq, sps⟩)
  have delivered : .delivered nals ∈ outcomes := by
    rw [outcomesEq]
    exact List.mem_append_right _ List.mem_cons_self
  obtain ⟨call, result, member, showsHere⟩ := shows.exists_result delivered
  exact ⟨result, member, showsHere.1, showsHere.2.1, showsHere.2.2.2⟩

/-- However many packets are lost, everything that a fresh decoder object hands over is
intact, provided that no packet is lost while a fragmented NAL unit is open, and that
fragmented NAL units are begun only with room for them. -/
theorem decodeAll_intact (encoderFrame decoderFrame : Memory) (encoderNALs decoderNALs :
    Nat → NALU) (width height : Int) {sources : List Source}
    {units : List (List (List UInt8))} (stages : List.Forall₂ Source.Stages sources units) :
    let encoder := CH264EncodeRtp.setMaxRTPFrameSize
      { encapsulation := H264Frame.new encoderFrame encoderNALs } 1200
    let decoder := CH264DecodeRtp.new decoderFrame decoderNALs width height
    ∃ groups enough,
      (∀ calls, enough ≤ calls → encoder.encodeAll calls sources = some groups) ∧
        ∀ fates, List.Forall₂ Arrives groups.flatten fates →
          decoder.CarefulRun false (units.flatMap ship) fates →
            ∀ result, result ∈ (decoder.decodeAll fates.reduceOption).1 →
              result.returned = true → Intact units.flatten result.output := by
  intro encoder decoder
  have sendable := sendable_of_stages stages
  obtain ⟨groups, enough, runs, carries⟩ := CH264EncodeRtp.encodeAll_of_stages
    (CH264EncodeRtp.drained_new encoderFrame encoderNALs) stages
  refine ⟨groups, enough, runs, ?_⟩
  intro fates arrives careful result member returned
  have packetsEq : (units.flatMap ship).map Shipped.packet = units.flatMap packetsOf := by
    rw [List.map_flatMap]
    exact List.flatMap_congr fun nals member => packets_ship (sendable nals member)
  have carriesAll : List.Forall₂ CH264EncodeRtp.Carries groups.flatten
      ((units.flatMap ship).map Shipped.packet) := by
    rw [packetsEq, List.flatMap_def]
    exact List.rel_flatten carries
  have received := receives_of_arrives carriesAll arrives (by
    intro packet packetMember
    rw [packetsEq] at packetMember
    exact Packet.sent_of_mem sendable packetMember)
  obtain ⟨outcomes, lossyRuns, shows⟩ := CH264DecodeRtp.lossyRuns_of_carefulRun
    (CH264DecodeRtp.represents_new decoderFrame decoderNALs width height) received careful
  obtain ⟨call, outcome, outcomeMember, showsHere⟩ := shows.exists_outcome member
  have output := showsHere.output
  rw [if_pos returned] at output
  cases outcome with
  | delivered nals =>
      have held := lossyRuns.intact
        (fun unit unitMember nal nalMember => (sendable unit unitMember).nonempty nalMember)
        (.closed false rfl (List.Sublist.refl [])) outcomeMember
      rw [List.nil_append] at held
      exact ⟨nals, held, Option.some.inj output⟩
  | withheld => exact ⟨[], List.nil_sublist _, Option.some.inj output⟩
  | rejected => cases output
  | waiting => cases output
  | nothing => cases output

/-- The packet that completes the first access unit is lost, and its parameter set is handed over
with the three fragments of the second. -/
theorem decodeAll_intact_lostMarker :
    let args : DecodeArgs :=
      { dst := fun _ => 0, dstLen := 0, flags := CoderFlags.none, nWidth := 0, nHeight := 0 }
    let encoder := CH264EncodeRtp.setMaxRTPFrameSize
      { encapsulation := H264Frame.new (fun _ => 0) default } 1200
    let decoder := CH264DecodeRtp.new (fun _ => 0) default 0 0
    ∃ groups enough,
      (∀ calls, enough ≤ calls → encoder.encodeAll calls
        [Source.ofBytes parameterSetsUnit.bytes, Source.ofBytes slicedUnit.bytes] =
          some groups) ∧
      let fates := groups.flatten.mapIdx fun index result =>
        if index = 1 then none else some (forward args result)
      (∀ result, result ∈ (decoder.decodeAll fates.reduceOption).1 → result.returned = true →
        Intact [[0x67, 0x42], [0x68, 0xce], [0x67, 0x42], threeFragments] result.output) ∧
      ∃ result, result ∈ (decoder.decodeAll fates.reduceOption).1 ∧ result.returned = true ∧
        result.output = byteStream [[0x67, 0x42], [0x67, 0x42], threeFragments] := by
  intro args encoder decoder
  have stages : List.Forall₂ Source.Stages
      [Source.ofBytes parameterSetsUnit.bytes, Source.ofBytes slicedUnit.bytes]
      [parameterSetsUnit.nals, slicedUnit.nals] :=
    .cons (Source.holds_ofBytes parameterSetsUnit).stages
      (.cons (Source.holds_ofBytes slicedUnit).stages .nil)
  obtain ⟨groups, enough, runs, intact⟩ := decodeAll_intact (fun _ => 0) (fun _ => 0)
    default default 0 0 stages
  refine ⟨groups, enough, runs, ?_⟩
  obtain ⟨others, enoughOthers, runsOthers, carries⟩ := CH264EncodeRtp.encodeAll_of_stages
    (CH264EncodeRtp.drained_new (fun _ => 0) default) stages
  have same : others = groups := Option.some.inj
    ((runsOthers (max enough enoughOthers) (Nat.le_max_right _ _)).symm.trans
      (runs _ (Nat.le_max_left _ _)))
  rw [same] at carries
  have carriesAll := List.rel_flatten carries
  have packetsEq : ([parameterSetsUnit.nals, slicedUnit.nals].map packetsOf).flatten =
      [parameterSetsUnit.nals, slicedUnit.nals].flatMap packetsOf := List.flatMap_def.symm
  have sent : ∀ packet, packet ∈ ([parameterSetsUnit.nals, slicedUnit.nals].map packetsOf).flatten →
      packet.Sent := by
    rw [packetsEq]
    exact fun packet => Packet.sent_of_mem (sendable_of_stages stages)
  have shape : ([parameterSetsUnit.nals, slicedUnit.nals].map packetsOf).flatten =
      shippedUnits.map Shipped.packet := by
    rw [List.map_cons, List.map_singleton, packetsOf, packetsOf, payloads_slicedUnit]
    rfl
  rw [shape] at carriesAll sent
  generalize groups.flatten = results at carriesAll intact ⊢
  obtain ⟨one, _, carriesOne, behindOne, rfl⟩ := List.forall₂_cons_right_iff.mp carriesAll
  obtain ⟨two, _, carriesTwo, behindTwo, rfl⟩ := List.forall₂_cons_right_iff.mp behindOne
  obtain ⟨three, _, carriesThree, behindThree, rfl⟩ := List.forall₂_cons_right_iff.mp behindTwo
  obtain ⟨four, _, carriesFour, behindFour, rfl⟩ := List.forall₂_cons_right_iff.mp behindThree
  obtain ⟨five, _, carriesFive, behindFive, rfl⟩ := List.forall₂_cons_right_iff.mp behindFour
  obtain ⟨six, _, carriesSix, behindSix, rfl⟩ := List.forall₂_cons_right_iff.mp behindFive
  cases behindSix
  have arrives : List.Forall₂ Arrives [one, two, three, four, five, six]
      [some (forward args one), none, some (forward args three), some (forward args four),
        some (forward args five), some (forward args six)] := by
    have forwarded : ∀ result, Arrives result (some (forward args result)) := by
      rintro result call ⟨⟩
      exact forwards_forward args result
    have lost : Arrives two none := by
      rintro call ⟨⟩
    exact .cons (forwarded one) (.cons lost (.cons (forwarded three) (.cons (forwarded four)
      (.cons (forwarded five) (.cons (forwarded six) .nil)))))
  have received := receives_of_arrives carriesAll arrives sent
  have careful := (CH264DecodeRtp.carefulRun_iff
    (CH264DecodeRtp.represents_new (fun _ => 0) default 0 0) received).mpr carefulRun_shippedUnits
  constructor
  · rw [← flatMap_ship_units] at careful
    exact intact _ arrives careful
  · have kept : (shippedUnits.map Shipped.packet).eraseIdx 1 =
        markLast true [.single 0x67 [0x42], .single 0x67 [0x42],
          .fragment 0x7c 0x85 (List.replicate 1198 0x88),
          .fragment 0x7c 0x05 (List.replicate 1198 0x88),
          .fragment 0x7c 0x45 (List.replicate 4 0x88)] := rfl
    have sentKept : ∀ packet, packet ∈ (shippedUnits.map Shipped.packet).eraseIdx 1 →
        packet.Sent :=
      fun packet member => sent packet ((List.eraseIdx_sublist _ 1).subset member)
    rw [kept] at sentKept
    obtain ⟨result, member, returned, _, output⟩ := CH264DecodeRtp.exists_delivered
      (List.cons_ne_nil _ _) (.cons carriesOne (.cons carriesThree (.cons carriesFour
        (.cons carriesFive (.cons carriesSix .nil))))) sentKept
      receiveAll_lostMarker ⟨_, _, rfl, by decide⟩ args
    exact ⟨result, member, returned, output⟩

/-! ### A lost fragment -/

/-- Without the fragment in the middle the receiver assembles a slice with a hole. -/
theorem receiveAll_hole :
    Assembly.empty.receiveAll
        [.single 0x67 [0x42], .fragment 0x7c 0x85 (List.replicate 1198 0x88),
          .fragment 0x7c 0x45 (List.replicate 4 0x88)] =
      some
        { nals := [[0x67, 0x42], 0x65 :: List.replicate 1202 0x88], openFragments := 0 } := by
  have begun : ∀ payloads, Assembly.empty.receiveAll (.single 0x67 [0x42] :: payloads) =
      Assembly.receiveAll { nals := [[0x67, 0x42]], openFragments := 0 } payloads := fun _ => rfl
  have pieces : ∀ first last, fragmentPayloads 0x65 true [first, last] =
      [.fragment 0x7c 0x85 first, .fragment 0x7c 0x45 last] := fun _ _ => rfl
  rw [begun, ← pieces]
  have slice := receiveAll_slice [[0x67, 0x42]] (by decide : 2 ≤ [1198, 4].length) (by decide)
    (by decide) (by decide : [1198, 4].sum = 1202) (by decide)
  exact slice

theorem not_intact_hole :
    ¬ Intact slicedUnit.nals (byteStream [[0x67, 0x42], 0x65 :: List.replicate 1202 0x88]) := by
  rintro ⟨nals, isSublist, outputEq⟩
  have lengths := congrArg List.length outputEq
  rw [length_byteStream_eq, length_byteStream_eq] at lengths
  have member := List.mem_sublists.mpr isSublist
  have possible : nals ∈ [[], [[0x67, 0x42]], [threeFragments], [[0x67, 0x42], threeFragments]] :=
    member
  simp only [streamSize_cons, streamSize_nil, List.length_cons, List.length_nil,
    List.length_replicate] at lengths
  have sizes : streamSize nals ∈ [0, 6, 2405, 2411] := by
    have mapped := List.mem_map_of_mem (f := streamSize) possible
    simpa only [List.map_cons, List.map_nil, streamSize_cons, streamSize_nil, threeFragments,
      List.length_cons, List.length_replicate, List.length_nil] using mapped
  rw [← lengths] at sizes
  exact absurd sizes (by decide)

theorem decodeAll_withoutThird {accessUnit : AccessUnit} {first second third fourth : Payload}
    (shape : payloadsOf accessUnit.nals = [first, second, third, fourth])
    {nals : List (List UInt8)}
    (received : Assembly.empty.receiveAll [first, second, fourth] =
      some { nals := nals, openFragments := 0 })
    (begins : ∃ nal others, nals = nal :: others ∧ nal.headD 0 &&& 0x1f = 7)
    (args : DecodeArgs) :
    let encoder := CH264EncodeRtp.setMaxRTPFrameSize
      { encapsulation := H264Frame.new (fun _ => 0) default } 1200
    let decoder := CH264DecodeRtp.new (fun _ => 0) default 0 0
    ∃ groups enough,
      (∀ calls, enough ≤ calls →
        encoder.encodeAll calls [Source.ofBytes accessUnit.bytes] = some groups) ∧
      ∃ result,
        result ∈ (decoder.decodeAll ((groups.flatten.eraseIdx 2).map (forward args))).1 ∧
          result.returned = true ∧ result.args.flags.lastFrame = true ∧
          result.output = byteStream nals := by
  intro encoder decoder
  obtain ⟨groups, enough, runs, carries⟩ := CH264EncodeRtp.encodeAll_of_stages
    (CH264EncodeRtp.drained_new (fun _ => 0) default)
    (.cons (Source.holds_ofBytes accessUnit).stages .nil)
  refine ⟨groups, enough, runs, ?_⟩
  have carriesAll := List.rel_flatten carries
  have sent : ∀ packet, packet ∈ packetsOf accessUnit.nals → packet.Sent := fun packet member =>
    ⟨_, accessUnit.sendable, payload_of_mem_markLast member⟩
  rw [List.map_singleton, List.flatten_singleton, packetsOf, shape] at carriesAll
  rw [packetsOf, shape] at sent
  generalize groups.flatten = results at carriesAll ⊢
  obtain ⟨one, _, carriesOne, behindOne, rfl⟩ := List.forall₂_cons_right_iff.mp carriesAll
  obtain ⟨two, _, carriesTwo, behindTwo, rfl⟩ := List.forall₂_cons_right_iff.mp behindOne
  obtain ⟨three, _, _, behindThree, rfl⟩ := List.forall₂_cons_right_iff.mp behindTwo
  obtain ⟨four, _, carriesFour, behindFour, rfl⟩ := List.forall₂_cons_right_iff.mp behindThree
  cases behindFour
  have sentKept : ∀ packet, packet ∈ markLast true [first, second, fourth] → packet.Sent :=
    fun packet member => sent packet ((List.eraseIdx_sublist _ 2).subset member)
  exact CH264DecodeRtp.exists_delivered (List.cons_ne_nil _ _)
    (.cons carriesOne (.cons carriesTwo (.cons carriesFour .nil))) sentKept received begins args

/-- A fragment in the middle is lost, and the access unit is handed over nevertheless. -/
theorem decodeAll_damaged :
    let args : DecodeArgs :=
      { dst := fun _ => 0, dstLen := 0, flags := CoderFlags.none, nWidth := 0, nHeight := 0 }
    let encoder := CH264EncodeRtp.setMaxRTPFrameSize
      { encapsulation := H264Frame.new (fun _ => 0) default } 1200
    let decoder := CH264DecodeRtp.new (fun _ => 0) default 0 0
    ∃ groups enough,
      (∀ calls, enough ≤ calls →
        encoder.encodeAll calls [Source.ofBytes slicedUnit.bytes] = some groups) ∧
      ∃ result,
        result ∈ (decoder.decodeAll ((groups.flatten.eraseIdx 2).map (forward args))).1 ∧
          result.returned = true ∧ result.args.flags.lastFrame = true ∧
          ¬ Intact slicedUnit.nals result.output := by
  intro args encoder decoder
  obtain ⟨groups, enough, runs, result, member, returned, flagged, output⟩ :=
    decodeAll_withoutThird payloads_slicedUnit receiveAll_hole ⟨_, _, rfl, by decide⟩ args
  refine ⟨groups, enough, runs, result, member, returned, flagged, ?_⟩
  rw [output]
  exact not_intact_hole

end DShowCapture
