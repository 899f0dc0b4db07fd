/-
From the access units of the sender to those of the receiver.
-/
import DShowCapture.OffsetArray
import DShowCapture.Sending

namespace DShowCapture

open ByteMemory Logged AnnexB

structure Source.Holds (source : Source) (accessUnit : AccessUnit) : Prop where
  length : source.srcLen = accessUnit.bytes.length
  held : read source.src 0 accessUnit.bytes.length = accessUnit.bytes

theorem Source.holds_ofBytes (accessUnit : AccessUnit) :
    (Source.ofBytes accessUnit.bytes).Holds accessUnit :=
  { length := rfl, held := read_ofBytes accessUnit.bytes }

theorem Source.Holds.stages {source : Source} {accessUnit : AccessUnit}
    (holds : source.Holds accessUnit) : source.Stages accessUnit.nals := by
  have few := accessUnit.few
  have small := accessUnit.length_bytes_le
  unfold maxFrameSize at small
  refine { small := ?_, found := ?_, sendable := accessUnit.sendable }
  · rw [holds.length]
    omega
  · rw [stagedUnits, holds.length, holds.held, accessUnit.units_bytes]
    apply List.take_of_length_le
    rw [AccessUnit.nals, List.length_map]
    exact few

namespace AccessUnit

def BeginsWithSPS (self : AccessUnit) : Prop :=
  ∃ nal others, self.nals = nal :: others ∧ nal.headD 0 &&& 0x1f = 7

def packets (self : AccessUnit) : List Packet := packetsOf self.nals

def outcomes (self : AccessUnit) : List Outcome :=
  List.replicate ((payloadsOf self.nals).length - 1) .waiting ++ [.delivered self.nals]

end AccessUnit

/-- The frames that the packets complete are the access units. -/
theorem Assembly.completed_accessUnits (accessUnits : List AccessUnit) :
    Assembly.empty.completed (accessUnits.flatMap AccessUnit.packets) =
      accessUnits.map AccessUnit.nals := by
  induction accessUnits with
  | nil => rfl
  | cons accessUnit rest ih =>
      rw [List.flatMap_cons, AccessUnit.packets, packetsOf,
        Assembly.completed_markLast accessUnit.sendable.payloads_ne_nil
          accessUnit.receiveAll_payloads, ih, List.map_cons]

/-- A receiver between two access units hands over all that follow. -/
theorem Receiver.Runs.accessUnits {haveKey : Bool} {final : Receiver}
    {accessUnits : List AccessUnit} {outcomes : List Outcome}
    (runs : Runs { assembly := Assembly.empty, haveKey := haveKey }
      (accessUnits.flatMap AccessUnit.packets) outcomes final)
    (opens : haveKey = true ∨
      ∀ accessUnit rest, accessUnits = accessUnit :: rest → accessUnit.BeginsWithSPS) :
    outcomes = accessUnits.flatMap AccessUnit.outcomes := by
  induction accessUnits generalizing haveKey outcomes with
  | nil =>
      cases runs
      rfl
  | cons accessUnit rest ih =>
      rw [List.flatMap_cons] at runs
      obtain ⟨later, outcomesEq, runsLater⟩ := Runs.accessUnit
        accessUnit.sendable.payloads_ne_nil runs accessUnit.receiveAll_payloads
        accessUnit.sendable.someNAL (opens.imp id fun begins => begins accessUnit rest rfl)
      rw [outcomesEq, ih runsLater (Or.inl rfl), List.flatMap_cons, AccessUnit.outcomes,
        List.append_assoc, List.singleton_append]

def lastOnly (count : Nat) : List Bool := List.replicate (count - 1) false ++ [true]

theorem AccessUnit.returned_outcomes (self : AccessUnit) :
    self.outcomes.map Outcome.returned = lastOnly self.packets.length := by
  rw [outcomes, lastOnly, packets, packetsOf, length_markLast, List.map_append,
    List.map_replicate]
  rfl

theorem AccessUnit.output_outcomes (self : AccessUnit) :
    self.outcomes.filterMap Outcome.output = [byteStream self.nals] := by
  rw [outcomes, List.filterMap_append, List.filterMap_replicate_of_none rfl]
  rfl

theorem flatMap_lastOnly {groups : List (List CH264EncodeRtp.EncodeResult)}
    {packets : List (List Packet)}
    (carries : List.Forall₂ (List.Forall₂ CH264EncodeRtp.Carries) groups packets) :
    groups.flatMap (fun group => lastOnly group.length) =
      packets.flatMap (fun packets => lastOnly packets.length) := by
  induction carries with
  | nil => rfl
  | cons here later ih => rw [List.flatMap_cons, List.flatMap_cons, ih, here.length_eq]

/-- The decoder object hands out the access units, each with its last packet, and writes no
offset behind the array meanwhile. -/
structure CH264DecodeRtp.HandsOut (decoder : CH264DecodeRtp)
    (groups : List (List CH264EncodeRtp.EncodeResult)) (accessUnits : List AccessUnit)
    (calls : List DecodeCall) : Prop where
  inArray : decoder.StaysInArray calls
  returned : (decoder.decodeAll calls).1.map DecodeResult.returned =
    groups.flatMap fun group => lastOnly group.length
  output : ((decoder.decodeAll calls).1.filter DecodeResult.returned).map DecodeResult.output =
    accessUnits.map fun accessUnit => byteStream accessUnit.nals

/-- In each access unit the first parameter set that the search for a key frame comes to asks
for no more offsets than the array has entries. -/
def CyclesFit (accessUnits : List AccessUnit) : Prop :=
  ∀ accessUnit, accessUnit ∈ accessUnits → FirstCycleFits (byteStream accessUnit.nals)

section RoundTrip

variable (encoderFrame decoderFrame : Memory) (encoderNALs decoderNALs : Nat → NALU)
  (width height : Int) {accessUnits : List AccessUnit} {sources : List Source}

/-- The access units come out as they went in, and their parameter sets decide about the
array. -/
private theorem handsOut_encodeAll
    (begins : ∀ accessUnit rest, accessUnits = accessUnit :: rest → accessUnit.BeginsWithSPS)
    (holds : List.Forall₂ Source.Holds sources accessUnits) :
    let encoder := CH264EncodeRtp.setMaxRTPFrameSize
      { encapsulation := H264Frame.new encoderFrame encoderNALs } 1200
    let decoder := CH264DecodeRtp.new decoderFrame decoderNALs width height
    ∃ groups enough,
      (∀ calls, enough ≤ calls → encoder.encodeAll calls sources = some groups) ∧
        ∀ calls, List.Forall₂ Forwards groups.flatten calls →
          (decoder.HandsOut groups accessUnits calls ↔ CyclesFit accessUnits) := by
  intro encoder decoder
  have stages : List.Forall₂ Source.Stages sources (accessUnits.map AccessUnit.nals) := by
    rw [List.forall₂_map_right_iff]
    exact holds.imp fun _ _ here => here.stages
  obtain ⟨groups, enough, runs, carries⟩ := CH264EncodeRtp.encodeAll_of_stages
    (CH264EncodeRtp.drained_new encoderFrame encoderNALs) stages
  refine ⟨groups, enough, runs, ?_⟩
  intro calls forwards
  rw [List.map_map] at carries
  have carriesAll : List.Forall₂ CH264EncodeRtp.Carries groups.flatten
      (accessUnits.flatMap AccessUnit.packets) := by
    rw [List.flatMap_def]
    exact List.rel_flatten carries
  have receives := receives_of_forwards carriesAll forwards (by
    intro packet member
    obtain ⟨accessUnit, _, packetMember⟩ := List.mem_flatMap.mp member
    exact ⟨accessUnit.nals, accessUnit.sendable, payload_of_mem_markLast packetMember⟩)
  have fresh := CH264DecodeRtp.represents_new decoderFrame decoderNALs width height
  obtain ⟨outcomes, final, run, _, shows⟩ := CH264DecodeRtp.decodeAll_refines fresh receives
  have outcomesEq := Receiver.Runs.accessUnits run (Or.inr begins)
  have inArrayIff : decoder.StaysInArray calls ↔ CyclesFit accessUnits := by
    rw [CH264DecodeRtp.staysInArray_iff fresh receives, CyclesFit]
    change (∀ nals, nals ∈ Assembly.empty.completed _ → _) ↔ _
    rw [Assembly.completed_accessUnits, List.forall_mem_map]
  constructor
  · exact fun handsOut => inArrayIff.mp handsOut.inArray
  · intro fits
    refine { inArray := inArrayIff.mpr fits, returned := ?_, output := ?_ }
    · rw [shows.returned, outcomesEq, List.map_flatMap, flatMap_lastOnly carries,
        List.flatMap_map]
      exact List.flatMap_congr fun accessUnit _ => accessUnit.returned_outcomes
    · rw [shows.outputs, outcomesEq, List.filterMap_flatMap]
      simp only [AccessUnit.output_outcomes]
      rw [List.map_eq_flatMap]

/-- Access units that a fresh encoder object takes in, the first of which begins with a
sequence parameter set, come out of a fresh decoder object as they went in, each with its last
packet, exactly when their parameter sets ask for no more offsets than there is room for. -/
theorem decodeAll_encodeAll_iff
    (begins : ∀ accessUnit rest, accessUnits = accessUnit :: rest → accessUnit.BeginsWithSPS)
    (holds : List.Forall₂ Source.Holds sources accessUnits) :
    let encoder := CH264EncodeRtp.setMaxRTPFrameSize
      { encapsulation := H264Frame.new encoderFrame encoderNALs } 1200
    let decoder := CH264DecodeRtp.new decoderFrame decoderNALs width height
    (∃ groups enough,
      (∀ calls, enough ≤ calls → encoder.encodeAll calls sources = some groups) ∧
        ∀ calls, List.Forall₂ Forwards groups.flatten calls →
          decoder.HandsOut groups accessUnits calls) ↔
      CyclesFit accessUnits := by
  intro encoder decoder
  obtain ⟨groups, enough, runs, handsOutIff⟩ := handsOut_encodeAll encoderFrame decoderFrame
    encoderNALs decoderNALs width height begins holds
  constructor
  · rintro ⟨groups', enough', runs', handsOut⟩
    have same : groups' = groups := by
      have run := runs (max enough enough') (Nat.le_max_left _ _)
      rw [runs' (max enough enough') (Nat.le_max_right _ _)] at run
      exact Option.some.inj run
    rw [same] at handsOut
    let args : DecodeArgs :=
      { dst := fun _ => 0, dstLen := 0, flags := CoderFlags.none, nWidth := 0, nHeight := 0 }
    have forwards : List.Forall₂ Forwards groups.flatten (groups.flatten.map (forward args)) := by
      rw [List.forall₂_map_right_iff, List.forall₂_same]
      exact fun result _ => forwards_forward args result
    exact (handsOutIff _ forwards).mp (handsOut _ forwards)
  · intro fits
    exact ⟨groups, enough, runs, fun calls forwards => (handsOutIff calls forwards).mpr fits⟩

end RoundTrip

/-! ### Access units of the tests -/

def parameterSetsUnit : AccessUnit :=
  { parts := [(1, [0x67, 0x42]), (0, [0x68, 0xce])]
    nonempty := by decide
    few := by decide
    startCodes := by decide
    writable := by decide
    types := by decide
    fits := by decide }

def slicedUnit : AccessUnit :=
  { parts := [(1, [0x67, 0x42]), (1, threeFragments)]
    nonempty := by decide
    few := by decide
    startCodes := by decide
    writable := by
      intro part member
      rcases List.mem_cons.mp member with rfl | inside
      · decide
      · rw [List.mem_singleton.mp inside]
        exact writable_threeFragments
    types := by
      intro part member
      rcases List.mem_cons.mp member with rfl | inside
      · decide
      · rw [List.mem_singleton.mp inside]
        decide
    fits := by
      simp only [List.map_cons, List.map_nil, streamSize_cons, streamSize_nil, threeFragments,
        List.length_cons, List.length_replicate, List.length_nil]
      decide }

/-- Two access units: parameter sets behind start codes of both lengths, then a parameter set
and a slice of three fragments. -/
theorem decodeAll_encodeAll_iff_sliced :
    let encoder := CH264EncodeRtp.setMaxRTPFrameSize
      { encapsulation := H264Frame.new (fun _ => 0) default } 1200
    let decoder := CH264DecodeRtp.new (fun _ => 0) default 0 0
    ∃ groups enough,
      (∀ calls, enough ≤ calls → encoder.encodeAll calls
        [Source.ofBytes parameterSetsUnit.bytes, Source.ofBytes slicedUnit.bytes] =
          some groups) ∧
      ∀ calls, List.Forall₂ Forwards groups.flatten calls →
        ((decoder.decodeAll calls).1.filter DecodeResult.returned).map DecodeResult.output =
          [byteStream [[0x67, 0x42], [0x68, 0xce]], byteStream [[0x67, 0x42], threeFragments]] := by
  intro encoder decoder
  have begins : ∀ accessUnit rest, [parameterSetsUnit, slicedUnit] = accessUnit :: rest →
      accessUnit.BeginsWithSPS := by
    rintro accessUnit rest shape
    obtain ⟨rfl, rfl⟩ := List.cons.inj shape
    exact ⟨[0x67, 0x42], [[0x68, 0xce]], rfl, by decide⟩
  have fits : CyclesFit [parameterSetsUnit, slicedUnit] := by
    rw [CyclesFit, List.forall_mem_cons, List.forall_mem_singleton]
    refine ⟨by decide, (firstCycleFits_iff_of_begins ?_).mpr (by decide +kernel)⟩
    exact ⟨by decide, 0x67, by decide, ⟨_, rfl⟩⟩
  obtain ⟨groups, enough, runs, handsOut⟩ := (decodeAll_encodeAll_iff (fun _ => 0) (fun _ => 0)
    default default 0 0 begins (.cons (Source.holds_ofBytes parameterSetsUnit)
      (.cons (Source.holds_ofBytes slicedUnit) .nil))).mpr fits
  refine ⟨groups, enough, runs, fun calls forwards => ?_⟩
  rw [(handsOut calls forwards).output]
  rfl

def hostileUnit : AccessUnit :=
  { parts := [(1, [0x67, 0x42, 0, 0x1e, 0xd7, 0, 0x40, 0x10])]
    nonempty := by decide
    few := by decide
    startCodes := by decide
    writable := by decide
    types := by decide
    fits := by decide }

/-- It does not come out, however its packets travel. -/
theorem not_handsOut_hostileUnit :
    let encoder := CH264EncodeRtp.setMaxRTPFrameSize
      { encapsulation := H264Frame.new (fun _ => 0) default } 1200
    let decoder := CH264DecodeRtp.new (fun _ => 0) default 0 0
    ∃ groups enough,
      (∀ calls, enough ≤ calls → encoder.encodeAll calls [Source.ofBytes hostileUnit.bytes] =
        some groups) ∧
      ∀ calls, List.Forall₂ Forwards groups.flatten calls →
        ¬ decoder.HandsOut groups [hostileUnit] calls := by
  intro encoder decoder
  have begins : ∀ accessUnit rest, [hostileUnit] = accessUnit :: rest →
      accessUnit.BeginsWithSPS := by
    rintro accessUnit rest shape
    obtain ⟨rfl, rfl⟩ := List.cons.inj shape
    exact ⟨_, [], rfl, by decide⟩
  have overruns : ¬ CyclesFit [hostileUnit] := by
    intro fits
    exact absurd (fits hostileUnit List.mem_cons_self) (by decide)
  obtain ⟨groups, enough, runs, handsOutIff⟩ := handsOut_encodeAll (fun _ => 0) (fun _ => 0)
    default default 0 0 begins (.cons (Source.holds_ofBytes hostileUnit) .nil)
  refine ⟨groups, enough, runs, ?_⟩
  intro calls forwards handsOut
  exact overruns ((handsOutIff calls forwards).mp handsOut)

end DShowCapture
