/-
One NAL unit, packetised under two different limits.

A NAL unit within the limit is sent whole, and the receiver looks at its type; a longer
one is sent in fragments, and the receiver does not.  So the two receptions agree unless
the type is one that only fragments carry through.
-/
import DShowCapture.AccessUnit
import DShowCapture.H264Frame.Reception
import DShowCapture.H264Frame.Tiling
import DShowCapture.H264Frame.Transmission

namespace DShowCapture

open ByteMemory FixedWidth Logged AnnexB RFC6184 Chunks

namespace H264Frame

/-! ### The packets of a NAL unit -/

def Packetised (limit : Nat) (unit : List UInt8) (packets : List RTPFrame) : Prop :=
  ∃ (frame : H264Frame) (call : NALUArgs) (buffers : Nat → RTPFrame) (count : Nat)
    (results : List Encapsulated) (final : H264Frame),
    call.bytes = unit ∧
      (∀ call address, address < 12 → (buffers call).frame address = 0) ∧
      (∀ call, 12 + limit ≤ (buffers call).frameLen) ∧
      (((frame.setMaxPayloadSize limit).beginNewFrame 1).addNALUs [call]).value.getRTPFrames
        count buffers = some (results, final) ∧
      packets = results.map fun result => result.frame

theorem getRTPFrames_unique {frame : H264Frame} {buffers : Nat → RTPFrame} {first second : Nat}
    {left right : List Encapsulated × H264Frame}
    (leftRun : frame.getRTPFrames first buffers = some left)
    (rightRun : frame.getRTPFrames second buffers = some right) : left = right := by
  induction first generalizing frame buffers second left right with
  | zero => cases leftRun
  | succ first ih =>
      cases second with
      | zero => cases rightRun
      | succ second =>
          rw [getRTPFrames] at leftRun rightRun
          cases returned : (frame.getRTPFrame (buffers 0)).returned with
          | false =>
              simp only [returned, Bool.false_eq_true, if_false, Option.some.injEq]
                at leftRun rightRun
              exact leftRun.symm.trans rightRun
          | true =>
              simp only [returned, if_true, Option.map_eq_some_iff] at leftRun rightRun
              rcases leftRun with ⟨leftLater, leftTail, rfl⟩
              rcases rightRun with ⟨rightLater, rightTail, rfl⟩
              rw [ih leftTail rightTail]

section Sender

variable {limit : Nat} {unit : List UInt8}

structure IsUnit (unit : List UInt8) : Prop where
  type : unit.headD 0 &&& 0x1f ≠ 0
  fits : unit.length + 4 ≤ maxFrameSize

theorem IsUnit.header (isUnit : IsUnit unit) : unit ≠ [] ∧ unit.head? ≠ some 0 := by
  have type := isUnit.type
  cases unit with
  | nil => exact absurd rfl type
  | cons first rest =>
      refine ⟨List.cons_ne_nil first rest, ?_⟩
      intro isZero
      rw [List.head?_cons, Option.some.injEq] at isZero
      rw [List.headD_cons, isZero] at type
      exact type rfl

theorem IsUnit.transmits (isUnit : IsUnit unit) (atLeastThree : 3 ≤ limit)
    (limitFits : limit ≤ 65535) (frame : H264Frame) {call : NALUArgs}
    (bytesEq : call.bytes = unit) {buffers : Nat → RTPFrame}
    (zeroHeaders : ∀ call address, address < 12 → (buffers call).frame address = 0)
    (roomy : ∀ call, 12 + limit ≤ (buffers call).frameLen) :
    ∃ count results final,
      (((frame.setMaxPayloadSize limit).beginNewFrame 1).addNALUs [call]).value.getRTPFrames
          count buffers = some (results, final) ∧
        IsTransmission results (nalPayloads limit unit) := by
  have headers : ∀ other, other ∈ [call] → other.bytes ≠ [] ∧ other.bytes.head? ≠ some 0 := by
    intro other member
    rw [List.mem_singleton.mp member, bytesEq]
    exact isUnit.header
  have lengthEq : call.bytes.length = call.length := length_read _ _ _
  have total : ([call].map NALUArgs.length).sum ≤ maxFrameSize := by
    have fits := isUnit.fits
    rw [List.map_singleton, List.sum_singleton, ← lengthEq, bytesEq]
    omega
  have transmits :=
    transmits_of_addNALUs frame atLeastThree limitFits headers total zeroHeaders roomy
  rwa [List.map_singleton, List.flatMap_singleton, bytesEq] at transmits

theorem IsUnit.exists_packetised (isUnit : IsUnit unit) (atLeastThree : 3 ≤ limit)
    (limitFits : limit ≤ 65535) : ∃ packets, Packetised limit unit packets := by
  let call : NALUArgs :=
    { type := unit.headD 0, length := unit.length, source := ofBytes unit, payload := 0 }
  let buffers : Nat → RTPFrame := fun _ => { frame := fun _ => 0, frameLen := 12 + limit }
  have bytesEq : call.bytes = unit := read_ofBytes unit
  obtain ⟨count, results, final, run, _⟩ := isUnit.transmits atLeastThree limitFits
    (new (fun _ => 0) default) bytesEq (fun _ _ _ => rfl : ∀ call address, address < 12 →
      (buffers call).frame address = 0) (fun _ => Int.le_refl _)
  exact ⟨_, _, call, buffers, count, results, final, bytesEq, fun _ _ _ => rfl,
    fun _ => Int.le_refl _, run, rfl⟩

theorem Packetised.carries {packets : List RTPFrame} (packetised : Packetised limit unit packets)
    (isUnit : IsUnit unit) (atLeastThree : 3 ≤ limit) (limitFits : limit ≤ 65535) :
    List.Forall₂ Carries packets (nalPayloads limit unit) := by
  obtain ⟨frame, call, buffers, count, results, final, bytesEq, zeroHeaders, roomy, run, rfl⟩ :=
    packetised
  obtain ⟨_, _, _, sent, transmission⟩ :=
    isUnit.transmits atLeastThree limitFits frame bytesEq zeroHeaders roomy
  cases getRTPFrames_unique run sent
  rw [← transmission.payloads, List.forall₂_map_left_iff, List.forall₂_map_right_iff,
    List.forall₂_same]
  intro result _
  exact
    { size := (length_read _ _ _).symm
      held := by rw [RTPFrame.payload, length_read] }

end Sender

/-! ### Their reception -/

def takesIn (limit : Nat) (unit : List UInt8) : Bool :=
  decide (Payload.SingleType (unit.headD 0 &&& 0x1f)) || decide (limit < unit.length)

structure Ends (run : List Bool × H264Frame) (accepted : Bool) (bytes : List UInt8) : Prop where
  returned : run.1.all id = accepted
  bytes : run.2.assembled = bytes

def SameReception (left right : List Bool × H264Frame) : Prop :=
  left.1.all id = right.1.all id ∧ left.2.assembled = right.2.assembled

section Receiver

variable {limit : Nat} {unit : List UInt8} {receiver : H264Frame}
  {packets : List (RTPFrame × CoderFlags)}

theorem setFromRTPFrames_singleton (receiver : H264Frame) (packet : RTPFrame × CoderFlags) :
    receiver.setFromRTPFrames [packet] =
      ([(receiver.setFromRTPFrame packet.1 packet.2).value.returned],
        (receiver.setFromRTPFrame packet.1 packet.2).value.self) := rfl

/-- A NAL unit sent whole is taken in when its type is one of single NAL unit packets. -/
theorem ends_of_whole (represents : Represents receiver Assembly.empty) (isUnit : IsUnit unit)
    (known : unit.headD 0 &&& 0x1f ≤ 23) {packet : RTPFrame × CoderFlags}
    (carries : Carries packet.1 unit) :
    Ends (receiver.setFromRTPFrames [packet])
      (decide (Payload.SingleType (unit.headD 0 &&& 0x1f)))
      (if Payload.SingleType (unit.headD 0 &&& 0x1f) then byteStream [unit] else []) := by
  have fits := isUnit.fits
  cases unit with
  | nil => exact absurd rfl isUnit.header.1
  | cons first rest =>
      rw [List.headD_cons] at known ⊢
      rw [List.length_cons] at fits
      rw [setFromRTPFrames_singleton]
      by_cases isSingle : Payload.SingleType (first &&& 0x1f)
      · have wellFormed : (Payload.single first rest).WellFormed := isSingle
        have short : (Payload.single first rest).Short := by
          change rest.length + 5 ≤ maxFrameSize
          omega
        obtain ⟨returned, _, held⟩ :=
          setFromRTPFrame_refines represents wellFormed short carries packet.2
        have room : Assembly.empty.size + (first :: rest).length + 4 ≤ maxFrameSize := by
          change 0 + (rest.length + 1) + 4 ≤ maxFrameSize
          omega
        rw [if_pos isSingle, decide_eq_true isSingle]
        refine { returned := ?_, bytes := ?_ }
        · rw [returned]
          rfl
        · rw [held.bytes, Assembly.stream, (Assembly.addNAL_of_room room).1]
          rfl
      · have wellFormed : (Payload.unsupported first rest).WellFormed := by
          refine ⟨isSingle, ?_, ?_⟩
          · intro is24
            rw [is24] at known
            exact absurd known (by decide)
          · intro is28
            rw [is28] at known
            exact absurd known (by decide)
        obtain ⟨returned, _, held⟩ :=
          setFromRTPFrame_refines represents wellFormed trivial carries packet.2
        rw [if_neg isSingle, decide_eq_false isSingle]
        refine { returned := ?_, bytes := held.bytes }
        rw [returned]
        rfl

/-- A NAL unit sent in fragments is taken in whatever its type. -/
theorem ends_of_fragments (represents : Represents receiver Assembly.empty)
    (isUnit : IsUnit unit) (wide : 16 ≤ limit) (long : limit < unit.length)
    (carries : List.Forall₂ (fun packet payload => Carries packet.1 payload) packets
      (nalPayloads limit unit)) :
    Ends (receiver.setFromRTPFrames packets) true (byteStream [unit]) := by
  have fits := isUnit.fits
  unfold maxFrameSize at fits
  cases unit with
  | nil => exact absurd rfl isUnit.header.1
  | cons first rest =>
      rw [List.length_cons] at fits long
      let carriage : Carriage := .fragments first (chunks (limit - 2) rest)
      have legal : carriage.Legal := Carriage.legal_chunks wide first long (by omega)
      have nalsEq : carriage.nals = [first :: rest] := by
        change [first :: (chunks (limit - 2) rest).flatten] = _
        rw [flatten_chunks _ (by omega)]
      have room : streamSize carriage.nals ≤ maxFrameSize := by
        rw [nalsEq]
        simp only [streamSize_cons, streamSize_nil, List.length_cons, maxFrameSize]
        omega
      have carried : List.Forall₂ (fun packet payload => Carries packet.1 (Payload.bytes payload))
          packets carriage.payloads := by
        rw [nalPayloads_of_lt long, ← bytes_fragmentPayloads,
          List.forall₂_map_right_iff] at carries
        exact carries
      have received : Assembly.empty.receiveAll carriage.payloads =
          some { nals := [] ++ carriage.nals, openFragments := 0 } :=
        Assembly.receiveAll_carriage legal [] room
      have run := setFromRTPFrames_refines represents carried
        (fun payload member => ⟨Carriage.wellFormed_of_mem legal member,
          Carriage.short_of_mem member room⟩) received
      refine { returned := ?_, bytes := ?_ }
      · rw [run.1, List.all_map, List.all_eq_true]
        exact fun _ _ => rfl
      · rw [run.2.bytes, Assembly.stream, List.nil_append, nalsEq]

theorem ends_of_packetised (represents : Represents receiver Assembly.empty)
    (isUnit : IsUnit unit) (known : unit.headD 0 &&& 0x1f ≤ 23) (wide : 16 ≤ limit)
    (carries : List.Forall₂ (fun packet payload => Carries packet.1 payload) packets
      (nalPayloads limit unit)) :
    Ends (receiver.setFromRTPFrames packets) (takesIn limit unit)
      (if takesIn limit unit then byteStream [unit] else []) := by
  by_cases long : limit < unit.length
  · have taken : takesIn limit unit = true := by
      rw [takesIn, decide_eq_true long, Bool.or_true]
    rw [taken, if_pos rfl]
    exact ends_of_fragments represents isUnit wide long carries
  · have taken : takesIn limit unit = decide (Payload.SingleType (unit.headD 0 &&& 0x1f)) := by
      rw [takesIn, decide_eq_false long, Bool.or_false]
    rw [nalPayloads_of_le (by omega)] at carries
    obtain ⟨packet, rest, here, later, rfl⟩ := List.forall₂_cons_right_iff.mp carries
    cases later
    rw [taken]
    simp only [decide_eq_true_eq]
    exact ends_of_whole represents isUnit known here

end Receiver

def withFlags (flags : CoderFlags) (packets : List RTPFrame) : List (RTPFrame × CoderFlags) :=
  packets.map fun packet => (packet, flags)

theorem takesIn_eq_iff (unit : List UInt8) (first second : Nat) :
    takesIn first unit = takesIn second unit ↔
      Payload.SingleType (unit.headD 0 &&& 0x1f) ∨
        (unit.length ≤ first ↔ unit.length ≤ second) := by
  unfold takesIn
  by_cases isSingle : Payload.SingleType (unit.headD 0 &&& 0x1f)
  · simp only [isSingle, decide_true, Bool.true_or, true_or]
  · simp only [isSingle, decide_false, Bool.false_or, false_or, decide_eq_decide]
    omega

theorem sameReception_of_represents {receiver : H264Frame}
    (represents : Represents receiver Assembly.empty) {unit : List UInt8} (isUnit : IsUnit unit)
    (known : unit.headD 0 &&& 0x1f ≤ 23) {first second : Nat}
    (firstRange : 64 ≤ first ∧ first ≤ 1200) (secondRange : 64 ≤ second ∧ second ≤ 1200)
    {firstPackets secondPackets : List RTPFrame}
    (firstSent : Packetised first unit firstPackets)
    (secondSent : Packetised second unit secondPackets) (flags : CoderFlags) :
    SameReception (receiver.setFromRTPFrames (withFlags flags firstPackets))
        (receiver.setFromRTPFrames (withFlags flags secondPackets)) ↔
      takesIn first unit = takesIn second unit := by
  have carriesFlags : ∀ {limit : Nat} {packets : List RTPFrame}, Packetised limit unit packets →
      64 ≤ limit ∧ limit ≤ 1200 →
      List.Forall₂ (fun packet payload => Carries packet.1 payload) (withFlags flags packets)
        (nalPayloads limit unit) := by
    intro limit packets sent range
    rw [withFlags, List.forall₂_map_left_iff]
    exact sent.carries isUnit (by omega) (by omega)
  have firstEnds := ends_of_packetised represents isUnit known (by omega)
    (carriesFlags firstSent firstRange)
  have secondEnds := ends_of_packetised represents isUnit known (by omega)
    (carriesFlags secondSent secondRange)
  rw [SameReception, firstEnds.returned, secondEnds.returned, firstEnds.bytes,
    secondEnds.bytes]
  refine ⟨fun same => same.1, fun same => ⟨same, ?_⟩⟩
  rw [same]

/-- A NAL unit arrives alike under two limits if and only if its type is one of single NAL
unit packets, or it is sent whole under both limits, or in fragments under both. -/
theorem sameReception_iff {receiver : H264Frame} (reached : Receivable receiver)
    (fresh : receiver.encodedFrameLen = 0) {unit : List UInt8}
    (type : 1 ≤ unit.headD 0 &&& 0x1f ∧ unit.headD 0 &&& 0x1f ≤ 23)
    (room : unit.length + 4 ≤ maxFrameSize) {first second : Nat}
    (firstRange : 64 ≤ first ∧ first ≤ 1200) (secondRange : 64 ≤ second ∧ second ≤ 1200)
    {firstPackets secondPackets : List RTPFrame}
    (firstSent : Packetised first unit firstPackets)
    (secondSent : Packetised second unit secondPackets) (flags : CoderFlags) :
    SameReception (receiver.setFromRTPFrames (withFlags flags firstPackets))
        (receiver.setFromRTPFrames (withFlags flags secondPackets)) ↔
      Payload.SingleType (unit.headD 0 &&& 0x1f) ∨
        (unit.length ≤ first ↔ unit.length ≤ second) := by
  have isUnit : IsUnit unit := by
    refine { type := ?_, fits := room }
    intro isZero
    rw [isZero] at type
    exact absurd type.1 (by decide)
  rcases reached.represents with ⟨assembly, represents⟩
  have isEmpty : assembly = Assembly.empty := by
    rcases assembly with ⟨nals, counter⟩
    have lengthEq := represents.length
    have bound := Assembly.four_mul_length_le_size { nals := nals, openFragments := counter }
    obtain rfl : nals = [] := by
      apply List.eq_nil_of_length_eq_zero
      change 4 * nals.length ≤ _ at bound
      omega
    obtain rfl : counter = 0 := by
      by_contra isOpen
      exact represents.valid.opened isOpen rfl
    rfl
  rw [isEmpty] at represents
  rw [← takesIn_eq_iff]
  exact sameReception_of_represents represents isUnit type.2 firstRange secondRange firstSent
    secondSent flags

/-- An IDR slice of a hundred bytes, in two fragments and whole. -/
theorem sameReception_slice :
    let unit := 0x65 :: List.replicate 99 0x88
    ∃ fragments whole, Packetised 64 unit fragments ∧ Packetised 1200 unit whole ∧
      SameReception
        ((new (fun _ => 0) default).setFromRTPFrames (withFlags CoderFlags.none fragments))
        ((new (fun _ => 0) default).setFromRTPFrames (withFlags CoderFlags.none whole)) := by
  intro unit
  have isUnit : IsUnit unit := { type := by decide, fits := by decide }
  have range64 : 64 ≤ 64 ∧ 64 ≤ 1200 := by decide
  have range1200 : 64 ≤ 1200 ∧ 1200 ≤ 1200 := by decide
  obtain ⟨fragments, firstSent⟩ := isUnit.exists_packetised
    (by decide : 3 ≤ 64) (by decide)
  obtain ⟨whole, secondSent⟩ := isUnit.exists_packetised
    (by decide : 3 ≤ 1200) (by decide)
  exact ⟨fragments, whole, firstSent, secondSent,
    (sameReception_iff (.new (fun _ => 0) default) rfl (by decide) (by decide) range64
      range1200 firstSent secondSent CoderFlags.none).mpr (Or.inl (by decide))⟩

/-- A prefix NAL unit of a hundred bytes arrives in fragments, but not whole. -/
theorem not_sameReception_prefixUnit :
    let unit := 0x6e :: List.replicate 99 0x88
    ∃ fragments whole, Packetised 64 unit fragments ∧ Packetised 1200 unit whole ∧
      ¬ SameReception
        ((new (fun _ => 0) default).setFromRTPFrames (withFlags CoderFlags.none fragments))
        ((new (fun _ => 0) default).setFromRTPFrames (withFlags CoderFlags.none whole)) := by
  intro unit
  have isUnit : IsUnit unit := { type := by decide, fits := by decide }
  have fresh := represents_beginNewFrame (H264Frame.new (fun _ => 0) default) id
  obtain ⟨fragments, firstSent⟩ := isUnit.exists_packetised
    (by decide : 3 ≤ 64) (by decide)
  obtain ⟨whole, secondSent⟩ := isUnit.exists_packetised
    (by decide : 3 ≤ 1200) (by decide)
  refine ⟨fragments, whole, firstSent, secondSent, ?_⟩
  have same := sameReception_of_represents fresh isUnit (by decide) (by decide) (by decide)
    firstSent secondSent CoderFlags.none
  intro receivedAlike
  exact absurd (same.mp receivedAlike) (by decide)

end H264Frame

end DShowCapture
