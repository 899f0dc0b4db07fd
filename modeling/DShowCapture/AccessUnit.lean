/-
Access units as the sender packetises them.

The sender carries every NAL unit on its own: as a single NAL unit packet when it fits,
as fragments otherwise.
-/
import DShowCapture.Receiver

namespace DShowCapture

open AnnexB RFC6184 Chunks

namespace Carriage

def ofNAL (limit : Nat) : List UInt8 → Carriage
  | [] => .aggregate 24 []
  | first :: rest =>
      if rest.length + 1 ≤ limit then .single first rest
      else .fragments first (chunks (limit - 2) rest)

theorem bytes_ofNAL (limit : Nat) {nal : List UInt8} (nonempty : nal ≠ []) :
    (ofNAL limit nal).payloads.map Payload.bytes = nalPayloads limit nal := by
  cases nal with
  | nil => exact absurd rfl nonempty
  | cons first rest =>
      rw [ofNAL, nalPayloads]
      split
      · rfl
      · exact bytes_fragmentPayloads first true _

theorem nals_ofNAL {limit : Nat} (atLeastThree : 3 ≤ limit) {nal : List UInt8}
    (nonempty : nal ≠ []) : (ofNAL limit nal).nals = [nal] := by
  cases nal with
  | nil => exact absurd rfl nonempty
  | cons first rest =>
      rw [ofNAL]
      split
      · rfl
      · rw [nals, flatten_chunks (limit - 2) (by omega)]

/-- The fragment counter of the receiver can count the fragments of the sender. -/
theorem legal_chunks {limit : Nat} (wide : 16 ≤ limit) (first : UInt8) {rest : List UInt8}
    (long : limit < rest.length + 1) (small : rest.length < 786432) :
    (fragments first (chunks (limit - 2) rest)).Legal := by
  have positive : 0 < limit - 2 := by omega
  have someLeft : rest ≠ [] := List.ne_nil_of_length_pos (by omega)
  refine ⟨two_le_length_chunks positive (by omega), ?_, ?_⟩
  · rw [length_chunks _ positive rest someLeft]
    apply Nat.div_le_of_le_mul
    have slices : 14 * 65534 ≤ (limit - 2) * 65534 :=
      Nat.mul_le_mul_right 65534 (by omega)
    rw [Nat.mul_succ]
    omega
  · exact fun body member => ne_nil_of_mem_chunks positive someLeft member

theorem legal_ofNAL {limit : Nat} (wide : 16 ≤ limit) {nal : List UInt8}
    (type : Payload.SingleType (nal.headD 0 &&& 0x1f)) (small : nal.length ≤ 786432) :
    (ofNAL limit nal).Legal := by
  cases nal with
  | nil => exact absurd type (by decide)
  | cons first rest =>
      rw [List.length_cons] at small
      rw [ofNAL]
      split
      · exact type
      · exact legal_chunks wide first (by omega) (by omega)

theorem wellFormed_ofNAL {limit : Nat} {nal : List UInt8}
    (type : Payload.SingleType (nal.headD 0 &&& 0x1f)) {payload : Payload}
    (member : payload ∈ (ofNAL limit nal).payloads) : payload.WellFormed := by
  cases nal with
  | nil => exact absurd type (by decide)
  | cons first rest =>
      rw [ofNAL] at member
      split at member
      · rw [List.mem_singleton.mp member]
        exact type
      · obtain ⟨_, _, _, _, payloadEq⟩ := mem_fragmentPayloads member
        rw [payloadEq]
        exact fuIndicator_type first

end Carriage

def payloadLimit : Nat := 1200

def payloadsOf (nals : List (List UInt8)) : List Payload :=
  (nals.map (Carriage.ofNAL payloadLimit)).flatMap Carriage.payloads

structure Sendable (nals : List (List UInt8)) : Prop where
  someNAL : nals ≠ []
  types : ∀ nal, nal ∈ nals → Payload.SingleType (nal.headD 0 &&& 0x1f)

namespace Sendable

variable {nals : List (List UInt8)}

theorem nonempty (sendable : Sendable nals) {nal : List UInt8} (member : nal ∈ nals) :
    nal ≠ [] := by
  rintro rfl
  exact absurd (sendable.types [] member) (by decide)

theorem bytes_payloads (sendable : Sendable nals) :
    (payloadsOf nals).map Payload.bytes = nals.flatMap (nalPayloads payloadLimit) := by
  rw [payloadsOf, List.map_flatMap, List.flatMap_map]
  exact List.flatMap_congr fun nal member =>
    Carriage.bytes_ofNAL payloadLimit (sendable.nonempty member)

theorem payloads_ne_nil (sendable : Sendable nals) : payloadsOf nals ≠ [] := by
  intro isEmpty
  have noneSent := sendable.bytes_payloads
  obtain ⟨nal, rest, rfl⟩ := List.exists_cons_of_ne_nil sendable.someNAL
  rw [isEmpty, List.map_nil, List.flatMap_cons] at noneSent
  exact nalPayloads_ne_nil (by decide : 3 ≤ payloadLimit) nal
    (List.append_eq_nil_iff.mp noneSent.symm).1

theorem payload_of_mem (sendable : Sendable nals) {payload : Payload}
    (member : payload ∈ payloadsOf nals) :
    payload.WellFormed ∧ payload.Short ∧ payload.bytes.length ≤ payloadLimit := by
  have bytesMember : payload.bytes ∈ (payloadsOf nals).map Payload.bytes :=
    List.mem_map_of_mem member
  rw [sendable.bytes_payloads] at bytesMember
  obtain ⟨nal, nalMember, sent⟩ := List.mem_flatMap.mp bytesMember
  have bounded := (isPacketisation_nalPayloads (by decide : 3 ≤ payloadLimit)
    (sendable.nonempty nalMember)).bounded payload.bytes sent
  obtain ⟨carriage, carriageMember, payloadMember⟩ := List.mem_flatMap.mp member
  obtain ⟨other, otherMember, rfl⟩ := List.mem_map.mp carriageMember
  refine ⟨Carriage.wellFormed_ofNAL (sendable.types other otherMember) payloadMember,
    Payload.short_of_length ?_, bounded⟩
  unfold payloadLimit at bounded
  omega

end Sendable

structure AccessUnit where
  /-- Each NAL unit with the number of extra zero bytes of its start code. -/
  parts : List (Nat × List UInt8)
  nonempty : parts ≠ []
  few : parts.length ≤ 128
  startCodes : ∀ part, part ∈ parts → part.1 ≤ 1
  writable : ∀ part, part ∈ parts → Writable part.2
  types : ∀ part, part ∈ parts → Payload.SingleType (part.2.headD 0 &&& 0x1f)
  fits : streamSize (parts.map Prod.snd) ≤ maxFrameSize

namespace AccessUnit

def nals (self : AccessUnit) : List (List UInt8) := self.parts.map Prod.snd

def bytes (self : AccessUnit) : List UInt8 := write self.parts

variable (self : AccessUnit)

theorem sendable : Sendable self.nals :=
  { someNAL := by
      rw [nals, ne_eq, List.map_eq_nil_iff]
      exact self.nonempty
    types := by
      intro nal member
      obtain ⟨part, partMember, rfl⟩ := List.mem_map.mp member
      exact self.types part partMember }

theorem size_of_mem {nal : List UInt8} (member : nal ∈ self.nals) :
    nal.length + 4 ≤ maxFrameSize := by
  obtain ⟨front, back, shape⟩ := List.append_of_mem member
  have fits := self.fits
  change streamSize self.nals ≤ maxFrameSize at fits
  rw [shape, streamSize_append, streamSize_cons] at fits
  omega

/-- A receiver that starts afresh accepts all payloads and then holds the NAL units. -/
theorem receiveAll_payloads :
    Assembly.empty.receiveAll (payloadsOf self.nals) =
      some { nals := self.nals, openFragments := 0 } := by
  have fits := self.fits
  change streamSize self.nals ≤ maxFrameSize at fits
  have carried : (self.nals.map (Carriage.ofNAL payloadLimit)).flatMap Carriage.nals =
      self.nals := by
    rw [List.flatMap_map]
    have each : ∀ nal, nal ∈ self.nals → (Carriage.ofNAL payloadLimit nal).nals = [nal] :=
      fun nal member => Carriage.nals_ofNAL (by decide) (self.sendable.nonempty member)
    rw [List.flatMap_congr each, List.flatMap_singleton']
  have legal : ∀ carriage, carriage ∈ self.nals.map (Carriage.ofNAL payloadLimit) →
      carriage.Legal := by
    intro carriage member
    obtain ⟨nal, nalMember, rfl⟩ := List.mem_map.mp member
    have size := self.size_of_mem nalMember
    unfold maxFrameSize at size
    exact Carriage.legal_ofNAL (by decide) (self.sendable.types nal nalMember) (by omega)
  rw [← carried] at fits
  have received := Assembly.receiveAll_carriages legal [] fits
  rwa [List.nil_append, carried] at received

theorem units_bytes : units self.bytes = self.nals :=
  units_write self.parts self.writable

theorem length_bytes_le : self.bytes.length ≤ maxFrameSize := by
  have total : ∀ parts : List (Nat × List UInt8), (∀ part, part ∈ parts → part.1 ≤ 1) →
      (write parts).length ≤ streamSize (parts.map Prod.snd) := by
    intro parts startCodes
    induction parts with
    | nil => exact Nat.le_refl 0
    | cons part rest ih =>
        have short := startCodes part List.mem_cons_self
        have later := ih fun other member => startCodes other (List.mem_cons_of_mem part member)
        rw [write_cons, List.map_cons, streamSize_cons]
        simp only [startCode, List.length_append, List.length_replicate, List.length_cons,
          List.length_nil]
        omega
  exact Nat.le_trans (total self.parts self.startCodes) self.fits

end AccessUnit

end DShowCapture
