/-
`RTPPacket::BuildPacket` and `RTPPacket::GetCSRC` of `jrtp/jrtplib/rtppacket.cpp`.

The builder lays a packet out in a buffer of its caller; `ParseRawPacket` is its inverse.  A
built packet is parsed back into the arguments of the builder, and a packet that the parser
accepts is built again from what the parser says about it, without its padding.  The only
packets that cannot be built again are those with the payload types 72 and 73, which the
parser refuses with the marker and takes without it.
-/
import DShowCapture.RTPPacket
import DShowCapture.Library.Written

namespace DShowCapture

open ByteMemory FixedWidth RFC3550

namespace RTPPacket

def rtpMaxCSRCs : Nat := 15

inductive BuildError
  | tooManyCSRCs
  | badPayloadType
  | dataExceedsMaxSize
  deriving DecidableEq, Repr

structure BuildArgs where
  payloadtype : UInt8
  payloaddata : Memory
  payloadlen : Nat
  seqnr : UInt16
  timestamp : UInt32
  ssrc : UInt32
  gotmarker : Bool
  numcsrcs : UInt8
  csrcs : Nat → UInt32
  gotextension : Bool
  extensionid : UInt16
  extensionlenNumwords : UInt16
  extensiondata : Memory

namespace BuildArgs

def extensionlength (self : BuildArgs) : Nat := self.extensionlenNumwords.toNat * 4

/-- The bit fields `version`, `padding`, `extension` and `csrccount`. -/
def firstByte (self : BuildArgs) : UInt8 :=
  0x80 ||| (if self.gotextension then 0x10 else 0) ||| (self.numcsrcs &&& 0x0f)

/-- The bit fields `marker` and `payloadtype`. -/
def secondByte (self : BuildArgs) : UInt8 :=
  (if self.gotmarker then 0x80 else 0) ||| (self.payloadtype &&& 127)

/-- `packetlength`, a sum of `size_t`. -/
def packetlength (self : BuildArgs) : Nat :=
  u32 (12 + 4 * self.numcsrcs.toNat +
    (if self.gotextension then 4 + self.extensionlength else 0 : Nat) + self.payloadlen)

def writeHeader (self : BuildArgs) (packet : Memory) : Memory :=
  let packet := store packet 0 [self.firstByte, self.secondByte]
  let packet := store packet 2 (bytes16 self.seqnr.toNat)
  let packet := store packet 4 (bytes32 self.timestamp.toNat)
  store packet 8 (bytes32 self.ssrc.toNat)

/-- The loop over the contributing sources, after `count` rounds. -/
def writeCSRCs (self : BuildArgs) (packet : Memory) : Nat → Memory
  | 0 => packet
  | count + 1 =>
      store (self.writeCSRCs packet count) (12 + count * 4) (bytes32 (self.csrcs count).toNat)

def payloadStart (self : BuildArgs) : Nat :=
  12 + self.numcsrcs.toNat * 4 + (if self.gotextension then 4 + self.extensionlength else 0)

def writeExtension (self : BuildArgs) (packet : Memory) : Memory :=
  if self.gotextension then
    let start := 12 + self.numcsrcs.toNat * 4
    let packet := store packet start (bytes16 self.extensionid.toNat)
    let packet := store packet (start + 2) (bytes16 self.extensionlenNumwords.toNat)
    copy packet (start + 4) self.extensiondata 0 self.extensionlength
  else packet

def write (self : BuildArgs) (packet : Memory) : Memory :=
  let packet := self.writeHeader packet
  let packet := self.writeCSRCs packet self.numcsrcs.toNat
  let packet := self.writeExtension packet
  copy packet self.payloadStart self.payloaddata 0 self.payloadlen

/-- The members after a successful `BuildPacket`.  The pointer to the extension stays null,
and the length of the extension is set also when there is none. -/
def members (self : BuildArgs) : RTPPacket :=
  { hasextension := self.gotextension
    extid := self.extensionid.toNat
    extension := 0
    extensionlength := self.extensionlength
    hasmarker := self.gotmarker
    numcsrcs := self.numcsrcs.toNat
    payloadtype := self.payloadtype.toNat
    extseqnr := self.seqnr.toNat
    timestamp := self.timestamp.toNat
    ssrc := self.ssrc.toNat
    payload := self.payloadStart
    packetlength := self.packetlength
    payloadlength := self.payloadlen }

end BuildArgs

structure Built where
  packet : Memory
  members : RTPPacket

def buildPacket (args : BuildArgs) (buffer : Memory) (maxsize : Nat) : Except BuildError Built :=
  if rtpMaxCSRCs < args.numcsrcs.toNat then .error .tooManyCSRCs
  else if 127 < args.payloadtype then .error .badPayloadType
  else if args.payloadtype = 72 ∨ args.payloadtype = 73 then .error .badPayloadType
  else if 0 < maxsize ∧ maxsize < args.packetlength then .error .dataExceedsMaxSize
  else .ok { packet := args.write buffer, members := args.members }

def getCSRC (self : RTPPacket) (packet : Memory) (num : Nat) : Nat :=
  if self.numcsrcs ≤ num then 0 else bigEndian32 packet (12 + num * 4)

structure Buildable (args : BuildArgs) (maxsize : Nat) : Prop where
  few : args.numcsrcs.toNat ≤ rtpMaxCSRCs
  sevenBits : args.payloadtype ≤ 127
  notReport : args.payloadtype ≠ 72 ∧ args.payloadtype ≠ 73
  fits : maxsize = 0 ∨ args.packetlength ≤ maxsize

theorem buildPacket_eq_ok_iff {args : BuildArgs} {buffer : Memory} {maxsize : Nat}
    {built : Built} :
    buildPacket args buffer maxsize = .ok built ↔
      Buildable args maxsize ∧
        built = { packet := args.write buffer, members := args.members } := by
  unfold buildPacket
  constructor
  · intro success
    split at success
    · cases success
    · rename_i few
      split at success
      · cases success
      · rename_i sevenBits
        split at success
        · cases success
        · rename_i notReport
          split at success
          · cases success
          · rename_i fits
            refine ⟨?_, (Except.ok.inj success).symm⟩
            exact
              { few := Nat.not_lt.mp few
                sevenBits := UInt8.not_lt.mp sevenBits
                notReport := not_or.mp notReport
                fits := by omega }
  · rintro ⟨buildable, rfl⟩
    have fits := buildable.fits
    rw [if_neg (Nat.not_lt.mpr buildable.few), if_neg (UInt8.not_lt.mpr buildable.sevenBits),
      if_neg (not_or.mpr buildable.notReport), if_neg (by omega)]

/-! ### The bytes of a built packet -/

namespace BuildArgs

def csrcList (self : BuildArgs) (count : Nat) : List UInt8 :=
  (List.range count).flatMap fun index => bytes32 (self.csrcs index).toNat

def headerBytes (self : BuildArgs) : List UInt8 :=
  [self.firstByte, self.secondByte] ++ bytes16 self.seqnr.toNat ++
    bytes32 self.timestamp.toNat ++ bytes32 self.ssrc.toNat

def extensionBytes (self : BuildArgs) : List UInt8 :=
  if self.gotextension then
    bytes16 self.extensionid.toNat ++ bytes16 self.extensionlenNumwords.toNat ++
      read self.extensiondata 0 self.extensionlength
  else []

def bytes (self : BuildArgs) : List UInt8 :=
  self.headerBytes ++ self.csrcList self.numcsrcs.toNat ++ self.extensionBytes ++
    read self.payloaddata 0 self.payloadlen

@[simp] theorem length_headerBytes (self : BuildArgs) : self.headerBytes.length = 12 := rfl

@[simp] theorem length_csrcList (self : BuildArgs) (count : Nat) :
    (self.csrcList count).length = count * 4 := by
  induction count with
  | zero => rfl
  | succ count ih =>
      rw [csrcList, List.range_succ, List.flatMap_append, List.length_append, ← csrcList, ih,
        List.flatMap_singleton]
      change count * 4 + 4 = (count + 1) * 4
      omega

theorem length_extensionBytes (self : BuildArgs) :
    self.extensionBytes.length =
      if self.gotextension then 4 + self.extensionlength else 0 := by
  unfold extensionBytes
  split
  · rw [List.length_append, length_read]
    rfl
  · rfl

theorem twelve_le_payloadStart (self : BuildArgs) : 12 ≤ self.payloadStart := by
  rw [payloadStart, Nat.add_assoc]
  exact Nat.le_add_right 12 _

theorem length_bytes (self : BuildArgs) :
    self.bytes.length = self.payloadStart + self.payloadlen := by
  rw [bytes, List.length_append, List.length_append, List.length_append, length_headerBytes,
    length_csrcList, length_extensionBytes, length_read, payloadStart]

theorem written_writeHeader (self : BuildArgs) (packet : Memory) :
    Written (self.writeHeader packet) self.headerBytes :=
  ((((written_nil packet).store [self.firstByte, self.secondByte]).store
    (bytes16 self.seqnr.toNat)).store (bytes32 self.timestamp.toNat)).store
      (bytes32 self.ssrc.toNat)

theorem written_writeCSRCs (self : BuildArgs) {packet : Memory}
    (written : Written packet self.headerBytes) (count : Nat) :
    Written (self.writeCSRCs packet count) (self.headerBytes ++ self.csrcList count) := by
  induction count with
  | zero =>
      rw [show self.csrcList 0 = [] from rfl, List.append_nil]
      exact written
  | succ count ih =>
      have grown := ih.store (bytes32 (self.csrcs count).toNat)
      rw [List.length_append, length_headerBytes, length_csrcList, List.append_assoc] at grown
      rw [csrcList, List.range_succ, List.flatMap_append, List.flatMap_singleton]
      exact grown

theorem written_writeExtension (self : BuildArgs) {packet : Memory} {front : List UInt8}
    (written : Written packet front) (frontLength : front.length = 12 + self.numcsrcs.toNat * 4) :
    Written (self.writeExtension packet) (front ++ self.extensionBytes) := by
  unfold writeExtension extensionBytes
  split
  · have stored := ((written.store (bytes16 self.extensionid.toNat)).store
      (bytes16 self.extensionlenNumwords.toNat)).copy self.extensiondata 0 self.extensionlength
    simp only [List.length_append, frontLength, List.append_assoc] at stored
    rw [List.append_assoc]
    exact stored
  · rw [List.append_nil]
    exact written

theorem written_write (self : BuildArgs) (packet : Memory) :
    Written (self.write packet) self.bytes := by
  have front := self.written_writeCSRCs (self.written_writeHeader packet) self.numcsrcs.toNat
  have extended := (self.written_writeExtension front (by simp)).copy self.payloaddata 0
    self.payloadlen
  rw [List.length_append, List.length_append, length_headerBytes, length_csrcList,
    length_extensionBytes] at extended
  exact extended

theorem packetlength_eq (self : BuildArgs) (small : self.payloadlen < 2147483648) :
    self.packetlength = self.bytes.length := by
  have count := self.numcsrcs.toNat_lt
  have words := self.extensionlenNumwords.toNat_lt
  rw [length_bytes, packetlength, payloadStart, extensionlength]
  unfold u32
  split <;> omega

end BuildArgs

/-! ### Parsing a built packet -/

theorem bigEndian32_of_written (front : List UInt8) {memory : Memory} {rest : List UInt8}
    {value : Nat} (inRange : value < 4294967296)
    (written : Written memory (front ++ (bytes32 value ++ rest))) :
    bigEndian32 memory front.length = value := by
  have high : Written memory (front ++ (bytes16 (value / 65536) ++ (bytes16 value ++ rest))) :=
    written
  have low : Written memory ((front ++ bytes16 (value / 65536)) ++ (bytes16 value ++ rest)) := by
    rw [List.append_assoc]
    exact high
  have highEq := high.bytes16 _
  have lowEq := low.bytes16 _
  rw [List.length_append] at lowEq
  change bigEndian16 (memory (front.length + 2)) (memory (front.length + 3)) = _ at lowEq
  rw [bigEndian32, highEq, lowEq]
  omega

private theorem header_bits (hasExtension : Bool) :
    ∀ count : Nat, count < 16 →
      let byte : UInt8 :=
        0x80 ||| (if hasExtension then 0x10 else 0) ||| (UInt8.ofNat count &&& 0x0f)
      (byte &&& 0x0f).toNat = count ∧ (byte &&& 0x10 != 0) = hasExtension ∧
        (byte &&& 0x20 != 0) = false ∧ (byte >>> 6).toNat = 2 := by
  cases hasExtension <;> decide +kernel

private theorem marker_type_bits (marker : Bool) :
    ∀ byte : UInt8, byte ≤ 127 →
      let second : UInt8 := (if marker then 0x80 else 0) ||| (byte &&& 127)
      (second &&& 0x7f) = byte ∧ (second &&& 0x80 != 0) = marker := by
  cases marker <;> exact forall_byte (by decide +kernel)

structure Denotes (parsed : RTPPacket) (packet : Memory) (args : BuildArgs) : Prop where
  hasmarker : parsed.hasmarker = args.gotmarker
  payloadtype : parsed.payloadtype = args.payloadtype.toNat
  extseqnr : parsed.extseqnr = args.seqnr.toNat
  timestamp : parsed.timestamp = args.timestamp.toNat
  ssrc : parsed.ssrc = args.ssrc.toNat
  numcsrcs : parsed.numcsrcs = args.numcsrcs.toNat
  csrcs : ∀ index, index < args.numcsrcs.toNat →
    parsed.getCSRC packet index = (args.csrcs index).toNat
  hasextension : parsed.hasextension = args.gotextension
  extension : args.gotextension = true →
    parsed.extid = args.extensionid.toNat ∧
      read packet parsed.extension parsed.extensionlength =
        read args.extensiondata 0 args.extensionlength
  payload : read packet parsed.payload parsed.payloadlength =
    read args.payloaddata 0 args.payloadlen

namespace BuildArgs

structure Carried (args : BuildArgs) (packet : Memory) : Prop where
  few : args.numcsrcs.toNat ≤ rtpMaxCSRCs
  sevenBits : args.payloadtype ≤ 127
  written : Written packet args.bytes

section Carried

variable {args : BuildArgs} {packet : Memory}

theorem Carried.firstByte (carried : args.Carried packet) : packet 0 = args.firstByte :=
  Written.byte [] carried.written

theorem Carried.secondByte (carried : args.Carried packet) : packet 1 = args.secondByte :=
  Written.byte [args.firstByte] carried.written

theorem Carried.first_bits (carried : args.Carried packet) :
    RTPHeader.csrccount packet = args.numcsrcs.toNat ∧
      RTPHeader.extension packet = args.gotextension ∧ RTPHeader.padding packet = false ∧
        RTPHeader.version packet = rtpVersion := by
  have few := carried.few
  unfold rtpMaxCSRCs at few
  have bits := header_bits args.gotextension args.numcsrcs.toNat (by omega)
  rw [UInt8.ofNat_toNat] at bits
  rw [RTPHeader.csrccount, RTPHeader.extension, RTPHeader.padding, RTPHeader.version,
    carried.firstByte]
  exact bits

theorem Carried.second_bits (carried : args.Carried packet) :
    RTPHeader.payloadtype packet = args.payloadtype.toNat ∧
      RTPHeader.marker packet = args.gotmarker := by
  have bits := marker_type_bits args.gotmarker args.payloadtype carried.sevenBits
  rw [RTPHeader.payloadtype, RTPHeader.marker, carried.secondByte]
  exact ⟨congrArg UInt8.toNat bits.1, bits.2⟩

theorem Carried.sequencenumber (carried : args.Carried packet) :
    bigEndian16 (packet 2) (packet 3) = args.seqnr.toNat := by
  have written := carried.written
  simp only [bytes, headerBytes, List.append_assoc] at written
  have held := Written.bytes16 [args.firstByte, args.secondByte] written
  rw [Nat.mod_eq_of_lt args.seqnr.toNat_lt] at held
  exact held

theorem Carried.timestamp (carried : args.Carried packet) :
    bigEndian32 packet 4 = args.timestamp.toNat := by
  have written := carried.written
  simp only [bytes, headerBytes, List.append_assoc] at written
  exact bigEndian32_of_written
    ([args.firstByte, args.secondByte] ++ bytes16 args.seqnr.toNat)
    args.timestamp.toNat_lt written

theorem Carried.ssrc (carried : args.Carried packet) :
    bigEndian32 packet 8 = args.ssrc.toNat := by
  have written := carried.written
  simp only [bytes, headerBytes, List.append_assoc] at written
  exact bigEndian32_of_written
    ([args.firstByte, args.secondByte] ++ bytes16 args.seqnr.toNat ++
      bytes32 args.timestamp.toNat)
    args.ssrc.toNat_lt written

theorem csrcList_split (args : BuildArgs) {index count : Nat} (inRange : index < count) :
    ∃ rest, args.csrcList count =
      args.csrcList index ++ (bytes32 (args.csrcs index).toNat ++ rest) := by
  induction count with
  | zero => exact absurd inRange (Nat.not_lt_zero index)
  | succ count ih =>
      have last : args.csrcList (count + 1) =
          args.csrcList count ++ bytes32 (args.csrcs count).toNat := by
        rw [csrcList, List.range_succ, List.flatMap_append, List.flatMap_singleton]
        rfl
      rcases Nat.lt_succ_iff_lt_or_eq.mp inRange with earlier | rfl
      · obtain ⟨rest, split⟩ := ih earlier
        refine ⟨rest ++ bytes32 (args.csrcs count).toNat, ?_⟩
        rw [last, split]
        simp only [List.append_assoc]
      · exact ⟨[], by rw [last, List.append_nil]⟩

theorem Carried.csrc (carried : args.Carried packet) {index : Nat}
    (inRange : index < args.numcsrcs.toNat) :
    bigEndian32 packet (12 + index * 4) = (args.csrcs index).toNat := by
  have written := carried.written
  obtain ⟨rest, split⟩ := args.csrcList_split inRange
  rw [bytes, split, List.append_assoc, List.append_assoc, List.append_assoc, ← List.append_assoc,
    List.append_assoc (bytes32 _)] at written
  have held := bigEndian32_of_written _ (args.csrcs index).toNat_lt written
  rw [List.length_append, length_headerBytes, length_csrcList] at held
  exact held

theorem Carried.exthdrlen (carried : args.Carried packet) (extended : args.gotextension = true) :
    bigEndian16 (packet (extensionOffset packet)) (packet (extensionOffset packet + 1)) =
        args.extensionid.toNat ∧
      exthdrlen packet = args.extensionlenNumwords.toNat ∧
      read packet (extensionOffset packet + 4) args.extensionlength =
        read args.extensiondata 0 args.extensionlength := by
  have offsetEq : extensionOffset packet =
      (args.headerBytes ++ args.csrcList args.numcsrcs.toNat).length := by
    rw [List.length_append, length_headerBytes, length_csrcList, extensionOffset,
      carried.first_bits.1]
  have written := carried.written
  rw [bytes, extensionBytes, if_pos extended] at written
  have identifier := written
  simp only [List.append_assoc] at identifier
  rw [← List.append_assoc] at identifier
  have words := identifier
  rw [← List.append_assoc] at words
  have content := words
  rw [← List.append_assoc] at content
  have identifierEq := identifier.bytes16 _
  have wordsEq := words.bytes16 _
  have contentEq := content.read_part _ _
  rw [List.length_append, ← offsetEq] at wordsEq
  rw [List.length_append, List.length_append, ← offsetEq, length_read] at contentEq
  rw [← offsetEq, Nat.mod_eq_of_lt args.extensionid.toNat_lt] at identifierEq
  rw [Nat.mod_eq_of_lt args.extensionlenNumwords.toNat_lt] at wordsEq
  exact ⟨identifierEq, wordsEq, contentEq⟩

theorem Carried.payloadoffset (carried : args.Carried packet) :
    payloadoffset packet = args.payloadStart := by
  have offsetEq : extensionOffset packet = 12 + args.numcsrcs.toNat * 4 := by
    rw [extensionOffset, carried.first_bits.1]
  unfold RTPPacket.payloadoffset payloadStart
  rw [carried.first_bits.2.1, offsetEq]
  by_cases extended : args.gotextension = true
  · rw [if_pos extended, if_pos extended, (carried.exthdrlen extended).2.1, extensionlength]
    omega
  · rw [if_neg extended, if_neg extended]
    rfl

theorem Carried.payload (carried : args.Carried packet) :
    read packet args.payloadStart args.payloadlen = read args.payloaddata 0 args.payloadlen := by
  have written := carried.written
  have lengthEq := args.length_bytes
  rw [bytes, List.length_append, length_read] at lengthEq
  rw [bytes, ← List.append_nil (read args.payloaddata 0 args.payloadlen)] at written
  have part := written.read_part _ _
  rw [length_read] at part
  rw [← part]
  congr 1
  omega

end Carried

end BuildArgs

theorem sevenBits_typeSR : rtcpTypeSR &&& 127 = 72 := by simp [rtcpTypeSR]

theorem sevenBits_typeRR : rtcpTypeRR &&& 127 = 73 := by simp [rtcpTypeRR]

theorem denotes_of_carried {args : BuildArgs} {packet : Memory} (carried : args.Carried packet)
    (notReport : args.payloadtype ≠ 72 ∧ args.payloadtype ≠ 73)
    (small : args.payloadlen < 2147483648) :
    ∃ parsed, parseRawPacket packet args.bytes.length = some parsed ∧
      parsed.Denotes packet args ∧ parsed.packetlength = args.bytes.length := by
  obtain ⟨countEq, extensionEq, paddingEq, versionEq⟩ := carried.first_bits
  obtain ⟨typeEq, markerEq⟩ := carried.second_bits
  have lengthEq := args.length_bytes
  have noPadding : numpadbytes packet args.bytes.length = 0 := by
    rw [numpadbytes, paddingEq, if_neg Bool.false_ne_true]
  have payloadEq : payloadlengthOf packet args.bytes.length = args.payloadlen := by
    rw [payloadlengthOf, noPadding, carried.payloadoffset, lengthEq]
    unfold i32 u32
    omega
  have startLong := args.twelve_le_payloadStart
  have long : ¬ args.bytes.length < 12 := by
    rw [lengthEq]
    exact Nat.not_lt.mpr (Nat.le_trans startLong (Nat.le_add_right _ _))
  have notSR : ¬ (RTPHeader.marker packet = true ∧
      RTPHeader.payloadtype packet = rtcpTypeSR &&& 127) := by
    rintro ⟨_, isReport⟩
    rw [typeEq, sevenBits_typeSR] at isReport
    exact notReport.1 (UInt8.toNat_inj.mp isReport)
  have notRR : ¬ (RTPHeader.marker packet = true ∧
      RTPHeader.payloadtype packet = rtcpTypeRR &&& 127) := by
    rintro ⟨_, isReport⟩
    rw [typeEq, sevenBits_typeRR] at isReport
    exact notReport.2 (UInt8.toNat_inj.mp isReport)
  have notPadded : ¬ (RTPHeader.padding packet = true ∧
      numpadbytes packet args.bytes.length = 0) := by
    rw [paddingEq]
    exact fun padded => Bool.false_ne_true padded.1
  have nonnegative : ¬ payloadlengthOf packet args.bytes.length < 0 := by
    rw [payloadEq]
    exact Int.not_lt.mpr (Int.natCast_nonneg _)
  refine ⟨_, by
    rw [parseRawPacket, if_neg long, if_neg (not_not.mpr versionEq), if_neg notSR, if_neg notRR,
      if_neg notPadded, if_neg nonnegative], ?_, rfl⟩
  exact
    { hasmarker := markerEq
      payloadtype := typeEq
      extseqnr := carried.sequencenumber
      timestamp := carried.timestamp
      ssrc := carried.ssrc
      numcsrcs := countEq
      csrcs := by
        intro index inRange
        have inside : ¬ RTPHeader.csrccount packet ≤ index := by
          rw [countEq]
          exact Nat.not_le.mpr inRange
        rw [getCSRC, if_neg inside]
        exact carried.csrc inRange
      hasextension := extensionEq
      extension := by
        intro extended
        obtain ⟨identifierEq, wordsEq, contentEq⟩ := carried.exthdrlen extended
        rw [← extensionEq] at extended
        simp only [extended, if_true, wordsEq]
        exact ⟨identifierEq, contentEq⟩
      payload := by
        simp only [carried.payloadoffset, payloadEq, Int.toNat_natCast]
        exact carried.payload }

/-- Each packet that `BuildPacket` builds is accepted by `ParseRawPacket`, which gives back
the arguments of the builder, wherever the bytes of the packet have come to lie. -/
theorem parseRawPacket_buildPacket {args : BuildArgs} {buffer : Memory} {maxsize : Nat}
    {built : Built} (success : buildPacket args buffer maxsize = .ok built)
    (small : args.payloadlen < 2147483648) (packet : Memory)
    (arrived : read packet 0 built.members.packetlength =
      read built.packet 0 built.members.packetlength) :
    ∃ parsed, parseRawPacket packet built.members.packetlength = some parsed ∧
      parsed.Denotes packet args ∧ parsed.packetlength = built.members.packetlength := by
  obtain ⟨buildable, rfl⟩ := buildPacket_eq_ok_iff.mp success
  have lengthEq : args.members.packetlength = args.bytes.length := args.packetlength_eq small
  simp only [lengthEq] at arrived ⊢
  have carried : args.Carried packet :=
    { few := buildable.few
      sevenBits := buildable.sevenBits
      written := arrived.trans (args.written_write buffer) }
  exact denotes_of_carried carried buildable.notReport small

/-- A packet with a contributing source, an extension of one word and two bytes of payload. -/
theorem parseRawPacket_buildPacket_extended :
    let args : BuildArgs :=
      { payloadtype := 96, payloaddata := ofBytes [0x67, 0x42], payloadlen := 2, seqnr := 65535
        timestamp := 90000, ssrc := 7, gotmarker := true, numcsrcs := 1, csrcs := fun _ => 9
        gotextension := true, extensionid := 1, extensionlenNumwords := 1
        extensiondata := ofBytes [1, 2, 3, 4] }
    ∃ parsed, parseRawPacket (args.write fun _ => 0) 26 = some parsed ∧
      parsed.Denotes (args.write fun _ => 0) args := by
  intro args
  have success : buildPacket args (fun _ => 0) 1400 =
      .ok { packet := args.write fun _ => 0, members := args.members } := rfl
  have payloadSmall : args.payloadlen < 2147483648 := by decide
  obtain ⟨parsed, parsedEq, denotes, _⟩ := parseRawPacket_buildPacket success payloadSmall
    (args.write fun _ => 0) rfl
  exact ⟨parsed, parsedEq, denotes⟩

/-! ### Building a parsed packet again -/

/-- What the accessors of a parsed packet return, as arguments of `BuildPacket`. -/
def rebuildArgs (parsed : RTPPacket) (packet : Memory) : BuildArgs :=
  { payloadtype := UInt8.ofNat parsed.payloadtype
    payloaddata := fun address => packet (parsed.payload + address)
    payloadlen := parsed.payloadlength
    seqnr := UInt16.ofNat parsed.extseqnr
    timestamp := UInt32.ofNat parsed.timestamp
    ssrc := UInt32.ofNat parsed.ssrc
    gotmarker := parsed.hasmarker
    numcsrcs := UInt8.ofNat parsed.numcsrcs
    csrcs := fun index => UInt32.ofNat (parsed.getCSRC packet index)
    gotextension := parsed.hasextension
    extensionid := UInt16.ofNat parsed.extid
    extensionlenNumwords := UInt16.ofNat (parsed.extensionlength / 4)
    extensiondata := fun address => packet (parsed.extension + address) }

private theorem first_byte_again :
    ∀ byte : UInt8, (byte >>> 6).toNat = 2 →
      0x80 ||| (if byte &&& 0x10 != 0 then 0x10 else 0) |||
        (UInt8.ofNat (byte &&& 0x0f).toNat &&& 0x0f) = byte &&& 0xdf :=
  forall_byte (by decide +kernel)

private theorem second_byte_again :
    ∀ byte : UInt8, (if byte &&& 0x80 != 0 then 0x80 else 0) |||
      (UInt8.ofNat (byte &&& 0x7f).toNat &&& 127) = byte :=
  forall_byte (by decide +kernel)

theorem bytes32_bigEndian32 (packet : Memory) (start : Nat) :
    bytes32 (bigEndian32 packet start) = read packet start 4 := by
  have low := bigEndian16_lt (packet (start + 2)) (packet (start + 3))
  have highEq : bigEndian32 packet start / 65536 =
      bigEndian16 (packet start) (packet (start + 1)) := by
    rw [bigEndian32]
    omega
  have lowEq : bigEndian32 packet start % 65536 =
      bigEndian16 (packet (start + 2)) (packet (start + 3)) := by
    rw [bigEndian32]
    omega
  rw [bytes32, ← bytes16_mod (bigEndian32 packet start), highEq, lowEq, bytes16_bigEndian16,
    bytes16_bigEndian16]
  rfl

theorem bigEndian32_lt (packet : Memory) (start : Nat) :
    bigEndian32 packet start < 4294967296 := by
  have high := bigEndian16_lt (packet start) (packet (start + 1))
  have low := bigEndian16_lt (packet (start + 2)) (packet (start + 3))
  rw [bigEndian32]
  omega

structure Fields (packet : Memory) (packetlen : Nat) (parsed : RTPPacket) : Prop where
  version : RTPHeader.version packet = rtpVersion
  hasextension : parsed.hasextension = RTPHeader.extension packet
  extended : parsed.hasextension = true →
    parsed.extid = bigEndian16 (packet (extensionOffset packet))
        (packet (extensionOffset packet + 1)) ∧
      parsed.extension = extensionOffset packet + 4 ∧
      parsed.extensionlength = exthdrlen packet * 4
  hasmarker : parsed.hasmarker = RTPHeader.marker packet
  numcsrcs : parsed.numcsrcs = RTPHeader.csrccount packet
  payloadtype : parsed.payloadtype = RTPHeader.payloadtype packet
  extseqnr : parsed.extseqnr = bigEndian16 (packet 2) (packet 3)
  timestamp : parsed.timestamp = bigEndian32 packet 4
  ssrc : parsed.ssrc = bigEndian32 packet 8

theorem fields_of_parseRawPacket {packet : Memory} {packetlen : Nat} {parsed : RTPPacket}
    (accepted : parseRawPacket packet packetlen = some parsed) :
    Fields packet packetlen parsed := by
  simp only [parseRawPacket, Option.ite_none_left_eq_some, Option.some.injEq] at accepted
  rcases accepted with ⟨_, version, _, _, _, _, rfl⟩
  exact
    { version := not_not.mp version
      hasextension := rfl
      extended := fun isSet => by
        simp only at isSet
        simp only [isSet, if_true]
        exact ⟨trivial, trivial, trivial⟩
      hasmarker := rfl
      numcsrcs := rfl
      payloadtype := rfl
      extseqnr := rfl
      timestamp := rfl
      ssrc := rfl }

section Rebuilding

variable {packet : Memory} {packetlen : Nat} {parsed : RTPPacket}

theorem csrccount_lt (packet : Memory) : RTPHeader.csrccount packet < 16 := by
  rw [RTPHeader.csrccount, UInt8.toNat_and]
  exact Nat.lt_succ_of_le Nat.and_le_right

theorem headerBytes_rebuildArgs (fields : Fields packet packetlen parsed) :
    (parsed.rebuildArgs packet).headerBytes = (packet 0 &&& 0xdf) :: read packet 1 11 := by
  have firstEq : (parsed.rebuildArgs packet).firstByte = packet 0 &&& 0xdf := by
    change 0x80 ||| (if parsed.hasextension then 0x10 else 0) |||
      (UInt8.ofNat parsed.numcsrcs &&& 0x0f) = _
    rw [fields.hasextension, fields.numcsrcs]
    exact first_byte_again (packet 0) fields.version
  have secondEq : (parsed.rebuildArgs packet).secondByte = packet 1 := by
    change (if parsed.hasmarker then 0x80 else 0) |||
      (UInt8.ofNat parsed.payloadtype &&& 127) = _
    rw [fields.hasmarker, fields.payloadtype]
    exact second_byte_again (packet 1)
  have sequenceEq : bytes16 (UInt16.ofNat parsed.extseqnr).toNat = [packet 2, packet 3] := by
    rw [fields.extseqnr, UInt16.toNat_ofNat', bytes16_mod, bytes16_bigEndian16]
  have wordEq : ∀ start, bytes32 (UInt32.ofNat (bigEndian32 packet start)).toNat =
      read packet start 4 := by
    intro start
    rw [UInt32.toNat_ofNat_of_lt' (bigEndian32_lt packet start), bytes32_bigEndian32]
  have timestampEq := wordEq 4
  have ssrcEq := wordEq 8
  rw [← fields.timestamp] at timestampEq
  rw [← fields.ssrc] at ssrcEq
  rw [BuildArgs.headerBytes, firstEq, secondEq]
  change [packet 0 &&& 0xdf, packet 1] ++ bytes16 (UInt16.ofNat parsed.extseqnr).toNat ++
    bytes32 (UInt32.ofNat parsed.timestamp).toNat ++ bytes32 (UInt32.ofNat parsed.ssrc).toNat = _
  rw [sequenceEq, timestampEq, ssrcEq]
  rfl

theorem csrcList_rebuildArgs {count : Nat} (few : count ≤ parsed.numcsrcs) :
    (parsed.rebuildArgs packet).csrcList count = read packet 12 (count * 4) := by
  induction count with
  | zero => rfl
  | succ count ih =>
      have inside : ¬ parsed.numcsrcs ≤ count := by omega
      have sourceEq : (parsed.rebuildArgs packet).csrcs count =
          UInt32.ofNat (bigEndian32 packet (12 + count * 4)) := by
        change UInt32.ofNat (parsed.getCSRC packet count) = _
        rw [getCSRC, if_neg inside]
      rw [BuildArgs.csrcList, List.range_succ, List.flatMap_append, List.flatMap_singleton,
        sourceEq, UInt32.toNat_ofNat_of_lt' (bigEndian32_lt packet _), bytes32_bigEndian32,
        ← BuildArgs.csrcList, ih (Nat.le_of_succ_le few), Nat.succ_mul, read_append]

private theorem read_shifted (packet : Memory) (start count : Nat) :
    read (fun address => packet (start + address)) 0 count = read packet start count :=
  read_congr _ _ _ _ _ fun index _ => by rw [Nat.zero_add]

theorem extensionBytes_rebuildArgs (fields : Fields packet packetlen parsed) :
    (parsed.rebuildArgs packet).extensionBytes =
      read packet (extensionOffset packet) (payloadoffset packet - extensionOffset packet) := by
  unfold BuildArgs.extensionBytes payloadoffset
  rw [← fields.hasextension]
  by_cases isSet : parsed.hasextension = true
  · have gotExtension : (parsed.rebuildArgs packet).gotextension = true := isSet
    obtain ⟨identifierEq, startEq, lengthEq⟩ := fields.extended isSet
    have wordsRange : exthdrlen packet < 65536 := bigEndian16_lt _ _
    have wordsEq : (parsed.rebuildArgs packet).extensionlenNumwords.toNat =
        exthdrlen packet := by
      change (UInt16.ofNat (parsed.extensionlength / 4)).toNat = _
      rw [lengthEq, UInt16.toNat_ofNat']
      omega
    have identifierBytes : bytes16 (parsed.rebuildArgs packet).extensionid.toNat =
        read packet (extensionOffset packet) 2 := by
      change bytes16 (UInt16.ofNat parsed.extid).toNat = _
      rw [identifierEq, UInt16.toNat_ofNat', bytes16_mod, bytes16_bigEndian16]
      rfl
    have wordsBytes : bytes16 (exthdrlen packet) =
        read packet (extensionOffset packet + 2) 2 := by
      rw [exthdrlen, bytes16_bigEndian16]
      rfl
    have content : read (parsed.rebuildArgs packet).extensiondata 0 (exthdrlen packet * 4) =
        read packet (extensionOffset packet + 2 + 2) (exthdrlen packet * 4) := by
      rw [← startEq.trans (Nat.add_assoc _ 2 2).symm]
      exact read_shifted packet _ _
    rw [if_pos gotExtension, if_pos isSet, BuildArgs.extensionlength, wordsEq, identifierBytes,
      wordsBytes, content, ← read_append, ← read_append]
    congr 1
    omega
  · have noExtension : ¬ (parsed.rebuildArgs packet).gotextension = true := isSet
    rw [if_neg noExtension, if_neg isSet, Nat.sub_self]
    rfl

theorem numcsrcs_rebuildArgs (fields : Fields packet packetlen parsed) :
    (parsed.rebuildArgs packet).numcsrcs.toNat = parsed.numcsrcs := by
  have few := csrccount_lt packet
  rw [← fields.numcsrcs] at few
  change (UInt8.ofNat parsed.numcsrcs).toNat = _
  rw [UInt8.toNat_ofNat']
  omega

def unpadded (packet : Memory) (packetlen : Nat) : List UInt8 :=
  (packet 0 &&& 0xdf) :: read packet 1 (packetlen - numpadbytes packet packetlen - 1)

theorem bytes_rebuildArgs (small : packetlen < 2147483648)
    (accepted : parseRawPacket packet packetlen = some parsed) :
    (parsed.rebuildArgs packet).bytes = unpadded packet packetlen := by
  have fields := fields_of_parseRawPacket accepted
  have parts := accepted_of_parseRawPacket accepted
  have lengthEq := parts.length
  rw [payloadlengthOf_of_small small] at lengthEq
  have offsetEq : extensionOffset packet = 12 + parsed.numcsrcs * 4 := by
    rw [fields.numcsrcs, extensionOffset]
  have offsetLe : extensionOffset packet ≤ payloadoffset packet := by
    unfold payloadoffset
    split <;> omega
  have payloadEq : read (parsed.rebuildArgs packet).payloaddata 0
      (parsed.rebuildArgs packet).payloadlen =
        read packet (payloadoffset packet) parsed.payloadlength := by
    rw [← parts.payload]
    exact read_shifted packet _ _
  have countEq : packetlen - numpadbytes packet packetlen - 1 =
      11 + parsed.numcsrcs * 4 + (payloadoffset packet - extensionOffset packet) +
        parsed.payloadlength := by omega
  have sourcesEnd : 1 + (11 + parsed.numcsrcs * 4) = extensionOffset packet := by omega
  have extensionEnd : 1 + (11 + parsed.numcsrcs * 4 +
      (payloadoffset packet - extensionOffset packet)) = payloadoffset packet := by omega
  rw [BuildArgs.bytes, headerBytes_rebuildArgs fields, numcsrcs_rebuildArgs fields,
    csrcList_rebuildArgs (Nat.le_refl _), extensionBytes_rebuildArgs fields, payloadEq, unpadded,
    countEq, read_append, read_append, read_append, sourcesEnd, extensionEnd]
  simp only [List.cons_append]

/-- A parsed packet is built again from what the accessors say about it, unless it has one
of the payload types that stand for reports. -/
theorem buildPacket_rebuildArgs (small : packetlen < 2147483648)
    (accepted : parseRawPacket packet packetlen = some parsed) (buffer : Memory) (maxsize : Nat)
    (room : maxsize = 0 ∨ packetlen ≤ maxsize) :
    ((∃ built, buildPacket (parsed.rebuildArgs packet) buffer maxsize = .ok built) ↔
        parsed.payloadtype ≠ 72 ∧ parsed.payloadtype ≠ 73) ∧
      ∀ built, buildPacket (parsed.rebuildArgs packet) buffer maxsize = .ok built →
        read built.packet 0 built.members.packetlength = unpadded packet packetlen := by
  have fields := fields_of_parseRawPacket accepted
  have parts := accepted_of_parseRawPacket accepted
  have bytesEq := bytes_rebuildArgs small accepted
  have payloadSmall : (parsed.rebuildArgs packet).payloadlen < 2147483648 := by
    have lengthEq := parts.length
    rw [payloadlengthOf_of_small small] at lengthEq
    change parsed.payloadlength < 2147483648
    omega
  have lengthEq := (parsed.rebuildArgs packet).packetlength_eq payloadSmall
  have few := csrccount_lt packet
  have typeEq : (parsed.rebuildArgs packet).payloadtype = packet 1 &&& 0x7f := by
    change UInt8.ofNat parsed.payloadtype = _
    rw [fields.payloadtype, RTPHeader.payloadtype, UInt8.ofNat_toNat]
  have typeNat : parsed.payloadtype = (packet 1 &&& 0x7f).toNat := fields.payloadtype
  have sameType : ∀ byte : UInt8, parsed.payloadtype = byte.toNat ↔
      (parsed.rebuildArgs packet).payloadtype = byte := by
    intro byte
    rw [typeNat, typeEq]
    exact UInt8.toNat_inj
  constructor
  · constructor
    · rintro ⟨built, success⟩
      have notReport := (buildPacket_eq_ok_iff.mp success).1.notReport
      exact ⟨fun isReport => notReport.1 ((sameType 72).mp isReport),
        fun isReport => notReport.2 ((sameType 73).mp isReport)⟩
    · intro notReport
      refine ⟨_, buildPacket_eq_ok_iff.mpr ⟨?_, rfl⟩⟩
      exact
        { few := by
            rw [numcsrcs_rebuildArgs fields, fields.numcsrcs]
            exact Nat.le_of_lt_succ few
          sevenBits := by
            rw [typeEq, UInt8.le_iff_toNat_le, UInt8.toNat_and]
            exact Nat.and_le_right
          notReport := ⟨fun isReport => notReport.1 ((sameType 72).mpr isReport),
            fun isReport => notReport.2 ((sameType 73).mpr isReport)⟩
          fits := by
            rw [lengthEq, bytesEq, unpadded, List.length_cons, length_read]
            have long := parts.long
            omega }
  · intro built success
    obtain ⟨_, rfl⟩ := buildPacket_eq_ok_iff.mp success
    change read ((parsed.rebuildArgs packet).write buffer) 0
      (parsed.rebuildArgs packet).packetlength = _
    rw [lengthEq, ← bytesEq]
    exact (parsed.rebuildArgs packet).written_write buffer

end Rebuilding

/-- A packet with two bytes of padding is built again without them. -/
theorem buildPacket_rebuildArgs_padded :
    let packet := ofBytes
      [0xa0, 0x60, 0, 1, 0, 0, 0, 0, 0, 0, 0, 7, 0x67, 0x42, 0, 2]
    ∃ parsed built, parseRawPacket packet 16 = some parsed ∧
      buildPacket (parsed.rebuildArgs packet) (fun _ => 0) 1400 = .ok built ∧
      read built.packet 0 built.members.packetlength =
        [0x80, 0x60, 0, 1, 0, 0, 0, 0, 0, 0, 0, 7, 0x67, 0x42] := by
  intro packet
  have accepted : (parseRawPacket packet 16).map RTPPacket.payloadtype = some 96 := by decide
  obtain ⟨parsed, parsedEq, typeEq⟩ := Option.map_eq_some_iff.mp accepted
  obtain ⟨succeeds, bytesEq⟩ := buildPacket_rebuildArgs (by decide) parsedEq (fun _ => 0)
    1400 (Or.inr (by decide))
  obtain ⟨built, success⟩ := succeeds.mpr (by
    rw [typeEq]
    decide)
  exact ⟨parsed, built, parsedEq, success, (bytesEq built success).trans (by decide)⟩

end RTPPacket

end DShowCapture
