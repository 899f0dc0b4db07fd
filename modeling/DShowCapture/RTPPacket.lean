/-
The two readers of an RTP header on the receive path: `RTPPacket::ParseRawPacket` of the
library under `jrtp/jrtplib/rtppacket.cpp`, which checks and cuts a raw packet, and the
accessor `RTPFrame`, which `DecodeFrames` applies to the whole packet again.

`size_t` has 32 bits, as in the builds of the project, and the bit fields of the header lie
as on a little-endian machine.
-/
import DShowCapture.Datagram

namespace DShowCapture

open ByteMemory FixedWidth

/-! ### The library's parser -/

namespace RTPHeader

def csrccount (packet : Memory) : Nat := (packet 0 &&& 0x0f).toNat

def extension (packet : Memory) : Bool := packet 0 &&& 0x10 != 0

def padding (packet : Memory) : Bool := packet 0 &&& 0x20 != 0

def version (packet : Memory) : Nat := (packet 0 >>> 6).toNat

def payloadtype (packet : Memory) : Nat := (packet 1 &&& 0x7f).toNat

def marker (packet : Memory) : Bool := packet 1 &&& 0x80 != 0

end RTPHeader

def bigEndian32 (packet : Memory) (start : Nat) : Nat :=
  bigEndian16 (packet start) (packet (start + 1)) * 65536 +
    bigEndian16 (packet (start + 2)) (packet (start + 3))

/-- The members that `ParseRawPacket` fills in; pointers are offsets in the packet. -/
structure RTPPacket where
  hasextension : Bool
  extid : Nat
  extension : Nat
  extensionlength : Nat
  hasmarker : Bool
  numcsrcs : Nat
  payloadtype : Nat
  extseqnr : Nat
  timestamp : Nat
  ssrc : Nat
  payload : Nat
  packetlength : Nat
  payloadlength : Nat
  deriving DecidableEq, Repr

namespace RTPPacket

def rtpVersion : Nat := 2
def rtcpTypeSR : Nat := 200
def rtcpTypeRR : Nat := 201

def extensionOffset (packet : Memory) : Nat := 12 + RTPHeader.csrccount packet * 4

def exthdrlen (packet : Memory) : Nat :=
  bigEndian16 (packet (extensionOffset packet + 2)) (packet (extensionOffset packet + 3))

def payloadoffset (packet : Memory) : Nat :=
  if RTPHeader.extension packet then extensionOffset packet + 4 + exthdrlen packet * 4
  else extensionOffset packet

def numpadbytes (packet : Memory) (packetlen : Nat) : Nat :=
  if RTPHeader.padding packet then (packet (packetlen - 1)).toNat else 0

/-- The length of the payload as an `int`, from a subtraction of `size_t`. -/
def payloadlengthOf (packet : Memory) (packetlen : Nat) : Int :=
  i32 (u32 ((packetlen : Int) - numpadbytes packet packetlen - payloadoffset packet))

/-- `ParseRawPacket` for a packet from the RTP port; nothing stands for
`ERR_RTP_PACKET_INVALIDPACKET`. -/
def parseRawPacket (packet : Memory) (packetlen : Nat) : Option RTPPacket :=
  if packetlen < 12 then none
  else if RTPHeader.version packet ≠ rtpVersion then none
  else if RTPHeader.marker packet ∧ RTPHeader.payloadtype packet = rtcpTypeSR &&& 127 then none
  else if RTPHeader.marker packet ∧ RTPHeader.payloadtype packet = rtcpTypeRR &&& 127 then none
  else if RTPHeader.padding packet ∧ numpadbytes packet packetlen = 0 then none
  else if payloadlengthOf packet packetlen < 0 then none
  else
    let offset := extensionOffset packet
    let hasextension := RTPHeader.extension packet
    some
      { hasextension := hasextension
        extid := if hasextension then bigEndian16 (packet offset) (packet (offset + 1)) else 0
        extension := if hasextension then offset + 4 else 0
        extensionlength := if hasextension then exthdrlen packet * 4 else 0
        hasmarker := RTPHeader.marker packet
        numcsrcs := RTPHeader.csrccount packet
        payloadtype := RTPHeader.payloadtype packet
        extseqnr := bigEndian16 (packet 2) (packet 3)
        timestamp := bigEndian32 packet 4
        ssrc := bigEndian32 packet 8
        payload := payloadoffset packet
        packetlength := packetlen
        payloadlength := (payloadlengthOf packet packetlen).toNat }

structure Accepted (packet : Memory) (packetlen : Nat) (parsed : RTPPacket) : Prop where
  long : 12 ≤ packetlen
  padded : RTPHeader.padding packet = true → 0 < numpadbytes packet packetlen
  nonnegative : 0 ≤ payloadlengthOf packet packetlen
  payload : parsed.payload = payloadoffset packet
  length : (parsed.payloadlength : Int) = payloadlengthOf packet packetlen

theorem accepted_of_parseRawPacket {packet : Memory} {packetlen : Nat} {parsed : RTPPacket}
    (parsedEq : parseRawPacket packet packetlen = some parsed) :
    Accepted packet packetlen parsed := by
  simp only [parseRawPacket, Option.ite_none_left_eq_some, Option.some.injEq] at parsedEq
  rcases parsedEq with ⟨long, _, _, _, padded, nonnegative, rfl⟩
  have atLeastZero : 0 ≤ payloadlengthOf packet packetlen := Int.not_lt.mp nonnegative
  refine
    { long := Nat.not_lt.mp long
      padded := ?_
      nonnegative := atLeastZero
      payload := rfl
      length := ?_ }
  · intro isPadded
    exact Nat.pos_of_ne_zero fun isZero => padded ⟨isPadded, isZero⟩
  · dsimp only
    exact Int.toNat_of_nonneg atLeastZero

theorem payloadoffset_le (packet : Memory) : payloadoffset packet ≤ 262216 := by
  have count : RTPHeader.csrccount packet ≤ 15 := by
    rw [RTPHeader.csrccount, UInt8.toNat_and]
    exact Nat.and_le_right
  have words : exthdrlen packet < 65536 := bigEndian16_lt _ _
  unfold payloadoffset extensionOffset
  split <;> omega

theorem payloadlengthOf_of_small {packet : Memory} {packetlen : Nat}
    (small : packetlen < 2147483648) :
    payloadlengthOf packet packetlen =
      (packetlen : Int) - numpadbytes packet packetlen - payloadoffset packet := by
  have offset := payloadoffset_le packet
  have padding : numpadbytes packet packetlen < 256 := by
    unfold numpadbytes
    split
    · exact UInt8.toNat_lt _
    · decide
  rw [payloadlengthOf]
  unfold i32 u32
  omega

end RTPPacket

/-! ### The accessor on the same packet -/

/-- The frame that `DecodeFrames` makes of `GetPacketData` and `GetPacketLength`: the length
passes through an `int`, an `unsigned` and an `int`. -/
def RTPFrame.ofPacket (packet : Memory) (packetlen : Nat) : RTPFrame :=
  { frame := packet, frameLen := i32 (u32 (i32 packetlen)) }

structure RTPFrame.Denotes (rtp : RTPFrame) (parsed : RTPPacket) : Prop where
  ptr : rtp.getPayloadPtr = parsed.payload
  size : rtp.getPayloadSize = parsed.payloadlength

section Agreement

variable {packet : Memory} {packetlen : Nat}

theorem frameLen_ofPacket (inRange : packetlen < 4294967296) :
    (RTPFrame.ofPacket packet packetlen).frameLen =
      if packetlen < 2147483648 then (packetlen : Int) else (packetlen : Int) - 4294967296 := by
  change i32 (u32 (i32 packetlen)) = _
  unfold i32 u32
  split <;> omega

private theorem extension_bit (byte : UInt8) :
    (byte &&& 0x10 != 0) = false ↔ byte &&& 0x10 = 0 := by
  rw [bne_eq_false_iff_eq]

theorem getHeaderSize_ofPacket (small : packetlen < 2147483648) (long : 12 ≤ packetlen) :
    (RTPFrame.ofPacket packet packetlen).getHeaderSize =
      if RTPHeader.extension packet then
        if RTPPacket.extensionOffset packet + 4 < packetlen then
          RTPPacket.extensionOffset packet + 4 + RTPPacket.exthdrlen packet
        else 0
      else RTPPacket.extensionOffset packet := by
  have lengthEq := @frameLen_ofPacket packet packetlen (by omega)
  rw [if_pos small] at lengthEq
  have notShort : ¬ (RTPFrame.ofPacket packet packetlen).frameLen < 12 := by omega
  have frameEq : (RTPFrame.ofPacket packet packetlen).frame = packet := rfl
  rw [RTPFrame.getHeaderSize, if_neg notShort, frameEq]
  cases extensionEq : RTPHeader.extension packet with
  | false =>
      rw [if_pos ((extension_bit _).mp extensionEq), if_neg Bool.false_ne_true]
      rfl
  | true =>
      have isSet : ¬ packet 0 &&& 0x10 = 0 := by
        intro isClear
        rw [RTPHeader.extension, (extension_bit _).mpr isClear] at extensionEq
        cases extensionEq
      have boundIff : ((RTPPacket.extensionOffset packet + 4 : Nat) : Int) <
          (RTPFrame.ofPacket packet packetlen).frameLen ↔
            RTPPacket.extensionOffset packet + 4 < packetlen := by
        rw [lengthEq]
        omega
      rw [if_neg isSet, if_pos rfl]
      simp only [RTPPacket.extensionOffset, RTPHeader.csrccount] at boundIff
      simp only [boundIff, RTPPacket.extensionOffset, RTPHeader.csrccount, RTPPacket.exthdrlen,
        bigEndian16_eq, Nat.shiftLeft_eq]
      split
      · omega
      · rfl

/-- The two readers of an accepted packet agree if and only if the packet has a length that an
`int` can hold and no padding, and an extension, if there is one, has no words and does not
end the packet. -/
theorem denotes_iff (inRange : packetlen < 4294967296) {parsed : RTPPacket}
    (accepted : RTPPacket.parseRawPacket packet packetlen = some parsed) :
    (RTPFrame.ofPacket packet packetlen).Denotes parsed ↔
      packetlen < 2147483648 ∧ RTPHeader.padding packet = false ∧
        (RTPHeader.extension packet = true →
          RTPPacket.exthdrlen packet = 0 ∧ RTPPacket.extensionOffset packet + 4 < packetlen) := by
  have parts := RTPPacket.accepted_of_parseRawPacket accepted
  have long := parts.long
  have lengthEq := @frameLen_ofPacket packet packetlen inRange
  have offsetLong : 12 ≤ RTPPacket.payloadoffset packet := by
    unfold RTPPacket.payloadoffset RTPPacket.extensionOffset
    split <;> omega
  have sizeEq : (RTPFrame.ofPacket packet packetlen).getPayloadSize =
      u32 ((RTPFrame.ofPacket packet packetlen).frameLen -
        (RTPFrame.ofPacket packet packetlen).getPayloadPtr) := rfl
  by_cases small : packetlen < 2147483648
  · have headerEq : (RTPFrame.ofPacket packet packetlen).getPayloadPtr = _ :=
      getHeaderSize_ofPacket small long
    rw [if_pos small] at lengthEq
    rw [lengthEq] at sizeEq
    have exact := parts.length
    have nonnegative := parts.nonnegative
    rw [RTPPacket.payloadlengthOf_of_small small] at exact nonnegative
    constructor
    · intro denotes
      have ptrEq := denotes.ptr
      have payloadEq := denotes.size
      rw [parts.payload] at ptrEq
      rw [sizeEq, ptrEq] at payloadEq
      have noPadding : RTPPacket.numpadbytes packet packetlen = 0 := by
        unfold u32 at payloadEq
        omega
      refine ⟨small, ?_, ?_⟩
      · by_contra isSet
        have padded := parts.padded (Bool.not_eq_false _ ▸ isSet)
        omega
      · intro hasExtension
        rw [headerEq, if_pos hasExtension] at ptrEq
        have offsetEq : RTPPacket.payloadoffset packet = _ := if_pos hasExtension
        rw [offsetEq] at ptrEq offsetLong
        split at ptrEq
        · omega
        · omega
    · rintro ⟨_, noPadding, extended⟩
      have padEq : RTPPacket.numpadbytes packet packetlen = 0 := by
        rw [RTPPacket.numpadbytes, if_neg (by rw [noPadding]; exact Bool.false_ne_true)]
      have ptrEq : (RTPFrame.ofPacket packet packetlen).getPayloadPtr =
          RTPPacket.payloadoffset packet := by
        rw [headerEq, RTPPacket.payloadoffset]
        by_cases hasExtension : RTPHeader.extension packet = true
        · obtain ⟨noWords, inside⟩ := extended hasExtension
          rw [if_pos hasExtension, if_pos hasExtension, if_pos inside, noWords]
        · rw [if_neg hasExtension, if_neg hasExtension]
      refine { ptr := ptrEq.trans parts.payload.symm, size := ?_ }
      rw [sizeEq, ptrEq]
      unfold u32
      omega
  · have noHeader : (RTPFrame.ofPacket packet packetlen).getPayloadPtr = 0 := by
      rw [if_neg small] at lengthEq
      rw [RTPFrame.getPayloadPtr, RTPFrame.getHeaderSize, if_pos (by omega)]
    refine iff_of_false (fun denotes => ?_) (fun holds => small holds.1)
    have ptrEq := denotes.ptr
    rw [noHeader, parts.payload] at ptrEq
    omega

/-- A packet with one contributing source and a payload of two bytes. -/
theorem denotes_contributingSource :
    let packet := ofBytes
      [0x81, 0x60, 0, 1, 0, 0, 0, 0, 0, 0, 0, 7, 0, 0, 0, 9, 0x67, 0x42]
    ∃ parsed, RTPPacket.parseRawPacket packet 18 = some parsed ∧
      (RTPFrame.ofPacket packet 18).Denotes parsed := by
  intro packet
  have accepted : (RTPPacket.parseRawPacket packet 18).isSome = true := by decide
  obtain ⟨parsed, parsedEq⟩ := Option.isSome_iff_exists.mp accepted
  exact ⟨parsed, parsedEq, (denotes_iff (by decide) parsedEq).mpr
    ⟨by decide, by decide, fun isSet => absurd isSet (by decide)⟩⟩

end Agreement

/-- Two bytes of padding: the accessor counts them as payload. -/
theorem not_denotes_padding :
    let packet := ofBytes
      [0xa0, 0x60, 0, 1, 0, 0, 0, 0, 0, 0, 0, 7, 0x67, 0x42, 0, 2]
    ∃ parsed, RTPPacket.parseRawPacket packet 16 = some parsed ∧
      ¬ (RTPFrame.ofPacket packet 16).Denotes parsed := by
  intro packet
  have accepted : (RTPPacket.parseRawPacket packet 16).map RTPPacket.payloadlength = some 2 := by
    decide
  obtain ⟨parsed, parsedEq, lengthEq⟩ := Option.map_eq_some_iff.mp accepted
  refine ⟨parsed, parsedEq, fun denotes => ?_⟩
  have sizeEq := denotes.size
  have counted : (RTPFrame.ofPacket packet 16).getPayloadSize = 4 := by decide
  rw [lengthEq, counted] at sizeEq
  exact absurd sizeEq (by decide)

end DShowCapture
