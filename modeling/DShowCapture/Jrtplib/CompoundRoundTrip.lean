/-
What a compound packet means: the reports, descriptions and goodbyes that were handed to the
builder are what the accessors find in the packet that it has built, up to the size at which
the length in a header no longer counts its words.

The builder spreads more than thirty-one report blocks or sources over several packets, so the
parsed packets are the composition cut into groups; nothing else is lost or moved, but for the
upper byte of a count of lost packets.
-/
import DShowCapture.Jrtplib.CompoundPacketBuilder

namespace DShowCapture.Jrtplib

open FixedWidth RFC3550 RTCPCompoundPacketBuilder

/-! ### What has been handed to the builder -/

structure Chunk where
  ssrc : UInt32
  items : List RTCPSDESItem
  deriving DecidableEq

structure APP where
  subtype : UInt8
  ssrc : UInt32
  name : APPName
  appdata : List UInt8
  deriving DecidableEq

structure BYE where
  ssrcs : List UInt32
  reason : ShortData
  deriving DecidableEq

structure Composition where
  senderssrc : Option UInt32
  info : Option SenderInfo
  blocks : List ReportBlock
  chunks : List Chunk
  apps : List APP
  byes : List BYE
  deriving DecidableEq

namespace Composition

def empty : Composition :=
  { senderssrc := none, info := none, blocks := [], chunks := [], apps := [], byes := [] }

def withItem (self : Composition) (item : RTCPSDESItem) : Composition :=
  { self with
    chunks := self.chunks.modify (self.chunks.length - 1) fun chunk =>
      { chunk with items := chunk.items ++ [item] } }

def add (self : Composition) : Call → Composition
  | .initBuild _ _ => self
  | .startSenderReport senderssrc info =>
      { self with senderssrc := some senderssrc, info := some info }
  | .startReceiverReport senderssrc => { self with senderssrc := some senderssrc, info := none }
  | .addReportBlock block => { self with blocks := self.blocks ++ [block] }
  | .addSDESSource ssrc => { self with chunks := self.chunks ++ [{ ssrc := ssrc, items := [] }] }
  | .addSDESNormalItem t itemdata =>
      self.withItem { sdesid := (itemId t).getD 0, itemdata := itemdata.bytes }
  | .addSDESPrivateItem pre value =>
      self.withItem
        { sdesid := 8
          itemdata := UInt8.ofNat pre.bytes.length :: (pre.bytes ++ value.bytes) }
  | .addBYEPacket ssrcs reason =>
      { self with byes := self.byes ++ [{ ssrcs := ssrcs, reason := reason }] }
  | .addAPPPacket subtype ssrc name appdata =>
      { self with
        apps := self.apps ++
          [{ subtype := subtype, ssrc := ssrc, name := name, appdata := appdata }] }

def composed (builder : RTCPCompoundPacketBuilder) (self : Composition) :
    List Call → Composition
  | [] => self
  | call :: rest =>
      match builder.perform call with
      | .error _ => composed builder self rest
      | .ok next => composed next (self.add call) rest

end Composition

/-! ### What is to be found in the packet -/

def signed24 (value : Int) : Int := (value + 8388608) % 16777216 - 8388608

def SenderInfo.value (self : SenderInfo) : RTCPSenderReport :=
  { ntptimeMsw := self.ntptimeMsw.toNat
    ntptimeLsw := self.ntptimeLsw.toNat
    rtptimestamp := self.rtptimestamp.toNat
    packetcount := self.packetcount.toNat
    octetcount := self.octetcount.toNat }

def ReportBlock.value (self : ReportBlock) : RTCPReceiverReport :=
  { ssrc := self.ssrc.toNat
    fractionlost := self.fractionlost
    packetslost := signed24 self.packetslost
    exthighseqnr := self.exthighestseq.toNat
    jitter := self.jitter.toNat
    lsr := self.lsr.toNat
    dlsr := self.dlsr.toNat }

def Chunk.value (self : Chunk) : RTCPSDESChunk :=
  { ssrc := self.ssrc.toNat, items := self.items }

def APP.value (self : APP) : RTCPContents :=
  .app self.subtype.toNat self.ssrc.toNat self.name.bytes self.appdata

def BYE.value (self : BYE) : RTCPContents :=
  .bye (self.ssrcs.map UInt32.toNat) self.reason.bytes

def groups {Item : Type} (items : List Item) : List (List Item) :=
  if items.length ≤ 31 then if items.isEmpty then [] else [items]
  else items.take 31 :: groups (items.drop 31)
termination_by items.length
decreasing_by
  simp only [List.length_drop]
  omega

def reportContents (senderssrc : UInt32) (info : Option SenderInfo) (blocks : List ReportBlock) :
    RTCPContents :=
  match info with
  | some info => .sr senderssrc.toNat info.value (blocks.map ReportBlock.value)
  | none => .rr senderssrc.toNat (blocks.map ReportBlock.value)

/-- The first packet stands also when there are no blocks. -/
def reportsContents (senderssrc : UInt32) (info : Option SenderInfo)
    (blocks : List ReportBlock) : List RTCPContents :=
  reportContents senderssrc info (blocks.take 31) ::
    (groups (blocks.drop 31)).map (reportContents senderssrc none)

def Composition.contents (self : Composition) : List RTCPContents :=
  reportsContents (self.senderssrc.getD 0) self.info self.blocks ++
    ((groups self.chunks).map fun chunks => .sdes (chunks.map Chunk.value)) ++
    self.apps.map APP.value ++ self.byes.map BYE.value

/-! ### One packet behind the other -/

structure Framed (packet : List UInt8) (hdr : RTCPCommonHeader) : Prop where
  header : ∀ rest, RTCPCommonHeader.ofBytes (packet ++ rest) = .ok hdr
  version : hdr.version = RTPPacket.rtpVersion
  unpadded : hdr.padding = false
  length : (hdr.length + 1) * 4 = packet.length

def Yields (packet : List UInt8) (contents : RTCPContents) : Prop :=
  ∃ hdr, Framed packet hdr ∧ (RTCPPacket.new hdr packet).contents = .ok contents

theorem Framed.checkHeader {packet : List UInt8} {hdr : RTCPCommonHeader}
    (framed : Framed packet hdr) {first : Bool}
    (report : first = true → hdr.packettype = RTPPacket.rtcpTypeSR ∨
      hdr.packettype = RTPPacket.rtcpTypeRR) (rest : List UInt8) :
    checkHeader first (packet ++ rest) = .ok hdr := by
  refine checkHeader_eq_ok_iff.mpr ⟨framed.header rest, ?_⟩
  exact
    { version := framed.version
      report := report
      fits := by
        rw [framed.length, List.length_append]
        exact Nat.le_add_right _ _
      last := fun padded => by
        rw [framed.unpadded] at padded
        cases padded }

theorem parseLoop_append {packet : List UInt8} {hdr : RTCPCommonHeader}
    (framed : Framed packet hdr) {first : Bool}
    (report : first = true → hdr.packettype = RTPPacket.rtcpTypeSR ∨
      hdr.packettype = RTPPacket.rtcpTypeRR) {rest : List UInt8} {packets : List RTCPPacket}
    (behind : (rest = [] ∧ packets = []) ∨
      (4 ≤ rest.length ∧ parseLoop false rest = .ok packets)) :
    parseLoop first (packet ++ rest) = .ok (RTCPPacket.new hdr packet :: packets) := by
  have dropEq : (packet ++ rest).drop ((hdr.length + 1) * 4) = rest :=
    List.drop_left' framed.length.symm
  have takeEq : (packet ++ rest).take ((hdr.length + 1) * 4) = packet :=
    List.take_left' framed.length.symm
  rw [parseLoop, framed.checkHeader report rest]
  simp only
  rw [dropEq, takeEq]
  rcases behind with ⟨rfl, rfl⟩ | ⟨more, restEq⟩
  · rfl
  · rw [if_pos more, restEq]

theorem Framed.four_le {packet : List UInt8} {hdr : RTCPCommonHeader}
    (framed : Framed packet hdr) : 4 ≤ packet.length := by
  have lengthEq := framed.length
  omega

theorem parseLoop_flatten {packet : List UInt8} {content : RTCPContents} (first : Bool)
    (yields : ∃ hdr, Framed packet hdr ∧ (RTCPPacket.new hdr packet).contents = .ok content ∧
      (first = true → hdr.packettype = RTPPacket.rtcpTypeSR ∨
        hdr.packettype = RTPPacket.rtcpTypeRR))
    {packets : List (List UInt8)} {contents : List RTCPContents}
    (rest : List.Forall₂ Yields packets contents) :
    ∃ parsed, parseLoop first (packet ++ packets.flatten) = .ok parsed ∧
      contentsOf parsed = .ok (content :: contents) := by
  induction rest generalizing packet content first with
  | nil =>
      obtain ⟨hdr, framed, contentsEq, report⟩ := yields
      exact ⟨_, parseLoop_append framed report (Or.inl ⟨rfl, rfl⟩),
        contentsOf_cons contentsEq rfl⟩
  | cons next others ih =>
      obtain ⟨hdr, framed, contentsEq, report⟩ := yields
      obtain ⟨nextHdr, nextFramed, nextContentsEq⟩ := next
      obtain ⟨parsed, parsedEq, restContents⟩ := ih false
        ⟨nextHdr, nextFramed, nextContentsEq, fun impossible => by cases impossible⟩
      refine ⟨_, parseLoop_append framed report (Or.inr ⟨?_, ?_⟩),
        contentsOf_cons contentsEq restContents⟩
      · have long := nextFramed.four_le
        rw [List.flatten_cons, List.length_append]
        omega
      · rw [List.flatten_cons]
        exact parsedEq

theorem countByte_bits :
    ∀ count, count < 32 →
      ((0x80 ||| UInt8.ofNat count) &&& 0x1f).toNat = count ∧
        ((0x80 ||| UInt8.ofNat count) &&& 0x20 != 0) = false ∧
        ((0x80 ||| UInt8.ofNat count) >>> 6).toNat = 2 := by
  decide +kernel

def headerOf (count : Nat) (packettype : UInt8) (size : Nat) : RTCPCommonHeader :=
  { count := count
    padding := false
    version := 2
    packettype := packettype.toNat
    length := size / 4 - 1 }

theorem framed_of_commonHeader {count : Nat} (few : count ≤ 31) (packettype : UInt8)
    {body : List UInt8} {size : Nat} (sizeEq : size = 4 + body.length) (words : size % 4 = 0)
    (short : size ≤ 262144) :
    Framed (commonHeader count packettype size ++ body) (headerOf count packettype size) := by
  obtain ⟨countEq, paddingEq, versionEq⟩ := countByte_bits count (by omega)
  refine
    { header := fun rest => ?_
      version := rfl
      unpadded := rfl
      length := ?_ }
  · have lengthEq : bigEndian16 (UInt8.ofNat ((size / 4 - 1) / 256)) (UInt8.ofNat (size / 4 - 1)) =
        size / 4 - 1 := by
      rw [bigEndian16_eq, UInt8.toNat_ofNat', UInt8.toNat_ofNat']
      omega
    change Except.ok (RTCPCommonHeader.mk _ _ _ _ _) = _
    rw [countEq, paddingEq, versionEq, lengthEq]
    rfl
  · rw [List.length_append, length_commonHeader]
    change (size / 4 - 1 + 1) * 4 = _
    omega

/-! ### Reading back what has been written -/

theorem number32_bytes32 {value : Nat} (inRange : value < 4294967296) (rest : List UInt8) :
    number32 (bytes32 value ++ rest) = .ok value := by
  change Except.ok (_ * 65536 + _) = Except.ok _
  rw [bigEndian16_eq, bigEndian16_eq, UInt8.toNat_ofNat', UInt8.toNat_ofNat', UInt8.toNat_ofNat',
    UInt8.toNat_ofNat']
  congr 1
  omega

theorem number32_uint32 (value : UInt32) (rest : List UInt8) :
    number32 (bytes32 value.toNat ++ rest) = .ok value.toNat :=
  number32_bytes32 value.toNat_lt rest

theorem drop_bytes32 (value : Nat) (rest : List UInt8) : (bytes32 value ++ rest).drop 4 = rest :=
  List.drop_left' rfl

theorem lostPacketCount_bytes (packetslost : Int) :
    lostPacketCount (UInt8.ofNat (u32 packetslost / 65536)) (UInt8.ofNat (u32 packetslost / 256))
      (UInt8.ofNat (u32 packetslost)) = signed24 packetslost := by
  have wide := natCast_u32 packetslost
  simp only [lostPacketCount, UInt8.toNat_ofNat', signed24]
  split
  · push_cast
    omega
  · push_cast
    omega

theorem reportAt_bytes (block : ReportBlock) (rest : List UInt8) :
    reportAt (block.bytes ++ rest) = .ok block.value := by
  have lost := lostPacketCount_bytes block.packetslost
  simp only [reportAt, ReportBlock.bytes, List.append_assoc, number32_uint32, drop_bytes32,
    List.cons_append, List.nil_append, bind, Except.bind]
  have words (first second third : UInt32) (behind : List UInt8) :
      (bytes32 first.toNat ++ (bytes32 second.toNat ++ (bytes32 third.toNat ++ behind))).drop 8 =
        bytes32 third.toNat ++ behind := rfl
  have last (first second third fourth : UInt32) (behind : List UInt8) :
      (bytes32 first.toNat ++ (bytes32 second.toNat ++ (bytes32 third.toNat ++
        (bytes32 fourth.toNat ++ behind)))).drop 12 = bytes32 fourth.toNat ++ behind := rfl
  rw [words, last, number32_uint32, number32_uint32, lost]
  rfl

theorem reportsAt_bytes (blocks : List ReportBlock) (rest : List UInt8) :
    reportsAt blocks.length ((blocks.map ReportBlock.bytes).flatten ++ rest) =
      .ok (blocks.map ReportBlock.value) := by
  induction blocks with
  | nil => rfl
  | cons block blocks ih =>
      have behind : (block.bytes ++ ((blocks.map ReportBlock.bytes).flatten ++ rest)).drop 24 =
          (blocks.map ReportBlock.bytes).flatten ++ rest := List.drop_left' rfl
      simp only [List.length_cons, reportsAt, List.map_cons, List.flatten_cons, List.append_assoc,
        reportAt_bytes, behind, ih, bind, Except.bind]
      rfl

theorem senderReportAt_bytes (info : SenderInfo) (rest : List UInt8) :
    senderReportAt (info.bytes ++ rest) = .ok info.value := by
  have second : (info.bytes ++ rest).drop 8 = bytes32 info.rtptimestamp.toNat ++
      (bytes32 info.packetcount.toNat ++ (bytes32 info.octetcount.toNat ++ rest)) := rfl
  have third : (info.bytes ++ rest).drop 12 = bytes32 info.packetcount.toNat ++
      (bytes32 info.octetcount.toNat ++ rest) := rfl
  have fourth : (info.bytes ++ rest).drop 16 = bytes32 info.octetcount.toNat ++ rest := rfl
  rw [senderReportAt, second, third, fourth]
  simp only [SenderInfo.bytes, List.append_assoc, drop_bytes32, number32_uint32, bind,
    Except.bind]
  rfl

theorem sourcesAt_bytes (ssrcs : List UInt32) (rest : List UInt8) :
    sourcesAt ssrcs.length ((ssrcs.flatMap fun ssrc => bytes32 ssrc.toNat) ++ rest) =
      .ok (ssrcs.map UInt32.toNat) := by
  induction ssrcs with
  | nil => rfl
  | cons ssrc ssrcs ih =>
      simp only [List.length_cons, sourcesAt, List.flatMap_cons, List.append_assoc,
        number32_uint32, drop_bytes32, ih, bind, Except.bind]
      rfl

structure RTCPSDESItem.Valid (item : RTCPSDESItem) : Prop where
  isItem : item.sdesid ≠ 0
  short : item.itemdata.length < 256

def itemBytes (item : RTCPSDESItem) : List UInt8 :=
  item.sdesid :: UInt8.ofNat item.itemdata.length :: item.itemdata

theorem RTCPSDESItem.Valid.length_eq {item : RTCPSDESItem} (valid : item.Valid) :
    (UInt8.ofNat item.itemdata.length).toNat = item.itemdata.length := by
  have short := valid.short
  rw [UInt8.toNat_ofNat']
  omega

theorem length_itemBytes (item : RTCPSDESItem) :
    (itemBytes item).length = 2 + item.itemdata.length := by
  simp only [itemBytes, List.length_cons]
  omega

theorem checkItems_bytes {items : List RTCPSDESItem}
    (valid : ∀ item, item ∈ items → item.Valid) (chunkoffset pad : Nat) (rest : List UInt8)
    (aligned : (chunkoffset + (items.flatMap itemBytes).length + 1 + pad) % 4 = 0)
    (small : pad < 4) :
    checkItems chunkoffset
      (items.flatMap itemBytes ++ (0 :: (List.replicate pad 0 ++ rest))) = some rest := by
  induction items generalizing chunkoffset with
  | nil =>
      rw [List.flatMap_nil, List.length_nil, Nat.add_zero] at aligned
      rw [List.flatMap_nil, List.nil_append, checkItems_end]
      split
      · have padEq : 4 - (chunkoffset + 1) % 4 = pad := by omega
        have long : ¬ (List.replicate pad 0 ++ rest : List UInt8).length < pad := by
          rw [List.length_append, List.length_replicate]
          omega
        rw [padEq, if_neg long, List.drop_left' (List.length_replicate)]
      · have noPad : pad = 0 := by omega
        rw [noPad, List.replicate_zero, List.nil_append]
  | cons item items ih =>
      have itemValid := valid item List.mem_cons_self
      have others := fun other member => valid other (List.mem_cons_of_mem item member)
      rw [List.flatMap_cons, List.length_append, length_itemBytes] at aligned
      rw [List.flatMap_cons, List.append_assoc, itemBytes, List.cons_append, List.cons_append,
        checkItems_item chunkoffset itemValid.isItem, itemValid.length_eq]
      have long : ¬ (item.itemdata ++ (items.flatMap itemBytes ++
          (0 :: (List.replicate pad 0 ++ rest)))).length < item.itemdata.length := by
        rw [List.length_append]
        omega
      rw [if_neg long, List.drop_left' rfl]
      exact ih others _ (by omega)

theorem itemsAt_bytes {items : List RTCPSDESItem}
    (valid : ∀ item, item ∈ items → item.Valid) (rest : List UInt8) :
    itemsAt (items.flatMap itemBytes ++ (0 :: rest)) = .ok items := by
  induction items with
  | nil => exact itemsAt_end rest
  | cons item items ih =>
      have itemValid := valid item List.mem_cons_self
      have others := ih fun other member => valid other (List.mem_cons_of_mem item member)
      rw [List.flatMap_cons, List.append_assoc, itemBytes, List.cons_append, List.cons_append]
      have lengthEq := itemValid.length_eq
      have inside : (UInt8.ofNat item.itemdata.length).toNat ≤
          (item.itemdata ++ (items.flatMap itemBytes ++ (0 :: rest))).length := by
        rw [lengthEq, List.length_append]
        omega
      rw [itemsAt_item itemValid.isItem inside
        (by rw [lengthEq, List.drop_left' rfl]; exact others), lengthEq, List.take_left' rfl]

def Chunk.source (self : Chunk) : SDESSource :=
  { ssrc := self.ssrc
    items := self.items.map itemBytes
    totalitemsize := (self.items.flatMap itemBytes).length }

def Chunk.Valid (self : Chunk) : Prop := ∀ item, item ∈ self.items → item.Valid

theorem pad_spec (size : Nat) :
    (size + (alignToWord size - size)) % 4 = 0 ∧ alignToWord size - size < 4 := by
  simp only [alignToWord]
  split <;> omega

theorem chunkBytes_source (chunk : Chunk) (rest : List UInt8) :
    ∃ pad, (4 + (chunk.items.flatMap itemBytes).length + 1 + pad) % 4 = 0 ∧ pad < 4 ∧
      chunkBytes chunk.source ++ rest = bytes32 chunk.ssrc.toNat ++
        (chunk.items.flatMap itemBytes ++ (0 :: (List.replicate pad 0 ++ rest))) := by
  obtain ⟨aligned, small⟩ := pad_spec ((chunk.items.flatMap itemBytes).length + 1)
  refine ⟨_, ?_, small, ?_⟩
  · omega
  · rw [chunkBytes]
    simp only [Chunk.source, List.append_assoc, List.cons_append, ← List.flatMap_def]

theorem checkChunks_bytes {chunks : List Chunk}
    (valid : ∀ chunk, chunk ∈ chunks → chunk.Valid) :
    checkChunks chunks.length ((chunks.map Chunk.source).flatMap chunkBytes) = true := by
  induction chunks with
  | nil => rfl
  | cons chunk chunks ih =>
      obtain ⟨pad, aligned, small, bytesEq⟩ := chunkBytes_source chunk
        ((chunks.map Chunk.source).flatMap chunkBytes)
      have checked := checkItems_bytes (valid chunk List.mem_cons_self) 4 pad
        ((chunks.map Chunk.source).flatMap chunkBytes) aligned small
      have behind := ih fun other member => valid other (List.mem_cons_of_mem chunk member)
      rw [List.map_cons, List.flatMap_cons, bytesEq, List.length_cons, checkChunks, drop_bytes32,
        checked]
      simp only
      rw [behind]
      have notEmpty : ¬ (bytes32 chunk.ssrc.toNat ++ (chunk.items.flatMap itemBytes ++
          (0 :: (List.replicate pad 0 ++
            (chunks.map Chunk.source).flatMap chunkBytes)))).isEmpty = true := by
        intro impossible
        cases impossible
      have long : ¬ (bytes32 chunk.ssrc.toNat ++ (chunk.items.flatMap itemBytes ++
          (0 :: (List.replicate pad 0 ++
            (chunks.map Chunk.source).flatMap chunkBytes)))).length < 8 := by
        simp only [List.length_append, List.length_cons, List.length_replicate, length_bytes32]
        omega
      rw [if_neg notEmpty, if_neg long]

theorem chunksAt_bytes {chunks : List Chunk}
    (valid : ∀ chunk, chunk ∈ chunks → chunk.Valid) :
    chunksAt chunks.length ((chunks.map Chunk.source).flatMap chunkBytes) =
      .ok (chunks.map Chunk.value) := by
  induction chunks with
  | nil => rfl
  | cons chunk chunks ih =>
      obtain ⟨pad, aligned, small, bytesEq⟩ := chunkBytes_source chunk
        ((chunks.map Chunk.source).flatMap chunkBytes)
      have chunkValid := valid chunk List.mem_cons_self
      have checked := checkItems_bytes chunkValid 4 pad
        ((chunks.map Chunk.source).flatMap chunkBytes) aligned small
      have behind := ih fun other member => valid other (List.mem_cons_of_mem chunk member)
      have items := itemsAt_bytes chunkValid
        (List.replicate pad 0 ++ (chunks.map Chunk.source).flatMap chunkBytes)
      have next := (checkItems_walks checked []).2
      rw [List.append_nil, List.append_nil] at next
      rw [List.map_cons, List.flatMap_cons, bytesEq, List.length_cons]
      cases chunks with
      | nil =>
          simp only [List.length_nil, chunksAt, number32_uint32, drop_bytes32, items, bind,
            Except.bind]
          rfl
      | cons following others =>
          simp only [List.length_cons, chunksAt, number32_uint32, drop_bytes32, items, next, bind,
            Except.bind]
          rw [List.length_cons] at behind
          rw [behind]
          rfl

/-! ### The packets that `EndBuild` writes -/

theorem unpaddedLength_of_unpadded {hdr : RTCPCommonHeader} (unpadded : hdr.padding = false)
    (data : List UInt8) : unpaddedLength hdr data = some data.length := by
  rw [unpaddedLength, unpadded, if_neg Bool.false_ne_true]

theorem sdes_contents {hdr : RTCPCommonHeader} {data : List UInt8} {chunks : List RTCPSDESChunk}
    (type : RTCPPacketType.ofNumber hdr.packettype = .sdes) (unpadded : hdr.padding = false)
    (known : sdesKnownFormat hdr data data.length = true)
    (chunksEq : chunksAt hdr.count (data.drop 4) = .ok chunks) :
    (RTCPPacket.new hdr data).contents = .ok (.sdes chunks) := by
  have isKnown : knownFormat .sdes hdr data = true := by
    simp only [knownFormat, unpaddedLength_of_unpadded unpadded, known]
  simp only [RTCPPacket.contents, RTCPPacket.new, type, isKnown, chunksEq, bind, Except.bind]
  rfl

theorem sr_contents {hdr : RTCPCommonHeader} {data : List UInt8} {senderssrc : Nat}
    {info : RTCPSenderReport} {reports : List RTCPReceiverReport}
    (type : RTCPPacketType.ofNumber hdr.packettype = .sr) (unpadded : hdr.padding = false)
    (known : 4 + 4 + 20 + 24 * hdr.count = data.length)
    (ssrcEq : number32 (data.drop 4) = .ok senderssrc)
    (infoEq : senderReportAt ((data.drop 4).drop 4) = .ok info)
    (reportsEq : reportsAt hdr.count ((data.drop 4).drop 24) = .ok reports) :
    (RTCPPacket.new hdr data).contents = .ok (.sr senderssrc info reports) := by
  have isKnown : knownFormat .sr hdr data = true := by
    simp only [knownFormat, unpaddedLength_of_unpadded unpadded, known, decide_true]
  simp only [RTCPPacket.contents, RTCPPacket.new, type, isKnown, ssrcEq, infoEq, reportsEq, bind,
    Except.bind]
  rfl

theorem rr_contents {hdr : RTCPCommonHeader} {data : List UInt8} {senderssrc : Nat}
    {reports : List RTCPReceiverReport}
    (type : RTCPPacketType.ofNumber hdr.packettype = .rr) (unpadded : hdr.padding = false)
    (known : 4 + 4 + 24 * hdr.count = data.length)
    (ssrcEq : number32 (data.drop 4) = .ok senderssrc)
    (reportsEq : reportsAt hdr.count ((data.drop 4).drop 4) = .ok reports) :
    (RTCPPacket.new hdr data).contents = .ok (.rr senderssrc reports) := by
  have isKnown : knownFormat .rr hdr data = true := by
    simp only [knownFormat, unpaddedLength_of_unpadded unpadded, known, decide_true]
  simp only [RTCPPacket.contents, RTCPPacket.new, type, isKnown, ssrcEq, reportsEq, bind,
    Except.bind]
  rfl

theorem bye_contents {hdr : RTCPCommonHeader} {data : List UInt8} {ssrcs : List Nat}
    {reason : List UInt8} (type : RTCPPacketType.ofNumber hdr.packettype = .bye)
    (unpadded : hdr.padding = false) (known : byeKnownFormat hdr data data.length = true)
    (ssrcsEq : sourcesAt hdr.count (data.drop 4) = .ok ssrcs)
    (reasonEq : reasonAt (hdr.count * 4 + 4) data.length data = .ok reason) :
    (RTCPPacket.new hdr data).contents = .ok (.bye ssrcs reason) := by
  have isKnown : knownFormat .bye hdr data = true := by
    simp only [knownFormat, unpaddedLength_of_unpadded unpadded, known]
  simp only [RTCPPacket.contents, RTCPPacket.new, type, isKnown,
    unpaddedLength_of_unpadded unpadded, Option.getD_some, ssrcsEq, reasonEq, bind, Except.bind]
  rfl

theorem app_contents (hdr : RTCPCommonHeader) (data : List UInt8) {ssrc : Nat}
    (type : RTCPPacketType.ofNumber hdr.packettype = .app) (unpadded : hdr.padding = false)
    (ssrcEq : number32 (data.drop 4) = .ok ssrc) (long : 12 ≤ data.length) :
    (RTCPPacket.new hdr data).contents =
      .ok (.app hdr.count ssrc (((data.drop 4).drop 4).take 4) ((data.drop 4).drop 8)) := by
  have inside : ¬ (data.drop 4).length < 8 + (data.length - 12) := by
    rw [List.length_drop]
    omega
  have whole : ((data.drop 4).drop 8).take (data.length - 12) = (data.drop 4).drop 8 := by
    apply List.take_of_length_le
    rw [List.length_drop, List.length_drop]
    omega
  have isKnown : knownFormat .app hdr data = true := by
    simp only [knownFormat, unpaddedLength_of_unpadded unpadded, long, decide_true]
  simp only [RTCPPacket.contents, RTCPPacket.new, type, isKnown,
    unpaddedLength_of_unpadded unpadded, Option.getD_some, ssrcEq, if_neg inside, whole, bind,
    Except.bind]
  rfl

theorem drop_commonHeader (count : Nat) (packettype : UInt8) (size : Nat) (body : List UInt8) :
    (commonHeader count packettype size ++ body).drop 4 = body :=
  List.drop_left' rfl

theorem length_packet (count : Nat) (packettype : UInt8) (size : Nat) (body : List UInt8) :
    (commonHeader count packettype size ++ body).length = 4 + body.length := by
  rw [List.length_append, length_commonHeader]

theorem length_chunks_mod (chunks : List Chunk) :
    ((chunks.map Chunk.source).flatMap chunkBytes).length % 4 = 0 := by
  induction chunks with
  | nil => rfl
  | cons chunk chunks ih =>
      obtain ⟨pad, aligned, _, bytesEq⟩ := chunkBytes_source chunk
        ((chunks.map Chunk.source).flatMap chunkBytes)
      rw [List.map_cons, List.flatMap_cons, bytesEq]
      simp only [List.length_append, List.length_cons, List.length_replicate, length_bytes32]
      omega

theorem sdesKnownFormat_bytes {chunks : List Chunk}
    (valid : ∀ chunk, chunk ∈ chunks → chunk.Valid) (nonempty : chunks ≠ [])
    {hdr : RTCPCommonHeader} (countEq : hdr.count = chunks.length) {data : List UInt8}
    (long : 4 ≤ data.length)
    (bodyEq : data.drop 4 = (chunks.map Chunk.source).flatMap chunkBytes) :
    sdesKnownFormat hdr data data.length = true := by
  have notNone : ¬ chunks.length = 0 := fun isEmpty =>
    nonempty (List.length_eq_zero_iff.mp isEmpty)
  rw [sdesKnownFormat, countEq, if_neg notNone, if_neg (Nat.not_lt.mpr long), List.take_length,
    bodyEq, checkChunks_bytes valid]

theorem sdesPacket_yields {chunks : List Chunk} (valid : ∀ chunk, chunk ∈ chunks → chunk.Valid)
    (nonempty : chunks ≠ []) (few : chunks.length ≤ 31)
    (short : (sdesPacket (chunks.map Chunk.source)).length ≤ 262144) :
    Yields (sdesPacket (chunks.map Chunk.source)) (.sdes (chunks.map Chunk.value)) := by
  have words := length_chunks_mod chunks
  rw [sdesPacket, List.length_map] at *
  rw [length_packet] at short
  refine ⟨_, framed_of_commonHeader few 202 rfl (by omega) short, ?_⟩
  apply sdes_contents rfl rfl
  · apply sdesKnownFormat_bytes valid nonempty rfl
    · rw [length_packet]
      exact Nat.le_add_right 4 _
    · exact drop_commonHeader _ _ _ _
  · rw [drop_commonHeader]
    exact chunksAt_bytes valid

theorem appPacket_yields {app : APP} (small : app.subtype ≤ 31)
    (words : app.appdata.length % 4 = 0) (few : app.appdata.length / 4 + 2 ≤ 65535) :
    Yields (appPacket app.subtype app.ssrc app.name app.appdata) app.value := by
  have count : app.subtype.toNat ≤ 31 := UInt8.le_iff_toNat_le.mp small
  have bodyLength : (bytes32 app.ssrc.toNat ++ (app.name.bytes ++ app.appdata)).length =
      8 + app.appdata.length := by
    simp only [List.length_append, length_bytes32, APPName.bytes, List.length_cons,
      List.length_nil]
    omega
  rw [appPacket]
  refine ⟨_, framed_of_commonHeader count 204 (by omega) (by omega) (by omega), ?_⟩
  have ssrcEq (size : Nat) : number32 ((commonHeader app.subtype.toNat 204 size ++
      (bytes32 app.ssrc.toNat ++ (app.name.bytes ++ app.appdata))).drop 4) =
        .ok app.ssrc.toNat := by
    rw [drop_commonHeader]
    exact number32_uint32 app.ssrc _
  have contentsEq := app_contents (headerOf app.subtype.toNat 204 (12 + app.appdata.length))
    (commonHeader app.subtype.toNat 204 (12 + app.appdata.length) ++
      (bytes32 app.ssrc.toNat ++ (app.name.bytes ++ app.appdata))) rfl rfl (ssrcEq _)
    (by
      rw [length_packet]
      omega)
  rw [drop_commonHeader, drop_bytes32] at contentsEq
  exact contentsEq

theorem length_sources (ssrcs : List UInt32) :
    (ssrcs.flatMap fun ssrc => bytes32 ssrc.toNat).length = ssrcs.length * 4 := by
  induction ssrcs with
  | nil => rfl
  | cons ssrc ssrcs ih =>
      rw [List.flatMap_cons, List.length_append, ih, length_bytes32, List.length_cons]
      omega

/-- A BYE packet with a reason: the length of the reason stands behind the sources. -/
theorem bye_of_reason {ssrcs : List UInt32} {reason : List UInt8} (short : reason.length < 256)
    {pad : Nat} (hdr : RTCPCommonHeader) (countEq : hdr.count = ssrcs.length)
    {data : List UInt8} (front : data.length = 4 + (ssrcs.length * 4 + 1 + reason.length + pad))
    (behind : data.drop (ssrcs.length * 4 + 4) =
      UInt8.ofNat reason.length :: (reason ++ List.replicate pad 0)) :
    byeKnownFormat hdr data data.length = true ∧
      reasonAt (hdr.count * 4 + 4) data.length data = .ok reason := by
  have lengthByte : (UInt8.ofNat reason.length).toNat = reason.length := by
    rw [UInt8.toNat_ofNat']
    omega
  rw [byeKnownFormat, reasonAt, countEq, if_neg (by omega), if_pos (by omega), if_pos (by omega),
    List.getD_eq_getElem?_getD, ← List.head?_drop, behind]
  simp only [List.head?_cons, Option.getD_some, lengthByte]
  rw [if_neg (by rw [List.length_append]; omega), List.take_left' rfl, decide_eq_true_eq]
  exact ⟨by omega, rfl⟩

theorem bye_of_no_reason {ssrcs : List UInt32} (hdr : RTCPCommonHeader)
    (countEq : hdr.count = ssrcs.length) {data : List UInt8}
    (front : data.length = 4 + ssrcs.length * 4) :
    byeKnownFormat hdr data data.length = true ∧
      reasonAt (hdr.count * 4 + 4) data.length data = .ok [] := by
  rw [byeKnownFormat, reasonAt, countEq, if_neg (by omega), if_neg (by omega), if_neg (by omega)]
  exact ⟨rfl, rfl⟩

theorem byePacket_yields {bye : BYE} (few : bye.ssrcs.length ≤ 31) :
    Yields (byePacket bye.ssrcs bye.reason.bytes) bye.value := by
  have short := bye.reason.short
  have sourcesLength := length_sources bye.ssrcs
  simp only [byePacket]
  by_cases hasReason : 0 < bye.reason.bytes.length
  · rw [if_pos hasReason]
    obtain ⟨aligned, small⟩ := pad_spec
      (4 + (bye.ssrcs.flatMap fun ssrc => bytes32 ssrc.toNat).length + 1 +
        bye.reason.bytes.length)
    generalize alignToWord (4 + (bye.ssrcs.flatMap fun ssrc => bytes32 ssrc.toNat).length +
      1 + bye.reason.bytes.length) - (4 + (bye.ssrcs.flatMap fun ssrc =>
        bytes32 ssrc.toNat).length + 1 + bye.reason.bytes.length) = pad at aligned small
    have bodyLength : ((bye.ssrcs.flatMap fun ssrc => bytes32 ssrc.toNat) ++
        (UInt8.ofNat bye.reason.bytes.length ::
          (bye.reason.bytes ++ List.replicate pad 0))).length =
        bye.ssrcs.length * 4 + 1 + bye.reason.bytes.length + pad := by
      simp only [List.length_append, List.length_cons, List.length_replicate, sourcesLength]
      omega
    refine ⟨_, framed_of_commonHeader few 203 (by omega) (by omega) (by omega), ?_⟩
    have behindSources (size : Nat) :
        (commonHeader bye.ssrcs.length 203 size ++
          ((bye.ssrcs.flatMap fun ssrc => bytes32 ssrc.toNat) ++
            (UInt8.ofNat bye.reason.bytes.length ::
              (bye.reason.bytes ++ List.replicate pad 0)))).drop (bye.ssrcs.length * 4 + 4) =
        UInt8.ofNat bye.reason.bytes.length ::
          (bye.reason.bytes ++ List.replicate pad 0) := by
      rw [← List.append_assoc]
      apply List.drop_left'
      rw [List.length_append, length_commonHeader, sourcesLength]
      omega
    obtain ⟨known, reasonEq⟩ := bye_of_reason short
      (headerOf bye.ssrcs.length 203 _) rfl
      ((length_packet _ _ _ _).trans (congrArg (4 + ·) bodyLength)) (behindSources _)
    refine bye_contents rfl rfl known ?_ reasonEq
    rw [drop_commonHeader]
    exact sourcesAt_bytes bye.ssrcs _
  · rw [if_neg hasReason]
    have noReason : bye.reason.bytes = [] := List.length_eq_zero_iff.mp (by omega)
    refine ⟨_, framed_of_commonHeader few 203 (by omega) (by omega) (by omega), ?_⟩
    obtain ⟨known, reasonEq⟩ := bye_of_no_reason (headerOf bye.ssrcs.length 203 _) rfl
      ((length_packet _ _ _ _).trans (congrArg (4 + ·) sourcesLength))
    rw [BYE.value, noReason]
    refine bye_contents rfl rfl known ?_ reasonEq
    rw [drop_commonHeader]
    have read := sourcesAt_bytes bye.ssrcs []
    rw [List.append_nil] at read
    exact read

structure Report.Holds (report : Report) (senderssrc : UInt32) (info : Option SenderInfo) :
    Prop where
  isSR : report.isSR = info.isSome
  header : report.headerdata =
    bytes32 senderssrc.toNat ++ (info.map SenderInfo.bytes).getD []

theorem length_blocks (blocks : List ReportBlock) :
    (blocks.map ReportBlock.bytes).flatten.length = 24 * blocks.length := by
  induction blocks with
  | nil => rfl
  | cons block blocks ih =>
      have blockLength : block.bytes.length = 24 := rfl
      rw [List.map_cons, List.flatten_cons, List.length_append, ih, blockLength, List.length_cons]
      omega

def headed (count : Nat) (packettype : UInt8) (body : List UInt8) : List UInt8 :=
  commonHeader count packettype (4 + body.length) ++ body

theorem receiverPacket_yields (senderssrc : UInt32) {blocks : List ReportBlock}
    (few : blocks.length ≤ 31) :
    let packet := headed blocks.length 201
      (bytes32 senderssrc.toNat ++ (blocks.map ReportBlock.bytes).flatten)
    ∃ hdr, Framed packet hdr ∧
      (RTCPPacket.new hdr packet).contents = .ok (reportContents senderssrc none blocks) ∧
      hdr.packettype = RTPPacket.rtcpTypeRR := by
  have blocksLength := length_blocks blocks
  have bodyLength : (bytes32 senderssrc.toNat ++
      (blocks.map ReportBlock.bytes).flatten).length = 4 + 24 * blocks.length := by
    rw [List.length_append, length_bytes32, blocksLength]
  refine ⟨_, framed_of_commonHeader few 201 rfl (by omega) (by omega), ?_, rfl⟩
  apply rr_contents rfl rfl
  · rw [headed, length_packet, bodyLength]
    change 4 + 4 + 24 * blocks.length = _
    omega
  · rw [headed, drop_commonHeader]
    exact number32_uint32 senderssrc _
  · rw [headed, drop_commonHeader, drop_bytes32]
    have read := reportsAt_bytes blocks []
    rw [List.append_nil] at read
    exact read

theorem senderPacket_yields (senderssrc : UInt32) (info : SenderInfo)
    {blocks : List ReportBlock} (few : blocks.length ≤ 31) :
    let packet := headed blocks.length 200
      ((bytes32 senderssrc.toNat ++ info.bytes) ++ (blocks.map ReportBlock.bytes).flatten)
    ∃ hdr, Framed packet hdr ∧
      (RTCPPacket.new hdr packet).contents = .ok (reportContents senderssrc (some info) blocks) ∧
      hdr.packettype = RTPPacket.rtcpTypeSR := by
  have blocksLength := length_blocks blocks
  have infoLength : (bytes32 senderssrc.toNat ++ info.bytes).length = 24 := rfl
  have bodyLength : ((bytes32 senderssrc.toNat ++ info.bytes) ++
      (blocks.map ReportBlock.bytes).flatten).length = 24 + 24 * blocks.length := by
    rw [List.length_append, infoLength, blocksLength]
  refine ⟨_, framed_of_commonHeader few 200 rfl (by omega) (by omega), ?_, rfl⟩
  apply sr_contents rfl rfl
  · rw [headed, length_packet, bodyLength]
    change 4 + 4 + 20 + 24 * blocks.length = _
    omega
  · rw [headed, drop_commonHeader, List.append_assoc]
    exact number32_uint32 senderssrc _
  · rw [headed, drop_commonHeader, List.append_assoc, drop_bytes32]
    exact senderReportAt_bytes info _
  · rw [headed, drop_commonHeader, List.drop_left' infoLength]
    have read := reportsAt_bytes blocks []
    rw [List.append_nil] at read
    exact read

theorem groups_nil {Item : Type} : groups ([] : List Item) = [] := by
  rw [groups]
  rfl

section Reports

variable {report : Report} {senderssrc : UInt32} {info : Option SenderInfo}

theorem laterPacket_yields (holds : report.Holds senderssrc info) {blocks : List ReportBlock}
    (few : blocks.length ≤ 31) :
    Yields (reportPacket report false (blocks.map ReportBlock.bytes))
      (reportContents senderssrc none blocks) := by
  obtain ⟨hdr, framed, contentsEq, _⟩ := receiverPacket_yields senderssrc few
  have front (info : List UInt8) :
      (bytes32 senderssrc.toNat ++ info).take 4 = bytes32 senderssrc.toNat :=
    List.take_left' (length_bytes32 _)
  rw [reportPacket, Bool.false_and, holds.header, front, List.length_map]
  exact ⟨hdr, framed, contentsEq⟩

theorem firstPacket_yields (holds : report.Holds senderssrc info) (blocks : List ReportBlock)
    (few : blocks.length ≤ 31) :
    ∃ hdr, Framed (reportPacket report true (blocks.map ReportBlock.bytes)) hdr ∧
      (RTCPPacket.new hdr (reportPacket report true (blocks.map ReportBlock.bytes))).contents =
        .ok (reportContents senderssrc info blocks) ∧
      (true = true → hdr.packettype = RTPPacket.rtcpTypeSR ∨
        hdr.packettype = RTPPacket.rtcpTypeRR) := by
  rw [reportPacket, Bool.true_and, holds.isSR, holds.header, List.length_map]
  cases info with
  | none =>
      obtain ⟨hdr, framed, contentsEq, isRR⟩ := receiverPacket_yields senderssrc few
      exact ⟨hdr, framed, contentsEq, fun _ => Or.inr isRR⟩
  | some info =>
      obtain ⟨hdr, framed, contentsEq, isSR⟩ := senderPacket_yields senderssrc info few
      exact ⟨hdr, framed, contentsEq, fun _ => Or.inl isSR⟩

theorem laterPackets_yield (holds : report.Holds senderssrc info) {blocks : List ReportBlock}
    (nonempty : blocks ≠ []) :
    List.Forall₂ Yields (reportPackets report false (blocks.map ReportBlock.bytes))
      ((groups blocks).map (reportContents senderssrc none)) := by
  induction blocks using groups.induct with
  | case1 blocks few isEmpty => exact absurd (List.isEmpty_iff.mp isEmpty) nonempty
  | case2 blocks few notEmpty =>
      rw [reportPackets, List.length_map, if_pos few, groups, if_pos few, if_neg notEmpty]
      exact List.Forall₂.cons (laterPacket_yields holds few) List.Forall₂.nil
  | case3 blocks many ih =>
      have more : blocks.drop 31 ≠ [] := fun isEmpty => by
        have lengthEq := congrArg List.length isEmpty
        rw [List.length_drop, List.length_nil] at lengthEq
        omega
      rw [reportPackets, List.length_map, if_neg many, groups, if_neg many, List.map_cons,
        ← List.map_take, ← List.map_drop]
      refine List.Forall₂.cons (laterPacket_yields holds ?_) (ih more)
      rw [List.length_take]
      exact Nat.min_le_left _ _

theorem reportPackets_yield (holds : report.Holds senderssrc info) (blocks : List ReportBlock) :
    ∃ later, reportPackets report true (blocks.map ReportBlock.bytes) =
        reportPacket report true ((blocks.take 31).map ReportBlock.bytes) :: later ∧
      List.Forall₂ Yields later
        ((groups (blocks.drop 31)).map (reportContents senderssrc none)) := by
  by_cases few : blocks.length ≤ 31
  · have noMore : blocks.drop 31 = [] := List.drop_eq_nil_of_le few
    refine ⟨[], ?_, ?_⟩
    · rw [reportPackets, List.length_map, if_pos few, List.take_of_length_le few]
    · rw [noMore, groups_nil]
      exact List.Forall₂.nil
  · have more : blocks.drop 31 ≠ [] := fun isEmpty => by
      have lengthEq := congrArg List.length isEmpty
      rw [List.length_drop, List.length_nil] at lengthEq
      omega
    refine ⟨_, ?_, laterPackets_yield holds more⟩
    rw [reportPackets, List.length_map, if_neg few, ← List.map_take, ← List.map_drop]

end Reports

theorem sdesPackets_yield {chunks : List Chunk} (valid : ∀ chunk, chunk ∈ chunks → chunk.Valid)
    (short : (sdesPackets (chunks.map Chunk.source)).flatten.length ≤ 262144) :
    List.Forall₂ Yields (sdesPackets (chunks.map Chunk.source))
      ((groups chunks).map fun chunks => .sdes (chunks.map Chunk.value)) := by
  induction chunks using groups.induct with
  | case1 chunks few isEmpty =>
      rw [sdesPackets, List.length_map, if_pos few, List.isEmpty_map, if_pos isEmpty, groups,
        if_pos few, if_pos isEmpty]
      exact List.Forall₂.nil
  | case2 chunks few notEmpty =>
      rw [sdesPackets, List.length_map, if_pos few, List.isEmpty_map, if_neg notEmpty] at short ⊢
      rw [groups, if_pos few, if_neg notEmpty]
      rw [List.flatten_singleton] at short
      have nonempty : chunks ≠ [] := fun isEmpty => notEmpty (List.isEmpty_iff.mpr isEmpty)
      exact List.Forall₂.cons (sdesPacket_yields valid nonempty few short) List.Forall₂.nil
  | case3 chunks many ih =>
      rw [sdesPackets, List.length_map, if_neg many, ← List.map_take, ← List.map_drop] at short ⊢
      rw [groups, if_neg many, List.map_cons]
      rw [List.flatten_cons, List.length_append] at short
      have front : (chunks.take 31).length = 31 := by
        rw [List.length_take]
        omega
      have nonempty : chunks.take 31 ≠ [] := fun isEmpty => by
        rw [isEmpty] at front
        cases front
      refine List.Forall₂.cons ?_ (ih (fun chunk member => valid chunk
        (List.mem_of_mem_drop member)) (by omega))
      exact sdesPacket_yields (fun chunk member => valid chunk (List.mem_of_mem_take member))
        nonempty (Nat.le_of_eq front) (by omega)

/-! ### The builder holds the composition -/

structure Encodes (builder : RTCPCompoundPacketBuilder) (composition : Composition) : Prop where
  consistent : builder.Consistent
  report : (builder.report.headerdata = [] ∧ composition.senderssrc = none) ∨
    ∃ senderssrc, composition.senderssrc = some senderssrc ∧
      builder.report.Holds senderssrc composition.info
  blocks : builder.report.reportblocks = composition.blocks.map ReportBlock.bytes
  chunks : builder.sdessources = composition.chunks.map Chunk.source
  items : ∀ chunk, chunk ∈ composition.chunks → chunk.Valid
  apps : builder.apppackets = composition.apps.map fun app =>
    appPacket app.subtype app.ssrc app.name app.appdata
  appsTaken : ∀ app, app ∈ composition.apps → app.subtype ≤ 31 ∧ app.appdata.length % 4 = 0 ∧
    app.appdata.length / 4 + 2 ≤ 65535
  byes : builder.byepackets = composition.byes.map fun bye =>
    byePacket bye.ssrcs bye.reason.bytes
  byesTaken : ∀ bye, bye ∈ composition.byes → bye.ssrcs.length ≤ 31

theorem encodes_new : Encodes new Composition.empty :=
  { consistent := consistent_new
    report := Or.inl ⟨rfl, rfl⟩
    blocks := rfl
    chunks := rfl
    items := fun _ impossible => absurd impossible List.not_mem_nil
    apps := rfl
    appsTaken := fun _ impossible => absurd impossible List.not_mem_nil
    byes := rfl
    byesTaken := fun _ impossible => absurd impossible List.not_mem_nil }

theorem encodes_withItem {builder : RTCPCompoundPacketBuilder} {composition : Composition}
    (encodes : Encodes builder composition) {item : RTCPSDESItem} (valid : item.Valid)
    (current : builder.sdessources ≠ [])
    (consistent : (builder.withItem (itemBytes item)).Consistent) :
    Encodes (builder.withItem (itemBytes item)) (composition.withItem item) := by
  have nonempty : composition.chunks ≠ [] := fun isEmpty =>
    current (by rw [encodes.chunks, isEmpty]; rfl)
  obtain ⟨front, last, chunksEq⟩ : ∃ front last, composition.chunks = front ++ [last] :=
    ⟨_, _, (List.dropLast_append_getLast nonempty).symm⟩
  have added : (composition.withItem item).chunks =
      front ++ [{ last with items := last.items ++ [item] }] := by
    change composition.chunks.modify _ _ = _
    rw [chunksEq, modify_last]
  have source : last.source.addItem (itemBytes item) =
      Chunk.source { last with items := last.items ++ [item] } := by
    simp only [Chunk.source, SDESSource.addItem, List.map_append, List.flatMap_append,
      List.flatMap_singleton, List.length_append, List.map_singleton]
  refine
    { encodes with
      consistent := consistent
      chunks := ?_
      items := ?_ }
  · change builder.sdessources.modify _ _ = _
    rw [added, encodes.chunks, chunksEq, List.map_append, List.map_singleton, modify_last, source,
      List.map_append, List.map_singleton]
  · intro chunk member
    rw [added] at member
    rcases List.mem_append.mp member with old | new
    · exact encodes.items chunk (by rw [chunksEq]; exact List.mem_append_left _ old)
    · have lastValid := encodes.items last (by
        rw [chunksEq]
        exact List.mem_append_right front (List.mem_singleton_self last))
      rw [List.mem_singleton.mp new]
      intro other otherMember
      rcases List.mem_append.mp otherMember with inLast | isNew
      · exact lastValid other inLast
      · rw [List.mem_singleton.mp isNew]
        exact valid

theorem itemId_ne_zero {t : ItemType} {itemid : UInt8} (isNormal : itemId t = some itemid) :
    itemid ≠ 0 := by
  cases t with
  | normal item => cases item <;> cases isNormal <;> decide
  | none => cases isNormal
  | priv => cases isNormal
  | unknown => cases isNormal

theorem encodes_of_takes {builder next : RTCPCompoundPacketBuilder} {composition : Composition}
    {call : Call} (encodes : Encodes builder composition) (takes : builder.Takes call next) :
    Encodes next (composition.add call) := by
  have consistent := consistent_of_takes encodes.consistent takes
  cases takes with
  | init idle large => exact { encodes with consistent := consistent }
  | sender building isFirst room =>
      rename_i senderssrc info
      exact { encodes with
        consistent := consistent, report := Or.inr ⟨senderssrc, rfl, ⟨rfl, rfl⟩⟩ }
  | receiver building isFirst room =>
      rename_i senderssrc
      exact { encodes with
        consistent := consistent
        report := Or.inr ⟨senderssrc, rfl, ⟨rfl, (List.append_nil _).symm⟩⟩ }
  | block building isStarted room =>
      rename_i block
      refine { encodes with consistent := consistent, report := ?_, blocks := ?_ }
      · rcases encodes.report with ⟨noHeader, _⟩ | ⟨senderssrc, ssrcEq, holds⟩
        · exact absurd noHeader isStarted
        · exact Or.inr ⟨senderssrc, ssrcEq, ⟨holds.isSR, holds.header⟩⟩
      · change builder.report.reportblocks ++ [_] = (composition.blocks ++ [_]).map _
        rw [encodes.blocks, List.map_append, List.map_singleton]
  | source building room =>
      rename_i ssrc
      refine { encodes with consistent := consistent, chunks := ?_, items := ?_ }
      · change builder.sdessources ++ [_] = (composition.chunks ++ [_]).map _
        rw [encodes.chunks, List.map_append, List.map_singleton]
        rfl
      · intro chunk member
        rcases List.mem_append.mp member with old | new
        · exact encodes.items chunk old
        · rw [List.mem_singleton.mp new]
          exact fun _ impossible => absurd impossible List.not_mem_nil
  | normalItem building current isNormal room =>
      rename_i t itemid itemdata
      have valid : RTCPSDESItem.Valid { sdesid := itemid, itemdata := itemdata.bytes } :=
        { isItem := itemId_ne_zero isNormal, short := itemdata.short }
      have added : composition.add (.addSDESNormalItem t itemdata) =
          composition.withItem { sdesid := itemid, itemdata := itemdata.bytes } := by
        rw [Composition.add, isNormal]
        rfl
      rw [added]
      exact encodes_withItem encodes valid current consistent
  | privateItem building current itemdataEq short room =>
      rename_i pre value itemdata
      have valid : RTCPSDESItem.Valid { sdesid := 8, itemdata := itemdata } :=
        { isItem := (by decide : (8 : UInt8) ≠ 0), short := short }
      rw [Composition.add, ← itemdataEq]
      exact encodes_withItem encodes valid current consistent
  | bye building few room =>
      rename_i ssrcs reason
      refine { encodes with consistent := consistent, byes := ?_, byesTaken := ?_ }
      · change builder.byepackets ++ [_] = (composition.byes ++ [_]).map _
        rw [encodes.byes, List.map_append, List.map_singleton]
      · intro bye member
        rcases List.mem_append.mp member with old | new
        · exact encodes.byesTaken bye old
        · rw [List.mem_singleton.mp new]
          exact few
  | app building small words short room =>
      rename_i subtype ssrc name appdata
      refine { encodes with consistent := consistent, apps := ?_, appsTaken := ?_ }
      · change builder.apppackets ++ [_] = (composition.apps ++ [_]).map _
        rw [encodes.apps, List.map_append, List.map_singleton]
      · intro app member
        rcases List.mem_append.mp member with old | new
        · exact encodes.appsTaken app old
        · rw [List.mem_singleton.mp new]
          exact ⟨small, words, short⟩

theorem encodes_after {builder : RTCPCompoundPacketBuilder} {composition : Composition}
    (encodes : Encodes builder composition) (calls : List Call) :
    Encodes (builder.after calls) (composition.composed builder calls) := by
  induction calls generalizing builder composition with
  | nil => exact encodes
  | cons call rest ih =>
      change Encodes ((builder.step call).after rest) _
      rw [Composition.composed, step]
      cases performed : builder.perform call with
      | error error => exact ih encodes
      | ok next => exact ih (encodes_of_takes encodes (takes_of_perform performed))

theorem apps_yield {apps : List APP} (taken : ∀ app, app ∈ apps → app.subtype ≤ 31 ∧
    app.appdata.length % 4 = 0 ∧ app.appdata.length / 4 + 2 ≤ 65535) :
    List.Forall₂ Yields
      (apps.map fun app => appPacket app.subtype app.ssrc app.name app.appdata)
      (apps.map APP.value) := by
  rw [List.forall₂_map_left_iff, List.forall₂_map_right_iff, List.forall₂_same]
  intro app member
  obtain ⟨small, words, few⟩ := taken app member
  exact appPacket_yields small words few

theorem byes_yield {byes : List BYE} (taken : ∀ bye, bye ∈ byes → bye.ssrcs.length ≤ 31) :
    List.Forall₂ Yields (byes.map fun bye => byePacket bye.ssrcs bye.reason.bytes)
      (byes.map BYE.value) := by
  rw [List.forall₂_map_left_iff, List.forall₂_map_right_iff, List.forall₂_same]
  intro bye member
  exact byePacket_yields (taken bye member)

/-- What the builder has been handed is what the accessors find in the packet that it builds,
whatever calls succeeded or failed on the way, as long as that packet takes no more than the
65536 words that the length in a header can count. -/
theorem compoundContents_endBuild {calls : List Call}
    {finished : RTCPCompoundPacketBuilder} (success : (new.after calls).endBuild = .ok finished)
    (short : (new.after calls).size ≤ 262144) :
    ∃ bytes, finished.compoundpacket = some bytes ∧
      compoundContents bytes = .ok (Composition.empty.composed new calls).contents := by
  have encodes := encodes_after encodes_new calls
  obtain ⟨_, isStarted, rfl⟩ := endBuild_eq_ok_iff.mp success
  refine ⟨_, rfl, ?_⟩
  generalize new.after calls = builder at *
  generalize Composition.empty.composed new calls = composition at *
  have lengthEq := length_packets encodes.consistent isStarted
  rcases encodes.report with ⟨noHeader, _⟩ | ⟨senderssrc, ssrcEq, holds⟩
  · exact absurd noHeader isStarted
  · obtain ⟨later, reportsEq, laterYield⟩ := reportPackets_yield holds composition.blocks
    have first := firstPacket_yields holds (composition.blocks.take 31) (by
      rw [List.length_take]
      exact Nat.min_le_left _ _)
    have packetsEq : builder.packets =
        reportPacket builder.report true ((composition.blocks.take 31).map ReportBlock.bytes) ::
          (later ++ (sdesPackets (composition.chunks.map Chunk.source) ++
            (builder.apppackets ++ builder.byepackets))) := by
      rw [packets, encodes.blocks, reportsEq, encodes.chunks]
      rfl
    have sdesShort : (sdesPackets (composition.chunks.map Chunk.source)).flatten.length ≤
        262144 := by
      rw [packetsEq] at lengthEq
      simp only [List.flatten_cons, List.flatten_append, List.length_append] at lengthEq
      omega
    have sdes := sdesPackets_yield encodes.items sdesShort
    have apps := apps_yield encodes.appsTaken
    have byes := byes_yield encodes.byesTaken
    rw [← encodes.apps] at apps
    rw [← encodes.byes] at byes
    have rest := List.rel_append laterYield (List.rel_append sdes (List.rel_append apps byes))
    obtain ⟨parsed, parsedEq, contentsEq⟩ := parseLoop_flatten true first rest
    have long : ¬ builder.packets.flatten.length < 4 := by
      obtain ⟨hdr, framed, _⟩ := first
      have fourLe := framed.four_le
      rw [packetsEq, List.flatten_cons, List.length_append]
      omega
    have contents : composition.contents =
        reportContents senderssrc composition.info (composition.blocks.take 31) ::
          ((groups (composition.blocks.drop 31)).map (reportContents senderssrc none) ++
            (((groups composition.chunks).map fun chunks => .sdes (chunks.map Chunk.value)) ++
              (composition.apps.map APP.value ++ composition.byes.map BYE.value))) := by
      rw [Composition.contents, ssrcEq, reportsContents]
      simp only [List.cons_append, List.append_assoc, Option.getD_some]
    rw [compoundContents, parseData, if_neg long, packetsEq, List.flatten_cons, parsedEq, contents]
    exact contentsEq

/-- One report with a block, one named source, an item that is refused, and a goodbye. -/
theorem compoundContents_endBuild_named :
    let text : ShortData := ⟨[97, 98], by decide⟩
    let calls : List Call :=
      [.initBuild 600 false, .startSenderReport 7 ⟨1, 2, 3, 4, 5⟩,
        .addReportBlock ⟨9, 1, -1, 2, 3, 4, 5⟩, .addSDESSource 7,
        .addSDESNormalItem (.normal .cname) text, .addSDESNormalItem .unknown text,
        .addBYEPacket [7] text]
    ∃ finished bytes, (new.after calls).endBuild = .ok finished ∧
      finished.compoundpacket = some bytes ∧
      compoundContents bytes =
        .ok [.sr 7 ⟨1, 2, 3, 4, 5⟩ [⟨9, 1, -1, 2, 3, 4, 5⟩], .sdes [⟨7, [⟨1, [97, 98]⟩]⟩],
          .bye [7] [97, 98]] := by
  intro text calls
  have success : (new.after calls).endBuild = .ok _ :=
    endBuild_eq_ok_iff.mpr ⟨by decide +kernel, by decide +kernel, rfl⟩
  have short : (new.after calls).size ≤ 262144 := by decide +kernel
  obtain ⟨bytes, bytesEq, contentsEq⟩ := compoundContents_endBuild success short
  refine ⟨_, bytes, success, bytesEq, contentsEq.trans (congrArg Except.ok ?_)⟩
  have chunks : groups [Chunk.mk 7 [⟨1, [97, 98]⟩]] = [[Chunk.mk 7 [⟨1, [97, 98]⟩]]] := by
    rw [groups]
    rfl
  have composition : Composition.empty.composed new calls =
      { senderssrc := some 7
        info := some ⟨1, 2, 3, 4, 5⟩
        blocks := [⟨9, 1, -1, 2, 3, 4, 5⟩]
        chunks := [Chunk.mk 7 [⟨1, [97, 98]⟩]]
        apps := []
        byes := [⟨[7], text⟩] } := by decide +kernel
  rw [composition, Composition.contents, reportsContents, chunks]
  simp only [List.drop_succ_cons, List.drop_nil, groups_nil]
  rfl

end DShowCapture.Jrtplib
