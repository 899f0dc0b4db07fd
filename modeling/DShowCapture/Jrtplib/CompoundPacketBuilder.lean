/-
The builder of RTCP compound packets: `jrtp/jrtplib/rtcpcompoundpacketbuilder.cpp` and its header.

The builder keeps the parts of the packet as finished blocks of bytes and adds up how many bytes
they will need; `EndBuild` allocates that many and writes headers and blocks one after the other.
At most thirty-one report blocks or sources go into one packet, the rest into packets of their
own.
-/
import DShowCapture.Jrtplib.RTCPPacket
import Mathlib.Algebra.GroupWithZero.Nat

namespace DShowCapture.Jrtplib

open FixedWidth RFC3550

inductive CompPackError
  | alreadyBuilding
  | alreadyBuilt
  | maxPacketSizeTooSmall
  | bufferSizeTooSmall
  | notBuilding
  | alreadyGotReport
  | reportNotStarted
  | noReportPresent
  | noCurrentSource
  | invalidItemType
  | totalItemLengthTooBig
  | tooManySSRCs
  | illegalSubtype
  | illegalAPPDataLength
  | appDataLenTooBig
  | notEnoughBytesLeft
  deriving DecidableEq, Repr

def rtpMinPacketSize : Nat := 600

/-- Data whose length is a `uint8_t`. -/
structure ShortData where
  bytes : List UInt8
  short : bytes.length < 256
  deriving DecidableEq

structure SenderInfo where
  ntptimeMsw : UInt32
  ntptimeLsw : UInt32
  rtptimestamp : UInt32
  packetcount : UInt32
  octetcount : UInt32
  deriving DecidableEq

structure ReportBlock where
  ssrc : UInt32
  fractionlost : UInt8
  packetslost : Int
  exthighestseq : UInt32
  jitter : UInt32
  lsr : UInt32
  dlsr : UInt32
  deriving DecidableEq

def SenderInfo.bytes (self : SenderInfo) : List UInt8 :=
  bytes32 self.ntptimeMsw.toNat ++ (bytes32 self.ntptimeLsw.toNat ++
    (bytes32 self.rtptimestamp.toNat ++ (bytes32 self.packetcount.toNat ++
      bytes32 self.octetcount.toNat)))

/-- Of the count of lost packets the lower 24 bits are kept. -/
def ReportBlock.bytes (self : ReportBlock) : List UInt8 :=
  let packlost := u32 self.packetslost
  bytes32 self.ssrc.toNat ++
    ([self.fractionlost, UInt8.ofNat (packlost / 65536), UInt8.ofNat (packlost / 256),
      UInt8.ofNat packlost] ++
    (bytes32 self.exthighestseq.toNat ++ (bytes32 self.jitter.toNat ++
      (bytes32 self.lsr.toNat ++ bytes32 self.dlsr.toNat))))

def numPackets (count : Nat) : Nat :=
  let d := count / 31
  if count % 31 ≠ 0 then d + 1 else d

def alignToWord (size : Nat) : Nat :=
  let r := size % 4
  if r ≠ 0 then size + (4 - r) else size

/-- The member `report`; the report is not started while there are no bytes of a header. -/
structure Report where
  isSR : Bool
  headerdata : List UInt8
  reportblocks : List (List UInt8)

namespace Report

def headerlength (self : Report) : Nat := self.headerdata.length

def neededBytesFor (self : Report) (count : Nat) : Nat :=
  count * 24 + numPackets count * 8 + (if self.isSR then 20 else 0)

def neededBytes (self : Report) : Nat :=
  if self.reportblocks.length = 0 then
    if self.headerlength = 0 then 0 else 4 + self.headerlength
  else self.neededBytesFor self.reportblocks.length

def neededBytesWithExtraReportBlock (self : Report) : Nat :=
  self.neededBytesFor (self.reportblocks.length + 1)

end Report

structure SDESSource where
  ssrc : UInt32
  items : List (List UInt8)
  totalitemsize : Nat

namespace SDESSource

def neededBytes (self : SDESSource) : Nat := alignToWord (self.totalitemsize + 1) + 4

def neededBytesWithExtraItem (self : SDESSource) (itemdatalength : Nat) : Nat :=
  alignToWord (self.totalitemsize + 2 + itemdatalength + 1) + 4

def addItem (self : SDESSource) (item : List UInt8) : SDESSource :=
  { self with totalitemsize := self.totalitemsize + item.length, items := self.items ++ [item] }

end SDESSource

/-! ### The needed bytes of the chunks -/

def sdesNeededBytes (sources : List SDESSource) : Nat :=
  if sources.isEmpty then 0
  else (sources.map SDESSource.neededBytes).sum + numPackets sources.length * 4

/-- The extra item goes into the last source. -/
def sdesNeededBytesWithExtraItem (sources : List SDESSource) (itemdatalength : Nat) : Nat :=
  match sources.getLast? with
  | none => 0
  | some last =>
      (sources.dropLast.map SDESSource.neededBytes).sum +
        last.neededBytesWithExtraItem itemdatalength + numPackets sources.length * 4

/-- The first source is not counted. -/
def sdesNeededBytesWithExtraSource (sources : List SDESSource) : Nat :=
  if sources.isEmpty then 0
  else (sources.map SDESSource.neededBytes).sum + 8 + numPackets (sources.length + 1) * 4

structure RTCPCompoundPacketBuilder where
  maximumpacketsize : Nat
  arebuilding : Bool
  report : Report
  sdessources : List SDESSource
  byepackets : List (List UInt8)
  byesize : Nat
  apppackets : List (List UInt8)
  appsize : Nat
  /-- The finished packet. -/
  compoundpacket : Option (List UInt8)

namespace RTCPCompoundPacketBuilder

def new : RTCPCompoundPacketBuilder :=
  { maximumpacketsize := 0
    arebuilding := false
    report := { isSR := false, headerdata := [], reportblocks := [] }
    sdessources := []
    byepackets := []
    byesize := 0
    apppackets := []
    appsize := 0
    compoundpacket := none }

def started (self : RTCPCompoundPacketBuilder) (maxpacketsize : Nat) :
    RTCPCompoundPacketBuilder :=
  { self with maximumpacketsize := maxpacketsize, byesize := 0, appsize := 0, arebuilding := true }

/-- `InitBuild` for memory of the builder's own, or for a buffer of its caller. -/
def initBuild (self : RTCPCompoundPacketBuilder) (maxpacketsize : Nat) (external : Bool) :
    Except CompPackError RTCPCompoundPacketBuilder :=
  if self.arebuilding then .error .alreadyBuilding
  else if self.compoundpacket.isSome then .error .alreadyBuilt
  else if maxpacketsize < rtpMinPacketSize then
    .error (if external then .bufferSizeTooSmall else .maxPacketSizeTooSmall)
  else .ok (self.started maxpacketsize)

def sdesBytes (self : RTCPCompoundPacketBuilder) : Nat := sdesNeededBytes self.sdessources

/-- The bytes that are needed for what has been added so far. -/
def size (self : RTCPCompoundPacketBuilder) : Nat :=
  self.appsize + self.byesize + self.report.neededBytes + self.sdesBytes

def withReport (self : RTCPCompoundPacketBuilder) (isSR : Bool) (header : List UInt8) :
    RTCPCompoundPacketBuilder :=
  { self with report := { self.report with headerdata := header, isSR := isSR } }

def withBlock (self : RTCPCompoundPacketBuilder) (block : List UInt8) :
    RTCPCompoundPacketBuilder :=
  { self with
    report := { self.report with reportblocks := self.report.reportblocks ++ [block] } }

def withSource (self : RTCPCompoundPacketBuilder) (ssrc : UInt32) : RTCPCompoundPacketBuilder :=
  { self with
    sdessources := self.sdessources ++ [{ ssrc := ssrc, items := [], totalitemsize := 0 }] }

def withItem (self : RTCPCompoundPacketBuilder) (item : List UInt8) :
    RTCPCompoundPacketBuilder :=
  { self with
    sdessources := self.sdessources.modify (self.sdessources.length - 1) fun source =>
      source.addItem item }

def withBYE (self : RTCPCompoundPacketBuilder) (packet : List UInt8) :
    RTCPCompoundPacketBuilder :=
  { self with
    byepackets := self.byepackets ++ [packet]
    byesize := self.byesize + packet.length }

def withAPP (self : RTCPCompoundPacketBuilder) (packet : List UInt8) :
    RTCPCompoundPacketBuilder :=
  { self with
    apppackets := self.apppackets ++ [packet]
    appsize := self.appsize + packet.length }

/-- What `StartSenderReport` and `StartReceiverReport` have in common; the bytes left over are a
difference of `size_t`. -/
def startReport (self : RTCPCompoundPacketBuilder) (isSR : Bool) (header : List UInt8) :
    Except CompPackError RTCPCompoundPacketBuilder :=
  if !self.arebuilding then .error .notBuilding
  else if self.report.headerlength ≠ 0 then .error .alreadyGotReport
  else
    let totalsize := self.byesize + self.appsize + self.sdesBytes
    let sizeleft := u32 ((self.maximumpacketsize : Int) - totalsize)
    if sizeleft < 4 + header.length then .error .notEnoughBytesLeft
    else .ok (self.withReport isSR header)

def startSenderReport (self : RTCPCompoundPacketBuilder) (senderssrc : UInt32)
    (info : SenderInfo) : Except CompPackError RTCPCompoundPacketBuilder :=
  self.startReport true (bytes32 senderssrc.toNat ++ info.bytes)

def startReceiverReport (self : RTCPCompoundPacketBuilder) (senderssrc : UInt32) :
    Except CompPackError RTCPCompoundPacketBuilder :=
  self.startReport false (bytes32 senderssrc.toNat)

def addReportBlock (self : RTCPCompoundPacketBuilder) (block : ReportBlock) :
    Except CompPackError RTCPCompoundPacketBuilder :=
  if !self.arebuilding then .error .notBuilding
  else if self.report.headerlength = 0 then .error .reportNotStarted
  else
    let totalothersize := self.byesize + self.appsize + self.sdesBytes
    if self.maximumpacketsize < totalothersize + self.report.neededBytesWithExtraReportBlock then
      .error .notEnoughBytesLeft
    else .ok (self.withBlock block.bytes)

def addSDESSource (self : RTCPCompoundPacketBuilder) (ssrc : UInt32) :
    Except CompPackError RTCPCompoundPacketBuilder :=
  if !self.arebuilding then .error .notBuilding
  else
    let totalotherbytes := self.byesize + self.appsize + self.report.neededBytes
    if self.maximumpacketsize <
        totalotherbytes + sdesNeededBytesWithExtraSource self.sdessources then
      .error .notEnoughBytesLeft
    else .ok (self.withSource ssrc)

def addItem (self : RTCPCompoundPacketBuilder) (sdesid : UInt8) (itemdata : List UInt8) :
    Except CompPackError RTCPCompoundPacketBuilder :=
  let totalotherbytes := self.byesize + self.appsize + self.report.neededBytes
  if self.maximumpacketsize <
      sdesNeededBytesWithExtraItem self.sdessources itemdata.length + totalotherbytes then
    .error .notEnoughBytesLeft
  else .ok (self.withItem (sdesid :: UInt8.ofNat itemdata.length :: itemdata))

def itemId : ItemType → Option UInt8
  | .normal .cname => some 1
  | .normal .name => some 2
  | .normal .email => some 3
  | .normal .phone => some 4
  | .normal .location => some 5
  | .normal .tool => some 6
  | .normal .note => some 7
  | _ => none

def addSDESNormalItem (self : RTCPCompoundPacketBuilder) (t : ItemType) (itemdata : ShortData) :
    Except CompPackError RTCPCompoundPacketBuilder :=
  if !self.arebuilding then .error .notBuilding
  else if self.sdessources.isEmpty then .error .noCurrentSource
  else
    match itemId t with
    | none => .error .invalidItemType
    | some itemid => self.addItem itemid itemdata.bytes

def addSDESPrivateItem (self : RTCPCompoundPacketBuilder) (pre value : ShortData) :
    Except CompPackError RTCPCompoundPacketBuilder :=
  if !self.arebuilding then .error .notBuilding
  else if self.sdessources.isEmpty then .error .noCurrentSource
  else if 255 < pre.bytes.length + 1 + value.bytes.length then .error .totalItemLengthTooBig
  else self.addItem 8 (UInt8.ofNat pre.bytes.length :: (pre.bytes ++ value.bytes))

/-- The bytes of `RTCPCommonHeader`, with the length in words and one less. -/
def commonHeader (count : Nat) (packettype : UInt8) (size : Nat) : List UInt8 :=
  [0x80 ||| UInt8.ofNat count, packettype] ++ bytes16 (size / 4 - 1)

def byePacket (ssrcs : List UInt32) (reason : List UInt8) : List UInt8 :=
  let sources := ssrcs.flatMap fun ssrc => bytes32 ssrc.toNat
  if 0 < reason.length then
    let packsize := 4 + sources.length + 1 + reason.length
    let zerobytes := alignToWord packsize - packsize
    commonHeader ssrcs.length 203 (packsize + zerobytes) ++
      (sources ++ (UInt8.ofNat reason.length :: (reason ++ List.replicate zerobytes 0)))
  else commonHeader ssrcs.length 203 (4 + sources.length) ++ sources

def addBYEPacket (self : RTCPCompoundPacketBuilder) (ssrcs : List UInt32) (reason : ShortData) :
    Except CompPackError RTCPCompoundPacketBuilder :=
  if !self.arebuilding then .error .notBuilding
  else if 31 < ssrcs.length then .error .tooManySSRCs
  else
    let packet := byePacket ssrcs reason.bytes
    if self.maximumpacketsize < self.size + packet.length then .error .notEnoughBytesLeft
    else .ok (self.withBYE packet)

structure APPName where
  first : UInt8
  second : UInt8
  third : UInt8
  fourth : UInt8
  deriving DecidableEq

def APPName.bytes (self : APPName) : List UInt8 :=
  [self.first, self.second, self.third, self.fourth]

def appPacket (subtype : UInt8) (ssrc : UInt32) (name : APPName) (appdata : List UInt8) :
    List UInt8 :=
  commonHeader subtype.toNat 204 (12 + appdata.length) ++
    (bytes32 ssrc.toNat ++ (name.bytes ++ appdata))

def addAPPPacket (self : RTCPCompoundPacketBuilder) (subtype : UInt8) (ssrc : UInt32)
    (name : APPName) (appdata : List UInt8) : Except CompPackError RTCPCompoundPacketBuilder :=
  if !self.arebuilding then .error .notBuilding
  else if 31 < subtype then .error .illegalSubtype
  else if appdata.length % 4 ≠ 0 then .error .illegalAPPDataLength
  else if 65535 < appdata.length / 4 + 2 then .error .appDataLenTooBig
  else
    let packet := appPacket subtype ssrc name appdata
    if self.maximumpacketsize < self.size + packet.length then .error .notEnoughBytesLeft
    else .ok (self.withAPP packet)

/-! ### `EndBuild` -/

/-- One round of the loop over the report blocks. -/
def reportPacket (report : Report) (firstpacket : Bool) (blocks : List (List UInt8)) :
    List UInt8 :=
  let isSR := firstpacket && report.isSR
  let front := if isSR then report.headerdata else report.headerdata.take 4
  let body := front ++ blocks.flatten
  commonHeader blocks.length (if isSR then 200 else 201) (4 + body.length) ++ body

def reportPackets (report : Report) (firstpacket : Bool) (blocks : List (List UInt8)) :
    List (List UInt8) :=
  if blocks.length ≤ 31 then [reportPacket report firstpacket blocks]
  else
    reportPacket report firstpacket (blocks.take 31) ::
      reportPackets report false (blocks.drop 31)
termination_by blocks.length
decreasing_by
  simp only [List.length_drop]
  omega

/-- The chunk of a source: its items, the zero that ends them, and zeros up to a word; a chunk
begins at a multiple of four. -/
def chunkBytes (source : SDESSource) : List UInt8 :=
  let items := source.items.flatten
  bytes32 source.ssrc.toNat ++
    (items ++ (0 :: List.replicate (alignToWord (items.length + 1) - (items.length + 1)) 0))

def sdesPacket (sources : List SDESSource) : List UInt8 :=
  let body := sources.flatMap chunkBytes
  commonHeader sources.length 202 (4 + body.length) ++ body

def sdesPackets (sources : List SDESSource) : List (List UInt8) :=
  if sources.length ≤ 31 then
    if sources.isEmpty then [] else [sdesPacket sources]
  else sdesPacket (sources.take 31) :: sdesPackets (sources.drop 31)
termination_by sources.length
decreasing_by
  simp only [List.length_drop]
  omega

/-- The packets in the order in which `EndBuild` writes them. -/
def packets (self : RTCPCompoundPacketBuilder) : List (List UInt8) :=
  reportPackets self.report true self.report.reportblocks ++
    (sdesPackets self.sdessources ++ (self.apppackets ++ self.byepackets))

def endBuild (self : RTCPCompoundPacketBuilder) :
    Except CompPackError RTCPCompoundPacketBuilder :=
  if !self.arebuilding then .error .notBuilding
  else if self.report.headerlength = 0 then .error .noReportPresent
  else
    .ok
      { new with
        maximumpacketsize := self.maximumpacketsize
        compoundpacket := some self.packets.flatten }

/-! ### Calls -/

inductive Call
  | initBuild (maxpacketsize : Nat) (external : Bool)
  | startSenderReport (senderssrc : UInt32) (info : SenderInfo)
  | startReceiverReport (senderssrc : UInt32)
  | addReportBlock (block : ReportBlock)
  | addSDESSource (ssrc : UInt32)
  | addSDESNormalItem (t : ItemType) (itemdata : ShortData)
  | addSDESPrivateItem (pre value : ShortData)
  | addBYEPacket (ssrcs : List UInt32) (reason : ShortData)
  | addAPPPacket (subtype : UInt8) (ssrc : UInt32) (name : APPName) (appdata : List UInt8)

def perform (self : RTCPCompoundPacketBuilder) :
    Call → Except CompPackError RTCPCompoundPacketBuilder
  | .initBuild maxpacketsize external => self.initBuild maxpacketsize external
  | .startSenderReport senderssrc info => self.startSenderReport senderssrc info
  | .startReceiverReport senderssrc => self.startReceiverReport senderssrc
  | .addReportBlock block => self.addReportBlock block
  | .addSDESSource ssrc => self.addSDESSource ssrc
  | .addSDESNormalItem t itemdata => self.addSDESNormalItem t itemdata
  | .addSDESPrivateItem pre value => self.addSDESPrivateItem pre value
  | .addBYEPacket ssrcs reason => self.addBYEPacket ssrcs reason
  | .addAPPPacket subtype ssrc name appdata => self.addAPPPacket subtype ssrc name appdata

/-- A call that fails leaves the builder as it is. -/
def step (self : RTCPCompoundPacketBuilder) (call : Call) : RTCPCompoundPacketBuilder :=
  match self.perform call with
  | .error _ => self
  | .ok next => next

def after (self : RTCPCompoundPacketBuilder) (calls : List Call) : RTCPCompoundPacketBuilder :=
  calls.foldl step self

inductive Takes (self : RTCPCompoundPacketBuilder) : Call → RTCPCompoundPacketBuilder → Prop
  | init {maxpacketsize : Nat} {external : Bool} (idle : self.arebuilding = false)
      (large : rtpMinPacketSize ≤ maxpacketsize) :
      Takes self (.initBuild maxpacketsize external) (self.started maxpacketsize)
  | sender {senderssrc : UInt32} {info : SenderInfo} (building : self.arebuilding = true)
      (isFirst : self.report.headerdata = [])
      (room : 28 ≤ u32 ((self.maximumpacketsize : Int) -
        (self.byesize + self.appsize + self.sdesBytes : Nat))) :
      Takes self (.startSenderReport senderssrc info)
        (self.withReport true (bytes32 senderssrc.toNat ++ info.bytes))
  | receiver {senderssrc : UInt32} (building : self.arebuilding = true)
      (isFirst : self.report.headerdata = [])
      (room : 8 ≤ u32 ((self.maximumpacketsize : Int) -
        (self.byesize + self.appsize + self.sdesBytes : Nat))) :
      Takes self (.startReceiverReport senderssrc)
        (self.withReport false (bytes32 senderssrc.toNat))
  | block {block : ReportBlock} (building : self.arebuilding = true)
      (isStarted : self.report.headerdata ≠ [])
      (room : self.byesize + self.appsize + self.sdesBytes +
        self.report.neededBytesWithExtraReportBlock ≤ self.maximumpacketsize) :
      Takes self (.addReportBlock block) (self.withBlock block.bytes)
  | source {ssrc : UInt32} (building : self.arebuilding = true)
      (room : self.byesize + self.appsize + self.report.neededBytes +
        sdesNeededBytesWithExtraSource self.sdessources ≤ self.maximumpacketsize) :
      Takes self (.addSDESSource ssrc) (self.withSource ssrc)
  | normalItem {t : ItemType} {itemid : UInt8} {itemdata : ShortData}
      (building : self.arebuilding = true) (current : self.sdessources ≠ [])
      (isNormal : itemId t = some itemid)
      (room : sdesNeededBytesWithExtraItem self.sdessources itemdata.bytes.length +
        (self.byesize + self.appsize + self.report.neededBytes) ≤ self.maximumpacketsize) :
      Takes self (.addSDESNormalItem t itemdata)
        (self.withItem (itemid :: UInt8.ofNat itemdata.bytes.length :: itemdata.bytes))
  | privateItem {pre value : ShortData} {itemdata : List UInt8}
      (building : self.arebuilding = true) (current : self.sdessources ≠ [])
      (itemdataEq : itemdata =
        UInt8.ofNat pre.bytes.length :: (pre.bytes ++ value.bytes))
      (short : itemdata.length < 256)
      (room : sdesNeededBytesWithExtraItem self.sdessources itemdata.length +
        (self.byesize + self.appsize + self.report.neededBytes) ≤ self.maximumpacketsize) :
      Takes self (.addSDESPrivateItem pre value)
        (self.withItem (8 :: UInt8.ofNat itemdata.length :: itemdata))
  | bye {ssrcs : List UInt32} {reason : ShortData} (building : self.arebuilding = true)
      (few : ssrcs.length ≤ 31)
      (room : self.size + (byePacket ssrcs reason.bytes).length ≤ self.maximumpacketsize) :
      Takes self (.addBYEPacket ssrcs reason) (self.withBYE (byePacket ssrcs reason.bytes))
  | app {subtype : UInt8} {ssrc : UInt32} {name : APPName} {appdata : List UInt8}
      (building : self.arebuilding = true) (small : subtype ≤ 31)
      (words : appdata.length % 4 = 0) (short : appdata.length / 4 + 2 ≤ 65535)
      (room : self.size + (appPacket subtype ssrc name appdata).length ≤
        self.maximumpacketsize) :
      Takes self (.addAPPPacket subtype ssrc name appdata)
        (self.withAPP (appPacket subtype ssrc name appdata))

theorem startReport_spec {self next : RTCPCompoundPacketBuilder} {isSR : Bool}
    {header : List UInt8} (success : self.startReport isSR header = .ok next) :
    self.arebuilding = true ∧ self.report.headerdata = [] ∧
      4 + header.length ≤ u32 ((self.maximumpacketsize : Int) -
        (self.byesize + self.appsize + self.sdesBytes : Nat)) ∧
      next = self.withReport isSR header := by
  unfold startReport at success
  split at success
  · cases success
  · rename_i building
    split at success
    · cases success
    · rename_i isFirst
      simp only at success
      split at success
      · cases success
      · rename_i room
        cases success
        exact ⟨by simpa using building, List.length_eq_zero_iff.mp (not_not.mp isFirst),
          Nat.not_lt.mp room, rfl⟩

theorem addItem_spec {self next : RTCPCompoundPacketBuilder} {sdesid : UInt8}
    {itemdata : List UInt8} (success : self.addItem sdesid itemdata = .ok next) :
    sdesNeededBytesWithExtraItem self.sdessources itemdata.length +
        (self.byesize + self.appsize + self.report.neededBytes) ≤ self.maximumpacketsize ∧
      next = self.withItem (sdesid :: UInt8.ofNat itemdata.length :: itemdata) := by
  unfold addItem at success
  simp only at success
  split at success
  · cases success
  · rename_i room
    cases success
    exact ⟨Nat.not_lt.mp room, rfl⟩

theorem takes_of_perform {self next : RTCPCompoundPacketBuilder} {call : Call}
    (success : self.perform call = .ok next) : self.Takes call next := by
  cases call with
  | initBuild maxpacketsize external =>
      simp only [perform, initBuild] at success
      split at success
      · cases success
      · rename_i idle
        split at success
        · cases success
        · split at success
          · cases success
          · rename_i large
            cases success
            exact .init (Bool.not_eq_true _ ▸ idle) (Nat.not_lt.mp large)
  | startSenderReport senderssrc info =>
      obtain ⟨building, isFirst, room, rfl⟩ := startReport_spec success
      exact .sender building isFirst room
  | startReceiverReport senderssrc =>
      obtain ⟨building, isFirst, room, rfl⟩ := startReport_spec success
      exact .receiver building isFirst room
  | addReportBlock block =>
      simp only [perform, addReportBlock] at success
      split at success
      · cases success
      · rename_i building
        split at success
        · cases success
        · rename_i isStarted
          split at success
          · cases success
          · rename_i room
            cases success
            refine .block (by simpa using building) ?_ (Nat.not_lt.mp room)
            intro isEmpty
            exact isStarted (congrArg List.length isEmpty)
  | addSDESSource ssrc =>
      simp only [perform, addSDESSource] at success
      split at success
      · cases success
      · rename_i building
        split at success
        · cases success
        · rename_i room
          cases success
          exact .source (by simpa using building) (Nat.not_lt.mp room)
  | addSDESNormalItem t itemdata =>
      simp only [perform, addSDESNormalItem] at success
      split at success
      · cases success
      · rename_i building
        split at success
        · cases success
        · rename_i current
          split at success
          · cases success
          · rename_i itemid isNormal
            obtain ⟨room, rfl⟩ := addItem_spec success
            exact .normalItem (by simpa using building)
              (fun isEmpty => current (List.isEmpty_iff.mpr isEmpty)) isNormal room
  | addSDESPrivateItem pre value =>
      simp only [perform, addSDESPrivateItem] at success
      split at success
      · cases success
      · rename_i building
        split at success
        · cases success
        · rename_i current
          split at success
          · cases success
          · rename_i short
            obtain ⟨room, rfl⟩ := addItem_spec success
            refine .privateItem (by simpa using building)
              (fun isEmpty => current (List.isEmpty_iff.mpr isEmpty)) rfl ?_ room
            rw [List.length_cons, List.length_append]
            omega
  | addBYEPacket ssrcs reason =>
      simp only [perform, addBYEPacket] at success
      split at success
      · cases success
      · rename_i building
        split at success
        · cases success
        · rename_i few
          split at success
          · cases success
          · rename_i room
            cases success
            exact .bye (by simpa using building) (Nat.not_lt.mp few) (Nat.not_lt.mp room)
  | addAPPPacket subtype ssrc name appdata =>
      simp only [perform, addAPPPacket] at success
      split at success
      · cases success
      · rename_i building
        split at success
        · cases success
        · rename_i small
          split at success
          · cases success
          · rename_i words
            split at success
            · cases success
            · rename_i short
              split at success
              · cases success
              · rename_i room
                cases success
                exact .app (by simpa using building) (UInt8.not_lt.mp small)
                  (not_not.mp words) (Nat.not_lt.mp short) (Nat.not_lt.mp room)

/-! ### The size of the packet -/

structure Consistent (state : RTCPCompoundPacketBuilder) : Prop where
  idle : state.arebuilding = false → state.size = 0
  header : (state.report.headerdata = [] ∧ state.report.isSR = false ∧
      state.report.reportblocks = []) ∨
    state.report.headerdata.length = if state.report.isSR then 24 else 4
  blocks : ∀ block, block ∈ state.report.reportblocks → block.length = 24
  items : ∀ source, source ∈ state.sdessources →
    source.totalitemsize = source.items.flatten.length
  apps : state.appsize = state.apppackets.flatten.length
  byes : state.byesize = state.byepackets.flatten.length

theorem consistent_new : new.Consistent :=
  { idle := fun _ => rfl
    header := Or.inl ⟨rfl, rfl, rfl⟩
    blocks := fun _ impossible => absurd impossible List.not_mem_nil
    items := fun _ impossible => absurd impossible List.not_mem_nil
    apps := rfl
    byes := rfl }

theorem neededBytes_of_unstarted {self : RTCPCompoundPacketBuilder} (consistent : self.Consistent)
    (isFirst : self.report.headerdata = []) :
    self.report.reportblocks = [] ∧ self.report.neededBytes = 0 := by
  rcases consistent.header with ⟨_, _, noBlocks⟩ | started
  · refine ⟨noBlocks, ?_⟩
    rw [Report.neededBytes, noBlocks, Report.headerlength, isFirst]
    rfl
  · rw [isFirst] at started
    split at started
    · cases started
    · cases started

theorem modify_last {Item : Type} (front : List Item) (last : Item) (change : Item → Item) :
    (front ++ [last]).modify ((front ++ [last]).length - 1) change = front ++ [change last] := by
  rw [List.length_append, List.length_singleton, Nat.add_sub_cancel]
  induction front with
  | nil => rfl
  | cons first rest ih =>
      rw [List.cons_append, List.length_cons, List.modify_succ_cons, ih]
      rfl

theorem size_withReport {self : RTCPCompoundPacketBuilder} (consistent : self.Consistent)
    (isFirst : self.report.headerdata = []) (isSR : Bool) {header : List UInt8}
    (nonempty : header.length ≠ 0) :
    (self.withReport isSR header).size = self.size + (4 + header.length) := by
  obtain ⟨noBlocks, noBytes⟩ := neededBytes_of_unstarted consistent isFirst
  have needed : (self.withReport isSR header).report.neededBytes = 4 + header.length := by
    change (if self.report.reportblocks.length = 0 then
      if header.length = 0 then 0 else 4 + header.length else _) = _
    rw [noBlocks, if_pos List.length_nil, if_neg nonempty]
  rw [size, size, needed, noBytes]
  change self.appsize + self.byesize + _ + self.sdesBytes = _
  omega

theorem size_withBlock (self : RTCPCompoundPacketBuilder) (block : List UInt8) :
    (self.withBlock block).size = self.byesize + self.appsize + self.sdesBytes +
      self.report.neededBytesWithExtraReportBlock := by
  have needed : (self.withBlock block).report.neededBytes =
      self.report.neededBytesWithExtraReportBlock := by
    change (if (self.report.reportblocks ++ [block]).length = 0 then _ else
      self.report.neededBytesFor (self.report.reportblocks ++ [block]).length) = _
    rw [List.length_append, List.length_singleton, if_neg (Nat.succ_ne_zero _)]
    rfl
  rw [size, needed]
  change self.appsize + self.byesize + _ + self.sdesBytes = _
  omega

/-- The bytes for one more source are the ones that have been checked, but for the first. -/
theorem size_withSource (self : RTCPCompoundPacketBuilder) (ssrc : UInt32) :
    (self.withSource ssrc).size = self.byesize + self.appsize + self.report.neededBytes +
      if self.sdessources = [] then 12 else sdesNeededBytesWithExtraSource self.sdessources := by
  have needed : (self.withSource ssrc).sdesBytes =
      if self.sdessources = [] then 12
      else sdesNeededBytesWithExtraSource self.sdessources := by
    change sdesNeededBytes (self.sdessources ++ [_]) = _
    split
    · rename_i isFirst
      rw [isFirst]
      simp [sdesNeededBytes, SDESSource.neededBytes, alignToWord, numPackets]
    · rename_i nonempty
      have notEmpty : ¬ self.sdessources.isEmpty = true := fun isEmpty =>
        nonempty (List.isEmpty_iff.mp isEmpty)
      have stillNotEmpty (source : SDESSource) :
          ¬ (self.sdessources ++ [source]).isEmpty = true := by
        rw [List.isEmpty_iff]
        exact List.append_ne_nil_of_right_ne_nil _ (List.cons_ne_nil source [])
      rw [sdesNeededBytes, sdesNeededBytesWithExtraSource, if_neg notEmpty,
        if_neg (stillNotEmpty _), List.map_append, List.sum_append, List.length_append]
      rfl
  rw [size, needed]
  change self.appsize + self.byesize + self.report.neededBytes + _ = _
  omega

theorem size_withItem {self : RTCPCompoundPacketBuilder} (current : self.sdessources ≠ [])
    (sdesid lengthByte : UInt8) (itemdata : List UInt8) :
    (self.withItem (sdesid :: lengthByte :: itemdata)).size =
      sdesNeededBytesWithExtraItem self.sdessources itemdata.length +
        (self.byesize + self.appsize + self.report.neededBytes) := by
  have needed : (self.withItem (sdesid :: lengthByte :: itemdata)).sdesBytes =
      sdesNeededBytesWithExtraItem self.sdessources itemdata.length := by
    change sdesNeededBytes (self.sdessources.modify _ _) = _
    obtain ⟨front, last, sourcesEq⟩ : ∃ front last, self.sdessources = front ++ [last] :=
      ⟨_, _, (List.dropLast_append_getLast current).symm⟩
    have notEmpty (source : SDESSource) : ¬ (front ++ [source]).isEmpty = true := by
      rw [List.isEmpty_iff]
      exact List.append_ne_nil_of_right_ne_nil _ (List.cons_ne_nil source [])
    rw [sourcesEq, modify_last, sdesNeededBytes, if_neg (notEmpty _), sdesNeededBytesWithExtraItem,
      List.getLast?_concat]
    simp only [List.dropLast_concat, List.map_append, List.sum_append, List.length_append,
      List.map_cons, List.map_nil, List.sum_cons, List.sum_nil, List.length_singleton]
    have same : (last.addItem (sdesid :: lengthByte :: itemdata)).neededBytes =
        last.neededBytesWithExtraItem itemdata.length := by
      have sizeEq : last.totalitemsize + (itemdata.length + 1 + 1) + 1 =
          last.totalitemsize + 2 + itemdata.length + 1 := by omega
      change alignToWord (last.totalitemsize + (itemdata.length + 1 + 1) + 1) + 4 = _
      rw [sizeEq]
      rfl
    rw [same]
    rfl
  rw [size, needed]
  change self.appsize + self.byesize + self.report.neededBytes + _ = _
  omega

theorem size_withBYE (self : RTCPCompoundPacketBuilder) (packet : List UInt8) :
    (self.withBYE packet).size = self.size + packet.length := by
  change self.appsize + (self.byesize + packet.length) + self.report.neededBytes +
    self.sdesBytes = self.appsize + self.byesize + self.report.neededBytes + self.sdesBytes + _
  omega

theorem size_withAPP (self : RTCPCompoundPacketBuilder) (packet : List UInt8) :
    (self.withAPP packet).size = self.size + packet.length := by
  change self.appsize + packet.length + self.byesize + self.report.neededBytes +
    self.sdesBytes = self.appsize + self.byesize + self.report.neededBytes + self.sdesBytes + _
  omega

theorem size_started {self : RTCPCompoundPacketBuilder} (noSize : self.size = 0)
    (maxpacketsize : Nat) : (self.started maxpacketsize).size = 0 := by
  unfold size at noSize
  change 0 + 0 + self.report.neededBytes + self.sdesBytes = 0
  omega

theorem items_withItem {self : RTCPCompoundPacketBuilder}
    (items : ∀ source, source ∈ self.sdessources →
      source.totalitemsize = source.items.flatten.length)
    (current : self.sdessources ≠ []) (item : List UInt8) :
    ∀ source, source ∈ (self.withItem item).sdessources →
      source.totalitemsize = source.items.flatten.length := by
  intro source member
  change source ∈ self.sdessources.modify _ _ at member
  obtain ⟨front, last, sourcesEq⟩ : ∃ front last, self.sdessources = front ++ [last] :=
    ⟨_, _, (List.dropLast_append_getLast current).symm⟩
  rw [sourcesEq] at items member
  rw [modify_last] at member
  rcases List.mem_append.mp member with old | new
  · exact items source (List.mem_append_left _ old)
  · have lastEq := items last (List.mem_append_right front (List.mem_singleton_self last))
    rw [List.mem_singleton.mp new]
    change last.totalitemsize + item.length = (last.items ++ [item]).flatten.length
    rw [List.flatten_append, List.length_append, lastEq, List.flatten_singleton]

theorem consistent_of_takes {self next : RTCPCompoundPacketBuilder} {call : Call}
    (consistent : self.Consistent) (takes : self.Takes call next) : next.Consistent := by
  have busy {state : RTCPCompoundPacketBuilder} (building : state.arebuilding = true) :
      state.arebuilding = false → state.size = 0 := by
    intro idle
    rw [building] at idle
    cases idle
  cases takes with
  | init idle large =>
      have noSize := consistent.idle idle
      unfold size at noSize
      have apps := consistent.apps
      have byes := consistent.byes
      exact
        { consistent with
          idle := busy rfl
          apps := by
            change 0 = self.apppackets.flatten.length
            omega
          byes := by
            change 0 = self.byepackets.flatten.length
            omega }
  | sender building isFirst room =>
      exact { consistent with idle := busy building, header := Or.inr rfl }
  | receiver building isFirst room =>
      exact { consistent with idle := busy building, header := Or.inr rfl }
  | block building isStarted room =>
      rename_i block
      refine { consistent with idle := busy building, header := ?_, blocks := ?_ }
      · rcases consistent.header with ⟨noHeader, _⟩ | started
        · exact absurd noHeader isStarted
        · exact Or.inr started
      · intro other member
        rcases List.mem_append.mp member with old | new
        · exact consistent.blocks other old
        · rw [List.mem_singleton.mp new]
          rfl
  | source building room =>
      refine { consistent with idle := busy building, items := ?_ }
      intro source member
      rcases List.mem_append.mp member with old | new
      · exact consistent.items source old
      · rw [List.mem_singleton.mp new]
        rfl
  | normalItem building current isNormal room =>
      exact { consistent with
        idle := busy building, items := items_withItem consistent.items current _ }
  | privateItem building current itemdataEq short room =>
      exact { consistent with
        idle := busy building, items := items_withItem consistent.items current _ }
  | bye building few room =>
      refine { consistent with idle := busy building, byes := ?_ }
      change self.byesize + _ = (self.byepackets ++ [_]).flatten.length
      rw [List.flatten_append, List.length_append, ← consistent.byes, List.flatten_singleton]
  | app building small words short room =>
      refine { consistent with idle := busy building, apps := ?_ }
      change self.appsize + _ = (self.apppackets ++ [_]).flatten.length
      rw [List.flatten_append, List.length_append, ← consistent.apps, List.flatten_singleton]

theorem perform_eq_ok_or (self : RTCPCompoundPacketBuilder) (call : Call) :
    self.step call = self ∨ self.Takes call (self.step call) := by
  cases performed : self.perform call with
  | error error =>
      rw [step, performed]
      exact Or.inl rfl
  | ok next =>
      rw [step, performed]
      exact Or.inr (takes_of_perform performed)

/-! ### What `EndBuild` writes -/

theorem length_commonHeader (count : Nat) (packettype : UInt8) (size : Nat) :
    (commonHeader count packettype size).length = 4 := rfl

theorem numPackets_sub (count : Nat) (many : 31 < count) :
    numPackets count = numPackets (count - 31) + 1 := by
  simp only [numPackets]
  have same : count % 31 = (count - 31) % 31 := by omega
  rw [same]
  split <;> omega

theorem numPackets_small {count : Nat} (positive : 0 < count) (few : count ≤ 31) :
    numPackets count = 1 := by
  simp only [numPackets]
  split <;> omega

theorem length_flatten_blocks {blocks : List (List UInt8)}
    (sized : ∀ block, block ∈ blocks → block.length = 24) :
    blocks.flatten.length = blocks.length * 24 := by
  induction blocks with
  | nil => rfl
  | cons block rest ih =>
      rw [List.flatten_cons, List.length_append, sized block List.mem_cons_self,
        ih fun other member => sized other (List.mem_cons_of_mem block member), List.length_cons]
      omega

theorem length_reportPacket {report : Report} (firstpacket : Bool) {blocks : List (List UInt8)}
    (headerEq : report.headerdata.length = if report.isSR then 24 else 4)
    (sized : ∀ block, block ∈ blocks → block.length = 24) :
    (reportPacket report firstpacket blocks).length =
      blocks.length * 24 + 8 + if firstpacket && report.isSR then 20 else 0 := by
  rw [reportPacket]
  simp only [List.length_append, length_commonHeader, length_flatten_blocks sized]
  cases isSR : report.isSR with
  | false =>
      rw [isSR, if_neg Bool.false_ne_true] at headerEq
      rw [Bool.and_false, if_neg Bool.false_ne_true, if_neg Bool.false_ne_true, List.length_take,
        headerEq]
      omega
  | true =>
      rw [isSR, if_pos rfl] at headerEq
      cases firstpacket with
      | false =>
          rw [Bool.false_and, if_neg Bool.false_ne_true, if_neg Bool.false_ne_true,
            List.length_take, headerEq]
          omega
      | true =>
          rw [Bool.true_and, if_pos rfl, if_pos rfl, headerEq]
          omega

/-- The packets of the report have the size that was computed for them: by induction on the
packets, of which the first only may hold the sender information. -/
theorem length_reportPackets {report : Report} (firstpacket : Bool) {blocks : List (List UInt8)}
    (headerEq : report.headerdata.length = if report.isSR then 24 else 4)
    (sized : ∀ block, block ∈ blocks → block.length = 24) :
    (reportPackets report firstpacket blocks).flatten.length =
      blocks.length * 24 + (if blocks.length = 0 then 1 else numPackets blocks.length) * 8 +
        if firstpacket && report.isSR then 20 else 0 := by
  induction firstpacket, blocks using reportPackets.induct with
  | case1 firstpacket blocks few =>
      rw [reportPackets, if_pos few, List.flatten_singleton,
        length_reportPacket firstpacket headerEq sized]
      by_cases isEmpty : blocks.length = 0
      · rw [if_pos isEmpty]
      · rw [if_neg isEmpty, numPackets_small (Nat.pos_of_ne_zero isEmpty) few]
  | case2 firstpacket blocks many ih =>
      have front : ∀ block, block ∈ blocks.take 31 → block.length = 24 := fun block member =>
        sized block (List.mem_of_mem_take member)
      have behind := ih fun block member => sized block (List.mem_of_mem_drop member)
      have nonempty : ¬ blocks.length = 0 := by omega
      have stillNonempty : ¬ blocks.length - 31 = 0 := by omega
      have spread := numPackets_sub blocks.length (by omega)
      rw [List.length_drop, if_neg stillNonempty, Bool.false_and, if_neg Bool.false_ne_true]
        at behind
      rw [reportPackets, if_neg many, List.flatten_cons, List.length_append, behind,
        length_reportPacket firstpacket headerEq front, List.length_take, if_neg nonempty, spread]
      omega

theorem length_bytes32 (value : Nat) : (bytes32 value).length = 4 := rfl

theorem length_chunkBytes {source : SDESSource}
    (noted : source.totalitemsize = source.items.flatten.length) :
    (chunkBytes source).length = source.neededBytes := by
  have grows : source.items.flatten.length + 1 ≤ alignToWord (source.items.flatten.length + 1) := by
    simp only [alignToWord]
    split <;> omega
  rw [chunkBytes, SDESSource.neededBytes, noted]
  simp only [List.length_append, List.length_cons, List.length_replicate, length_bytes32]
  omega

theorem length_flatMap_chunkBytes (sources : List SDESSource)
    (noted : ∀ source, source ∈ sources → source.totalitemsize = source.items.flatten.length) :
    (sources.flatMap chunkBytes).length = (sources.map SDESSource.neededBytes).sum := by
  induction sources with
  | nil => rfl
  | cons source rest ih =>
      rw [List.flatMap_cons, List.length_append, List.map_cons, List.sum_cons,
        length_chunkBytes (noted source List.mem_cons_self),
        ih fun other member => noted other (List.mem_cons_of_mem source member)]

theorem length_sdesPackets {sources : List SDESSource}
    (noted : ∀ source, source ∈ sources → source.totalitemsize = source.items.flatten.length) :
    (sdesPackets sources).flatten.length = sdesNeededBytes sources := by
  induction sources using sdesPackets.induct with
  | case1 sources few isEmpty =>
      rw [sdesPackets, if_pos few, if_pos isEmpty, sdesNeededBytes, if_pos isEmpty]
      rfl
  | case2 sources few nonempty =>
      have positive : 0 < sources.length :=
        List.length_pos_iff.mpr fun isEmpty => nonempty (List.isEmpty_iff.mpr isEmpty)
      rw [sdesPackets, if_pos few, if_neg nonempty, sdesNeededBytes, if_neg nonempty,
        List.flatten_singleton, sdesPacket, numPackets_small positive few]
      simp only [List.length_append, length_commonHeader, length_flatMap_chunkBytes sources noted]
      omega
  | case3 sources many ih =>
      have nonempty (part : List SDESSource) (long : 0 < part.length) :
          ¬ part.isEmpty = true := by
        intro isEmpty
        rw [List.isEmpty_iff.mp isEmpty] at long
        exact Nat.lt_irrefl 0 long
      have behind := ih fun source member => noted source (List.mem_of_mem_drop member)
      have front := length_flatMap_chunkBytes (sources.take 31) fun source member =>
        noted source (List.mem_of_mem_take member)
      have dropLength : (sources.drop 31).length = sources.length - 31 := List.length_drop
      have sumEq : (sources.map SDESSource.neededBytes).sum =
          ((sources.take 31).map SDESSource.neededBytes).sum +
            ((sources.drop 31).map SDESSource.neededBytes).sum := by
        rw [← List.sum_append, ← List.map_append, List.take_append_drop]
      have spread := numPackets_sub sources.length (by omega)
      rw [sdesNeededBytes, if_neg (nonempty _ (by omega)), dropLength] at behind
      rw [sdesPackets, if_neg many, List.flatten_cons, List.length_append, behind, sdesPacket,
        sdesNeededBytes, if_neg (nonempty _ (by omega)), sumEq, spread]
      simp only [List.length_append, length_commonHeader, front]
      omega

theorem length_packets {self : RTCPCompoundPacketBuilder} (consistent : self.Consistent)
    (isStarted : self.report.headerdata ≠ []) : self.packets.flatten.length = self.size := by
  rcases consistent.header with ⟨noHeader, _⟩ | headerEq
  · exact absurd noHeader isStarted
  · have reports := length_reportPackets true headerEq consistent.blocks
    have notEmpty : ¬ self.report.headerdata.length = 0 := fun isEmpty =>
      isStarted (List.length_eq_zero_iff.mp isEmpty)
    have needed : (reportPackets self.report true self.report.reportblocks).flatten.length =
        self.report.neededBytes := by
      rw [reports, Report.neededBytes, Report.headerlength, if_neg notEmpty, Report.neededBytesFor,
        Bool.true_and, headerEq]
      split
      · rename_i noBlocks
        rw [noBlocks]
        split <;> rfl
      · rfl
    rw [packets, List.flatten_append, List.flatten_append, List.flatten_append,
      List.length_append, List.length_append, List.length_append, needed,
      length_sdesPackets consistent.items, ← consistent.apps, ← consistent.byes, size]
    change _ = self.appsize + self.byesize + self.report.neededBytes +
      sdesNeededBytes self.sdessources
    omega

theorem endBuild_eq_ok_iff {self finished : RTCPCompoundPacketBuilder} :
    self.endBuild = .ok finished ↔
      self.arebuilding = true ∧ self.report.headerdata ≠ [] ∧
        finished = { new with
          maximumpacketsize := self.maximumpacketsize
          compoundpacket := some self.packets.flatten } := by
  unfold endBuild
  constructor
  · intro success
    split at success
    · cases success
    · rename_i building
      split at success
      · cases success
      · rename_i isStarted
        cases success
        exact ⟨by simpa using building, fun isEmpty => isStarted (congrArg List.length isEmpty),
          rfl⟩
  · rintro ⟨building, isStarted, rfl⟩
    have notEmpty : ¬ self.report.headerlength = 0 := fun isEmpty =>
      isStarted (List.length_eq_zero_iff.mp isEmpty)
    rw [building, Bool.not_true, if_neg Bool.false_ne_true, if_neg notEmpty]

/-- The limit is one that nothing computed with it can pass the width of `size_t`. -/
def Call.Limited : Call → Prop
  | .initBuild maxpacketsize _ => maxpacketsize < 2147483648
  | _ => True

/-- The call adds the first source although fewer than twelve bytes are left: the check does not
count it. -/
def Overfills (self : RTCPCompoundPacketBuilder) : Call → Prop
  | .addSDESSource _ =>
      self.arebuilding = true ∧ self.sdessources = [] ∧
        self.maximumpacketsize < self.size + 12
  | _ => False

def NeverOverfills : RTCPCompoundPacketBuilder → List Call → Prop
  | _, [] => True
  | self, call :: rest => ¬ self.Overfills call ∧ NeverOverfills (self.step call) rest

/-- How far the packet may pass the limit: by the first source, and then, as the difference that
`StartSenderReport` looks at wraps, by the header of the report as well. -/
structure Bounded (state : RTCPCompoundPacketBuilder) : Prop where
  consistent : state.Consistent
  limit : state.maximumpacketsize < 2147483648
  unstarted : state.report.headerdata = [] → state.size ≤ state.maximumpacketsize + 12
  size : state.size ≤ state.maximumpacketsize + 40

theorem size_startReport {self : RTCPCompoundPacketBuilder} (bounded : self.Bounded)
    (isFirst : self.report.headerdata = []) (isSR : Bool) (header : List UInt8)
    (nonempty : header.length ≠ 0) (short : header.length ≤ 24)
    (room : 4 + header.length ≤ u32 ((self.maximumpacketsize : Int) -
      (self.byesize + self.appsize + self.sdesBytes : Nat))) :
    (self.withReport isSR header).size ≤ self.maximumpacketsize + 40 ∧
      (self.size ≤ self.maximumpacketsize →
        (self.withReport isSR header).size ≤ self.maximumpacketsize) := by
  have early := bounded.unstarted isFirst
  have limit := bounded.limit
  have sizeEq : self.size = self.byesize + self.appsize + self.sdesBytes := by
    rw [size, (neededBytes_of_unstarted bounded.consistent isFirst).2]
    omega
  rw [size_withReport bounded.consistent isFirst isSR nonempty]
  rw [← sizeEq] at room
  refine ⟨by omega, ?_⟩
  intro notYet
  have exact : u32 ((self.maximumpacketsize : Int) - (self.size : Nat)) =
      self.maximumpacketsize - self.size := by
    unfold u32
    omega
  omega

/-- A successful call stays inside the limit unless it overfills or the limit was passed. -/
theorem bounded_of_takes {self next : RTCPCompoundPacketBuilder} {call : Call}
    (bounded : self.Bounded) (limited : call.Limited) (takes : self.Takes call next) :
    next.Bounded ∧
      (¬ self.Overfills call → self.size ≤ self.maximumpacketsize →
        next.size ≤ next.maximumpacketsize) := by
  have consistent := consistent_of_takes bounded.consistent takes
  have inside {state : RTCPCompoundPacketBuilder} (still : state.Consistent)
      (sameLimit : state.maximumpacketsize = self.maximumpacketsize)
      (small : state.size ≤ self.maximumpacketsize) : state.Bounded :=
    { consistent := still
      limit := sameLimit ▸ bounded.limit
      unstarted := fun _ => by omega
      size := by omega }
  cases takes with
  | init idle large =>
      have noSize := size_started (bounded.consistent.idle idle)
      refine ⟨⟨consistent, limited, fun _ => ?_, ?_⟩, fun _ _ => ?_⟩
      · rw [noSize]
        exact Nat.zero_le _
      · rw [noSize]
        exact Nat.zero_le _
      · rw [noSize]
        exact Nat.zero_le _
  | sender building isFirst room =>
      rename_i senderssrc info
      have headerLength : (bytes32 senderssrc.toNat ++ info.bytes).length = 24 := rfl
      obtain ⟨late, exact⟩ := size_startReport bounded isFirst true
        (bytes32 senderssrc.toNat ++ info.bytes) (by omega) (by omega)
        (by rw [headerLength]; exact room)
      refine ⟨⟨consistent, bounded.limit, fun impossible => ?_, late⟩, fun _ => exact⟩
      cases impossible
  | receiver building isFirst room =>
      rename_i senderssrc
      have headerLength : (bytes32 senderssrc.toNat).length = 4 := rfl
      obtain ⟨late, exact⟩ := size_startReport bounded isFirst false
        (bytes32 senderssrc.toNat) (by omega) (by omega)
        (by rw [headerLength]; exact room)
      refine ⟨⟨consistent, bounded.limit, fun impossible => ?_, late⟩, fun _ => exact⟩
      cases impossible
  | block building isStarted room =>
      rw [← size_withBlock] at room
      exact ⟨inside consistent rfl room, fun _ _ => room⟩
  | source building room =>
      rename_i ssrc
      have sizeEq := size_withSource self ssrc
      by_cases isFirst : self.sdessources = []
      · have noChunks : self.sdesBytes = 0 := by
          rw [sdesBytes, isFirst]
          rfl
        rw [if_pos isFirst] at sizeEq
        rw [isFirst] at room
        change _ + 0 ≤ _ at room
        have before : self.size = self.byesize + self.appsize + self.report.neededBytes := by
          rw [size, noChunks]
          omega
        refine ⟨⟨consistent, bounded.limit, fun _ => ?_, ?_⟩, fun enough _ => ?_⟩
        · change _ ≤ self.maximumpacketsize + 12
          omega
        · change _ ≤ self.maximumpacketsize + 40
          omega
        · have fits : ¬ self.maximumpacketsize < self.size + 12 := fun short =>
            enough ⟨building, isFirst, short⟩
          change _ ≤ self.maximumpacketsize
          omega
      · rw [if_neg isFirst] at sizeEq
        rw [← sizeEq] at room
        exact ⟨inside consistent rfl room, fun _ _ => room⟩
  | normalItem building current isNormal room =>
      rw [← size_withItem current] at room
      exact ⟨inside consistent rfl room, fun _ _ => room⟩
  | privateItem building current itemdataEq short room =>
      rw [← size_withItem current] at room
      exact ⟨inside consistent rfl room, fun _ _ => room⟩
  | bye building few room =>
      rw [← size_withBYE] at room
      exact ⟨inside consistent rfl room, fun _ _ => room⟩
  | app building small words short room =>
      rw [← size_withAPP] at room
      exact ⟨inside consistent rfl room, fun _ _ => room⟩

theorem bounded_after {self : RTCPCompoundPacketBuilder} (bounded : self.Bounded)
    {calls : List Call} (limited : ∀ call, call ∈ calls → call.Limited) :
    (self.after calls).Bounded ∧
      (self.NeverOverfills calls → self.size ≤ self.maximumpacketsize →
        (self.after calls).size ≤ (self.after calls).maximumpacketsize) := by
  induction calls generalizing self with
  | nil => exact ⟨bounded, fun _ small => small⟩
  | cons call rest ih =>
      have later := fun other member => limited other (List.mem_cons_of_mem call member)
      rcases self.perform_eq_ok_or call with same | takes
      · obtain ⟨final, small⟩ := ih bounded later
        change ((self.step call).after rest).Bounded ∧ (_ ∧ NeverOverfills (self.step call) rest →
          _ → ((self.step call).after rest).size ≤ ((self.step call).after rest).maximumpacketsize)
        rw [same]
        exact ⟨final, fun never => small never.2⟩
      · obtain ⟨next, inside⟩ :=
          bounded_of_takes bounded (limited call List.mem_cons_self) takes
        obtain ⟨final, small⟩ := ih next later
        exact ⟨final, fun never before => small never.2 (inside never.1 before)⟩

/-- The packet that `EndBuild` writes fills exactly the bytes that have been allocated for it.  It
passes the limit of `InitBuild` by forty bytes at most, and not at all unless the first source
was added with fewer than twelve bytes left. -/
theorem length_endBuild {calls : List Call} (limited : ∀ call, call ∈ calls → call.Limited)
    {finished : RTCPCompoundPacketBuilder} (success : (new.after calls).endBuild = .ok finished) :
    ∃ bytes, finished.compoundpacket = some bytes ∧
      bytes.length = (new.after calls).size ∧
      bytes.length ≤ finished.maximumpacketsize + 40 ∧
      (new.NeverOverfills calls → bytes.length ≤ finished.maximumpacketsize) := by
  have initially : new.Bounded :=
    { consistent := consistent_new
      limit := by decide
      unstarted := fun _ => Nat.zero_le _
      size := Nat.zero_le _ }
  obtain ⟨bounded, small⟩ := bounded_after initially limited
  obtain ⟨building, isStarted, rfl⟩ := endBuild_eq_ok_iff.mp success
  have lengthEq := length_packets bounded.consistent isStarted
  refine ⟨_, rfl, lengthEq, ?_, ?_⟩
  · rw [lengthEq]
    exact bounded.size
  · intro never
    rw [lengthEq]
    exact small never (Nat.le_refl 0)

/-- Five BYE packets fill six hundred bytes; the first source and the report come on top. -/
theorem length_endBuild_overfilled :
    let ssrcs := fun count => List.replicate count (5 : UInt32)
    let calls : List Call :=
      [.initBuild 600 true] ++
        ([31, 31, 31, 31, 21].map fun count => .addBYEPacket (ssrcs count) ⟨[], by decide⟩) ++
        [.addSDESSource 7, .startSenderReport 7 ⟨0, 0, 0, 0, 0⟩]
    ∃ finished bytes, (new.after calls).endBuild = .ok finished ∧
      finished.compoundpacket = some bytes ∧ bytes.length = 640 := by
  intro ssrcs calls
  have limited : ∀ call, call ∈ calls → call.Limited := by
    intro call member
    cases call with
    | initBuild maxpacketsize external =>
        have isFirst : maxpacketsize = 600 := by
          simp [calls] at member
          exact member.1
        rw [isFirst]
        exact (by decide : 600 < 2147483648)
    | _ => trivial
  have success : (new.after calls).endBuild = .ok _ :=
    endBuild_eq_ok_iff.mpr ⟨by decide +kernel, by decide +kernel, rfl⟩
  obtain ⟨bytes, bytesEq, lengthEq, _⟩ := length_endBuild limited success
  have sizeEq : (new.after calls).size = 640 := by decide +kernel
  exact ⟨_, bytes, success, bytesEq, lengthEq.trans sizeEq⟩

end RTCPCompoundPacketBuilder

end DShowCapture.Jrtplib
