/-
The table of the participants of a session: `RTPSources` of `jrtp/jrtplib/rtpsources.cpp`, with
the reaction of `RTPSessionSources` to collisions.

The elements of the hash table are a list in the order in which they were added, which is the
order in which the functions walk through them.  The pointer `owndata` to one of the elements
is the key of this element.  The callbacks that do nothing by default are left out, and so is
an allocation that fails.
-/
import DShowCapture.Jrtplib.RTCPPacket
import DShowCapture.Library.KeyedTable

namespace DShowCapture.Jrtplib

open ByteMemory KeyedTable

/-- The comparisons of two addresses. -/
class RTPAddress (Address : Type) where
  isSameAddress : Address → Address → Bool
  isFromSameHost : Address → Address → Bool
  isSameAddress_self : ∀ address, isSameAddress address address = true

structure RTPIPv4Address where
  ip : UInt32
  port : UInt16
  deriving DecidableEq, Repr

instance : RTPAddress RTPIPv4Address where
  isSameAddress first second := second.ip == first.ip && second.port == first.port
  isFromSameHost first second := second.ip == first.ip
  isSameAddress_self address := by
    rw [beq_self_eq_true, beq_self_eq_true]
    rfl

structure RTPRawPacket (Time Address : Type) where
  packetdata : Memory
  packetdatalength : Nat
  receivetime : Time
  senderaddress : Option Address
  isrtp : Bool

inductive SourcesError
  | alreadyHaveOwnSSRC
  | ssrcExists
  | dontHaveOwnSSRC
  | illegalSDESType
  | sdes (error : SDESError)
  deriving DecidableEq, Repr

structure RTPSources (Time Address : Type) where
  probationtype : ProbationType
  sourcelist : List (RTPInternalSourceData Time Address)
  owndata : Option Nat
  totalcount : Int
  sendercount : Int
  activecount : Int
  owncollision : Bool

namespace RTPSources

variable {Time Address : Type}

def new (probationtype : ProbationType) : RTPSources Time Address :=
  { probationtype := probationtype
    sourcelist := []
    owndata := none
    totalcount := 0
    sendercount := 0
    activecount := 0
    owncollision := false }

def clear (self : RTPSources Time Address) : RTPSources Time Address :=
  { self with
    sourcelist := []
    owndata := none
    totalcount := 0
    sendercount := 0
    activecount := 0 }

def getSourceInfo (self : RTPSources Time Address) (ssrc : Nat) :
    Option (RTPInternalSourceData Time Address) :=
  find RTPInternalSourceData.ssrc self.sourcelist ssrc

def gotEntry (self : RTPSources Time Address) (ssrc : Nat) : Bool :=
  (self.getSourceInfo ssrc).isSome

def store (self : RTPSources Time Address) (srcdat : RTPInternalSourceData Time Address) :
    RTPSources Time Address :=
  { self with sourcelist := put RTPInternalSourceData.ssrc self.sourcelist srcdat }

def countSender (self : RTPSources Time Address)
    (prev srcdat : RTPInternalSourceData Time Address) : RTPSources Time Address :=
  { self with
    sendercount :=
      if !prev.issender && srcdat.issender then self.sendercount + 1 else self.sendercount }

def countActive (self : RTPSources Time Address)
    (prev srcdat : RTPInternalSourceData Time Address) : RTPSources Time Address :=
  { self with
    activecount :=
      if !prev.isActive && srcdat.isActive then self.activecount + 1 else self.activecount }

def countInactive (self : RTPSources Time Address)
    (prev srcdat : RTPInternalSourceData Time Address) : RTPSources Time Address :=
  { self with
    activecount :=
      if prev.isActive && !srcdat.isActive then self.activecount - 1 else self.activecount }

def onSSRCCollision (self : RTPSources Time Address)
    (srcdat : RTPInternalSourceData Time Address) : RTPSources Time Address :=
  { self with owncollision := if srcdat.ownssrc then true else self.owncollision }

def clearOwnCollisionFlag (self : RTPSources Time Address) : RTPSources Time Address :=
  { self with owncollision := false }

section Lookup

variable [Zero Time]

structure Obtained (Time Address : Type) where
  sources : RTPSources Time Address
  srcdat : RTPInternalSourceData Time Address
  created : Bool

def obtainSourceDataInstance (self : RTPSources Time Address) (ssrc : Nat) :
    Obtained Time Address :=
  match self.getSourceInfo ssrc with
  | none =>
      let srcdat := RTPInternalSourceData.new ssrc self.probationtype 0
      { sources :=
          { self with
            sourcelist := self.sourcelist ++ [srcdat]
            totalcount := self.totalcount + 1 }
        srcdat := srcdat
        created := true }
  | some srcdat => { sources := self, srcdat := srcdat, created := false }

end Lookup

/-! ### Collisions -/

section Collisions

variable [RTPAddress Address]

/-- `IsSameAddress` with a pointer that may be null. -/
def isSameAddress (address : Address) (senderaddress : Option Address) : Bool :=
  senderaddress.any (RTPAddress.isSameAddress address)

def isFromSameHost (address : Address) (senderaddress : Option Address) : Bool :=
  senderaddress.any (RTPAddress.isFromSameHost address)

def setDataAddress (srcdat : RTPInternalSourceData Time Address)
    (senderaddress : Option Address) (isrtp : Bool) : RTPInternalSourceData Time Address :=
  if isrtp then srcdat.setRTPDataAddress senderaddress
  else srcdat.setRTCPDataAddress senderaddress

/-- The comparisons of `CheckCollision`, with the address for packets of this kind and the other
one: nothing stands for a collision, else the source is unchanged or it is `stored`. -/
def compareAddresses (isset : Bool) (addr : Option Address) (otherisset : Bool)
    (otheraddr senderaddress : Option Address)
    (srcdat stored : RTPInternalSourceData Time Address) :
    Option (RTPInternalSourceData Time Address) :=
  if !isset then
    if otherisset then
      match otheraddr with
      | none => if senderaddress.isSome then none else some stored
      | some otheraddr => if !isFromSameHost otheraddr senderaddress then none else some stored
    else some stored
  else
    match addr with
    | none => if senderaddress.isSome then none else some srcdat
    | some addr => if !isSameAddress addr senderaddress then none else some srcdat

/-- `CheckCollision`, where the source may have got an address. -/
def checkCollision (srcdat : RTPInternalSourceData Time Address)
    (senderaddress : Option Address) (isrtp : Bool) :
    Option (RTPInternalSourceData Time Address) :=
  let stored := setDataAddress srcdat senderaddress isrtp
  if isrtp then
    compareAddresses srcdat.isrtpaddrset srcdat.rtpaddr srcdat.isrtcpaddrset srcdat.rtcpaddr
      senderaddress srcdat stored
  else
    compareAddresses srcdat.isrtcpaddrset srcdat.rtcpaddr srcdat.isrtpaddrset srcdat.rtpaddr
      senderaddress srcdat stored

variable [Zero Time]

/-- The source that a packet speaks for, unless the packet collides with it; the beginning of
`ProcessRTPPacket` and `GetRTCPSourceData`. -/
def identify (self : RTPSources Time Address) (ssrc : Nat) (senderaddress : Option Address)
    (isrtp : Bool) : RTPSources Time Address × Option (RTPInternalSourceData Time Address) :=
  let obtained := self.obtainSourceDataInstance ssrc
  if obtained.created then
    let srcdat := setDataAddress obtained.srcdat senderaddress isrtp
    (obtained.sources.store srcdat, some srcdat)
  else
    match checkCollision obtained.srcdat senderaddress isrtp with
    | none => (obtained.sources.onSSRCCollision obtained.srcdat, none)
    | some srcdat => (obtained.sources.store srcdat, some srcdat)

/-! ### RTP packets -/

/-- The loop over the contributing sources, for one of them. -/
def processCSRC (senderaddress : Option Address) (self : RTPSources Time Address) (csrc : Nat) :
    RTPSources Time Address :=
  let obtained := self.obtainSourceDataInstance csrc
  if obtained.created then
    let csrcdat := obtained.srcdat.setCSRC
    (obtained.sources.store csrcdat).countActive obtained.srcdat csrcdat
  else
    -- here the number of active members is not touched
    match checkCollision obtained.srcdat senderaddress true with
    | none => obtained.sources.onSSRCCollision obtained.srcdat
    | some csrcdat => obtained.sources.store csrcdat.setCSRC

def csrcs (rtppack : StoredPacket) : List Nat :=
  (List.range (min rtppack.members.numcsrcs RTPPacket.rtpMaxCSRCs)).map fun i =>
    rtppack.members.getCSRC rtppack.packet i

/-- What `ProcessRTPPacket` does once the source is known, before the contributing sources. -/
def processSourcePacket (self : RTPSources Time Address)
    (srcdat : RTPInternalSourceData Time Address) (rtppack : StoredPacket) (receivetime : Time) :
    RTPSources Time Address :=
  let processed := (srcdat.processRTPPacket rtppack receivetime).1
  ((self.store processed).countSender srcdat processed).countActive srcdat processed

def processRTPPacket (self : RTPSources Time Address) (rtppack : StoredPacket)
    (receivetime : Time) (senderaddress : Option Address) : RTPSources Time Address :=
  match self.identify rtppack.members.ssrc senderaddress true with
  | (sources, none) => sources
  | (sources, some srcdat) =>
      let processed := sources.processSourcePacket srcdat rtppack receivetime
      if (srcdat.processRTPPacket rtppack receivetime).1.validated then
        (csrcs rtppack).foldl (processCSRC senderaddress) processed
      else processed

/-! ### RTCP packets -/

def getRTCPSourceData (self : RTPSources Time Address) (ssrc : Nat)
    (senderaddress : Option Address) :
    RTPSources Time Address × Option (RTPInternalSourceData Time Address) :=
  self.identify ssrc senderaddress false

def updateReceiveTime (self : RTPSources Time Address) (ssrc : Nat) (receivetime : Time)
    (senderaddress : Option Address) : RTPSources Time Address :=
  match self.getRTCPSourceData ssrc senderaddress with
  | (sources, none) => sources
  | (sources, some srcdat) => sources.store (srcdat.setLastMessageTime receivetime)

/-- `ProcessRTCPSenderInfo`; the contents of the report are not kept. -/
def processRTCPSenderInfo (self : RTPSources Time Address) (ssrc : Nat) (receivetime : Time)
    (senderaddress : Option Address) : RTPSources Time Address :=
  self.updateReceiveTime ssrc receivetime senderaddress

/-- `ProcessRTCPReportBlock`; the contents of the report are not kept. -/
def processRTCPReportBlock (self : RTPSources Time Address) (ssrc : Nat) (receivetime : Time)
    (senderaddress : Option Address) : RTPSources Time Address :=
  self.updateReceiveTime ssrc receivetime senderaddress

/-- The report blocks of a packet; those about others do not count. -/
def processReports (ownssrc : Option Nat) (receivetime : Time) (senderaddress : Option Address)
    (self : RTPSources Time Address) (senderssrc : Nat) (reports : List RTCPReceiverReport) :
    RTPSources Time Address :=
  let meantForUs := reports.filter fun report => ownssrc = some report.ssrc
  if meantForUs.isEmpty then self.updateReceiveTime senderssrc receivetime senderaddress
  else
    meantForUs.foldl
      (fun sources _ => sources.processRTCPReportBlock senderssrc receivetime senderaddress) self

def processSDESNormalItem (self : RTPSources Time Address) (ssrc : Nat) (item : SDESItem)
    (itemdata : List UInt8) (receivetime : Time) (senderaddress : Option Address) :
    RTPSources Time Address × Except SourcesError Unit :=
  match self.getRTCPSourceData ssrc senderaddress with
  | (sources, none) => (sources, .ok ())
  | (sources, some srcdat) =>
      let processed := srcdat.processSDESItem item itemdata receivetime
      ((sources.store processed.source).countActive srcdat processed.source,
        processed.status.mapError .sdes)

def processSDESPrivateItem (self : RTPSources Time Address) (ssrc : Nat)
    (prefixdata valuedata : List UInt8) (receivetime : Time) (senderaddress : Option Address) :
    RTPSources Time Address × Except SourcesError Unit :=
  match self.getRTCPSourceData ssrc senderaddress with
  | (sources, none) => (sources, .ok ())
  | (sources, some srcdat) =>
      let processed := srcdat.processPrivateSDESItem prefixdata valuedata receivetime
      (sources.store processed.1, processed.2.mapError .sdes)

/-- An item that is neither private nor one of those that are kept is an error. -/
def processSDESItem (ssrc : Nat) (receivetime : Time) (senderaddress : Option Address)
    (self : RTPSources Time Address) (item : RTCPSDESItem) :
    RTPSources Time Address × Except SourcesError Unit :=
  match item.itemType with
  | .normal kind => self.processSDESNormalItem ssrc kind item.itemdata receivetime senderaddress
  | .priv =>
      self.processSDESPrivateItem ssrc item.privPrefixData item.privValueData receivetime
        senderaddress
  | .none | .unknown => (self, .error .illegalSDESType)

/-- A loop that returns with the first error. -/
def processAll {Part : Type}
    (process : RTPSources Time Address → Part → RTPSources Time Address × Except SourcesError Unit)
    (self : RTPSources Time Address) :
    List Part → RTPSources Time Address × Except SourcesError Unit
  | [] => (self, .ok ())
  | part :: rest =>
      match process self part with
      | (sources, .error error) => (sources, .error error)
      | (sources, .ok ()) => processAll process sources rest

def processSDESChunk (receivetime : Time) (senderaddress : Option Address)
    (self : RTPSources Time Address) (chunk : RTCPSDESChunk) :
    RTPSources Time Address × Except SourcesError Unit :=
  if chunk.items.isEmpty then
    (self.updateReceiveTime chunk.ssrc receivetime senderaddress, .ok ())
  else processAll (processSDESItem chunk.ssrc receivetime senderaddress) self chunk.items

def processBYE (reason : List UInt8) (receivetime : Time) (senderaddress : Option Address)
    (self : RTPSources Time Address) (ssrc : Nat) : RTPSources Time Address :=
  match self.getRTCPSourceData ssrc senderaddress with
  | (sources, none) => sources
  | (sources, some srcdat) =>
      if sources.owndata = some srcdat.ssrc then sources
      else
        let processed := srcdat.processBYEPacket reason receivetime
        (sources.store processed).countInactive srcdat processed

def processRTCPPacket (ownssrc : Option Nat) (receivetime : Time)
    (senderaddress : Option Address) (self : RTPSources Time Address) :
    RTCPContents → RTPSources Time Address × Except SourcesError Unit
  | .sr senderssrc _ reports =>
      let sources := self.processRTCPSenderInfo senderssrc receivetime senderaddress
      (processReports ownssrc receivetime senderaddress sources senderssrc reports, .ok ())
  | .rr senderssrc reports =>
      (processReports ownssrc receivetime senderaddress self senderssrc reports, .ok ())
  | .sdes chunks => processAll (processSDESChunk receivetime senderaddress) self chunks
  | .bye ssrcs reason =>
      (ssrcs.foldl (processBYE reason receivetime senderaddress) self, .ok ())
  | .app _ _ _ _ | .unknownType | .unknownFormat => (self, .ok ())

def processRTCPCompoundPacket (self : RTPSources Time Address) (packets : List RTCPContents)
    (receivetime : Time) (senderaddress : Option Address) :
    RTPSources Time Address × Except SourcesError Unit :=
  processAll (processRTCPPacket self.owndata receivetime senderaddress) self packets

/-- `ProcessRawPacket`; `comesFromThisTransmitter` tells our own packets by their sender. -/
def processRawPacket (self : RTPSources Time Address) (rawpack : RTPRawPacket Time Address)
    (comesFromThisTransmitter : Option Address → Bool) (acceptownpackets : Bool) :
    RTPSources Time Address × Except SourcesError Unit :=
  let ownpacket := comesFromThisTransmitter rawpack.senderaddress
  -- the address of the sender of an own packet has to be null
  let senderaddress := if ownpacket then none else rawpack.senderaddress
  if rawpack.isrtp then
    match RTPPacket.parseRawPacket rawpack.packetdata rawpack.packetdatalength with
    | none => (self, .ok ())
    | some members =>
        if ownpacket ∧ !acceptownpackets then (self, .ok ())
        else
          (self.processRTPPacket { members := members, packet := rawpack.packetdata }
            rawpack.receivetime senderaddress, .ok ())
  else
    match compoundContents (read rawpack.packetdata 0 rawpack.packetdatalength) with
    | .error _ => (self, .ok ())
    | .ok packets =>
        if ownpacket ∧ !acceptownpackets then (self, .ok ())
        else self.processRTCPCompoundPacket packets rawpack.receivetime senderaddress

/-! ### Our own source -/

def createOwnSSRC (self : RTPSources Time Address) (ssrc : Nat) :
    RTPSources Time Address × Except SourcesError Unit :=
  if self.owndata.isSome then (self, .error .alreadyHaveOwnSSRC)
  else if self.gotEntry ssrc then (self, .error .ssrcExists)
  else
    let obtained := self.obtainSourceDataInstance ssrc
    let owndata := (obtained.srcdat.setOwnSSRC.setRTPDataAddress none).setRTCPDataAddress none
    let sources := obtained.sources.store owndata
    ({ sources with owndata := some ssrc, activecount := sources.activecount + 1 }, .ok ())

end Collisions

def ownSource (self : RTPSources Time Address) : Option (RTPInternalSourceData Time Address) :=
  self.owndata.bind self.getSourceInfo

def deleteOwnSSRC (self : RTPSources Time Address) :
    RTPSources Time Address × Except SourcesError Unit :=
  match self.ownSource with
  | none => (self, .error .dontHaveOwnSSRC)
  | some owndata =>
      ({ self with
          sourcelist := remove RTPInternalSourceData.ssrc self.sourcelist owndata.ssrc
          owndata := none
          totalcount := self.totalcount - 1
          sendercount := if owndata.issender then self.sendercount - 1 else self.sendercount
          activecount := if owndata.isActive then self.activecount - 1 else self.activecount },
        .ok ())

def sentRTPPacket (self : RTPSources Time Address) (now : Time) : RTPSources Time Address :=
  match self.ownSource with
  | none => self
  | some owndata =>
      (self.store (owndata.sentRTPPacket now)).countSender owndata (owndata.sentRTPPacket now)

/-! ### The packets that wait -/

/-- `GetNextPacket` at a source. -/
def getNextPacket (self : RTPSources Time Address) (ssrc : Nat) :
    Option StoredPacket × RTPSources Time Address :=
  match self.getSourceInfo ssrc with
  | none => (none, self)
  | some srcdat => (srcdat.getNextPacket.1, self.store srcdat.getNextPacket.2)

/-! ### Timeouts -/

structure Kept (Time Address : Type) where
  srcdat : RTPInternalSourceData Time Address
  issender : Bool
  isactive : Bool

structure Recount (Time Address : Type) where
  sourcelist : List (RTPInternalSourceData Time Address)
  newtotalcount : Int
  newsendercount : Int
  newactivecount : Int

def Recount.add (self : Recount Time Address) : Option (Kept Time Address) → Recount Time Address
  | none => self
  | some kept =>
      { sourcelist := self.sourcelist ++ [kept.srcdat]
        newtotalcount := self.newtotalcount + 1
        newsendercount := if kept.issender then self.newsendercount + 1 else self.newsendercount
        newactivecount := if kept.isactive then self.newactivecount + 1 else self.newactivecount }

/-- A loop that examines each source, deletes some of them and counts the others.  What it
subtracts from the counts meanwhile is overwritten in the end. -/
def recount (self : RTPSources Time Address)
    (examine : RTPInternalSourceData Time Address → Option (Kept Time Address)) :
    RTPSources Time Address :=
  let start : Recount Time Address :=
    { sourcelist := [], newtotalcount := 0, newsendercount := 0, newactivecount := 0 }
  let final := self.sourcelist.foldl (fun counted srcdat => counted.add (examine srcdat)) start
  { self with
    sourcelist := final.sourcelist
    totalcount := final.newtotalcount
    sendercount := final.newsendercount
    activecount := final.newactivecount }

def keep (srcdat : RTPInternalSourceData Time Address) : Option (Kept Time Address) :=
  some { srcdat := srcdat, issender := srcdat.issender, isactive := srcdat.isActive }

def isOwn (self : RTPSources Time Address) (srcdat : RTPInternalSourceData Time Address) : Bool :=
  self.owndata = some srcdat.ssrc

variable [LT Time] [DecidableLT Time]

def expireNote (checktime : Time) (srcdat : RTPInternalSourceData Time Address) :
    RTPInternalSourceData Time Address :=
  if (srcdat.sdesinf.nonprivateitems .note).length ≠ 0 then
    if srcdat.stats.lastnotetime < checktime then srcdat.clearNote else srcdat
  else srcdat

def examineMessage (self : RTPSources Time Address) (checktime : Time)
    (srcdat : RTPInternalSourceData Time Address) : Option (Kept Time Address) :=
  if !self.isOwn srcdat ∧ srcdat.stats.lastmsgtime < checktime then none else keep srcdat

def examineSender (checktime : Time) (srcdat : RTPInternalSourceData Time Address) :
    Option (Kept Time Address) :=
  if srcdat.issender then
    if srcdat.stats.lastrtptime < checktime then
      some { srcdat := srcdat.clearSenderFlag, issender := false, isactive := srcdat.isActive }
    else some { srcdat := srcdat, issender := true, isactive := srcdat.isActive }
  else some { srcdat := srcdat, issender := false, isactive := srcdat.isActive }

def examineBYE (self : RTPSources Time Address) (checktime : Time)
    (srcdat : RTPInternalSourceData Time Address) : Option (Kept Time Address) :=
  if srcdat.receivedbye then
    if !self.isOwn srcdat ∧ srcdat.byetime < checktime then none else keep srcdat
  else keep srcdat

/-- The body of the loop of `MultipleTimeouts`. -/
def examineAll (self : RTPSources Time Address)
    (senderchecktime byechecktime generaltchecktime notechecktime : Time)
    (srcdat : RTPInternalSourceData Time Address) : Option (Kept Time Address) :=
  let issender := srcdat.issender
  let isactive := srcdat.isActive
  let noted := expireNote notechecktime srcdat
  if noted.receivedbye ∧ !self.isOwn noted ∧ noted.byetime < byechecktime then none
  else if !self.isOwn noted ∧ noted.stats.lastmsgtime < generaltchecktime then none
  else if issender then
    if noted.stats.lastrtptime < senderchecktime then
      some { srcdat := noted.clearSenderFlag, issender := false, isactive := isactive }
    else some { srcdat := noted, issender := true, isactive := isactive }
  else some { srcdat := noted, issender := false, isactive := isactive }

variable [Sub Time]

def timeout (self : RTPSources Time Address) (curtime timeoutdelay : Time) :
    RTPSources Time Address :=
  self.recount (self.examineMessage (curtime - timeoutdelay))

def senderTimeout (self : RTPSources Time Address) (curtime timeoutdelay : Time) :
    RTPSources Time Address :=
  self.recount (examineSender (curtime - timeoutdelay))

def byeTimeout (self : RTPSources Time Address) (curtime timeoutdelay : Time) :
    RTPSources Time Address :=
  self.recount (self.examineBYE (curtime - timeoutdelay))

def noteTimeout (self : RTPSources Time Address) (curtime timeoutdelay : Time) :
    RTPSources Time Address :=
  self.recount fun srcdat => keep (expireNote (curtime - timeoutdelay) srcdat)

def multipleTimeouts (self : RTPSources Time Address)
    (curtime sendertimeout byetimeout generaltimeout notetimeout : Time) :
    RTPSources Time Address :=
  self.recount
    (self.examineAll (curtime - sendertimeout) (curtime - byetimeout) (curtime - generaltimeout)
      (curtime - notetimeout))

end RTPSources

end DShowCapture.Jrtplib
