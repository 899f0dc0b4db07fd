/-
The packets of an RTCP compound packet: `RTCPCompoundPacket::ParseData` of
`jrtp/jrtplib/rtcpcompoundpacket.cpp`, the constructors in `rtcpsrpacket.cpp`,
`rtcprrpacket.cpp`, `rtcpsdespacket.cpp`, `rtcpbyepacket.cpp` and `rtcpapppacket.cpp`, and the
accessors in their headers.

A pointer with a number of bytes behind it is the list of these bytes.  The constructors compare
each length with what is left before they follow it.  The accessors follow the lengths again
without a comparison; that they might read behind the packet is an outcome of its own here, and
it does not occur for a packet whose format was found to be known.
-/
import DShowCapture.RTPPacket
import DShowCapture.Jrtplib.SourceData

namespace DShowCapture.Jrtplib

open FixedWidth

inductive RTCPError
  | invalidPacket
  /-- No status of the library: a byte behind the end of the packet has been read. -/
  | outside
  deriving DecidableEq, Repr

structure RTCPCommonHeader where
  count : Nat
  padding : Bool
  version : Nat
  packettype : Nat
  length : Nat
  deriving DecidableEq, Repr

def RTCPCommonHeader.ofBytes : List UInt8 → Except RTCPError RTCPCommonHeader
  | first :: second :: high :: low :: _ =>
      .ok
        { count := (first &&& 0x1f).toNat
          padding := first &&& 0x20 != 0
          version := (first >>> 6).toNat
          packettype := second.toNat
          length := bigEndian16 high low }
  | _ => .error .outside

def number32 : List UInt8 → Except RTCPError Nat
  | first :: second :: third :: fourth :: _ =>
      .ok (bigEndian16 first second * 65536 + bigEndian16 third fourth)
  | _ => .error .outside

inductive RTCPPacketType
  | sr
  | rr
  | sdes
  | bye
  | app
  | unknown
  deriving DecidableEq, Repr

def rtcpTypeSDES : Nat := 202
def rtcpTypeBYE : Nat := 203
def rtcpTypeAPP : Nat := 204

def RTCPPacketType.ofNumber (packettype : Nat) : RTCPPacketType :=
  if packettype = RTPPacket.rtcpTypeSR then .sr
  else if packettype = RTPPacket.rtcpTypeRR then .rr
  else if packettype = rtcpTypeSDES then .sdes
  else if packettype = rtcpTypeBYE then .bye
  else if packettype = rtcpTypeAPP then .app
  else .unknown

/-! ### The constructors -/

/-- The length without the padding; the padding has to be a multiple of four and shorter than
the packet. -/
def unpaddedLength (hdr : RTCPCommonHeader) (data : List UInt8) : Option Nat :=
  if hdr.padding then
    let padcount := (data.getLastD 0).toNat
    if padcount % 4 ≠ 0 then none
    else if data.length ≤ padcount then none
    else some (data.length - padcount)
  else some data.length

/-- The loop over the items of a chunk, from the bytes behind `chunkoffset` on; the result are
the bytes behind the chunk. -/
def checkItems (chunkoffset : Nat) : List UInt8 → Option (List UInt8)
  | [] => none
  | sdesid :: rest =>
      if sdesid = 0 then
        let r := (chunkoffset + 1) % 4
        if r ≠ 0 then
          if rest.length < 4 - r then none else some (rest.drop (4 - r))
        else some rest
      else
        match rest with
        | [] => none
        | length :: rest =>
            if rest.length < length.toNat then none
            else checkItems (chunkoffset + 2 + length.toNat) (rest.drop length.toNat)
termination_by bytes => bytes.length
decreasing_by
  simp only [List.length_drop, List.length_cons]
  omega

/-- The loop over the chunks, with the two checks behind it. -/
def checkChunks : Nat → List UInt8 → Bool
  | 0, rest => rest.isEmpty
  | ssrccount + 1, rest =>
      if rest.isEmpty then false
      else if rest.length < 8 then false
      else
        match checkItems 4 (rest.drop 4) with
        | none => false
        | some behind => checkChunks ssrccount behind

def sdesKnownFormat (hdr : RTCPCommonHeader) (data : List UInt8) (len : Nat) : Bool :=
  if hdr.count = 0 then len = 4
  else if len < 4 then false
  else checkChunks hdr.count ((data.take len).drop 4)

def byeKnownFormat (hdr : RTCPCommonHeader) (data : List UInt8) (len : Nat) : Bool :=
  let ssrclen := hdr.count * 4 + 4
  if len < ssrclen then false
  else if ssrclen < len then (data.getD ssrclen 0).toNat ≤ len - ssrclen - 1
  else true

def knownFormat (packettype : RTCPPacketType) (hdr : RTCPCommonHeader) (data : List UInt8) :
    Bool :=
  match packettype with
  | .unknown => true
  | packettype =>
      match unpaddedLength hdr data with
      | none => false
      | some len =>
          match packettype with
          | .sr => 4 + 4 + 20 + 24 * hdr.count = len
          | .rr => 4 + 4 + 24 * hdr.count = len
          | .sdes => sdesKnownFormat hdr data len
          | .bye => byeKnownFormat hdr data len
          | .app => 12 ≤ len
          | .unknown => true

structure RTCPPacket where
  packettype : RTCPPacketType
  hdr : RTCPCommonHeader
  data : List UInt8
  knownformat : Bool

def RTCPPacket.new (hdr : RTCPCommonHeader) (data : List UInt8) : RTCPPacket :=
  let packettype := RTCPPacketType.ofNumber hdr.packettype
  { packettype := packettype
    hdr := hdr
    data := data
    knownformat := knownFormat packettype hdr data }

/-- The checks of `ParseData` on the header of a packet. -/
def checkHeader (first : Bool) (data : List UInt8) : Except RTCPError RTCPCommonHeader :=
  match RTCPCommonHeader.ofBytes data with
  | .error error => .error error
  | .ok hdr =>
      if hdr.version ≠ RTPPacket.rtpVersion then .error .invalidPacket
      else if first ∧ ¬ (hdr.packettype = RTPPacket.rtcpTypeSR ∨
          hdr.packettype = RTPPacket.rtcpTypeRR) then .error .invalidPacket
      else if data.length < (hdr.length + 1) * 4 then .error .invalidPacket
      else if hdr.padding ∧ (hdr.length + 1) * 4 ≠ data.length then .error .invalidPacket
      else .ok hdr

/-- The loop of `ParseData`. -/
def parseLoop (first : Bool) (data : List UInt8) : Except RTCPError (List RTCPPacket) :=
  match checkHeader first data with
  | .error error => .error error
  | .ok hdr =>
      let length := (hdr.length + 1) * 4
      if 4 ≤ (data.drop length).length then
        match parseLoop false (data.drop length) with
        | .error error => .error error
        | .ok packets => .ok (RTCPPacket.new hdr (data.take length) :: packets)
      else if (data.drop length).length ≠ 0 then .error .invalidPacket
      else .ok [RTCPPacket.new hdr (data.take length)]
termination_by data.length
decreasing_by
  rename_i more
  simp only [List.length_drop] at more ⊢
  omega

def parseData (data : List UInt8) : Except RTCPError (List RTCPPacket) :=
  if data.length < 4 then .error .invalidPacket else parseLoop true data

/-! ### The accessors -/

structure RTCPSenderReport where
  ntptimeMsw : Nat
  ntptimeLsw : Nat
  rtptimestamp : Nat
  packetcount : Nat
  octetcount : Nat
  deriving DecidableEq, Repr

structure RTCPReceiverReport where
  ssrc : Nat
  fractionlost : UInt8
  packetslost : Int
  exthighseqnr : Nat
  jitter : Nat
  lsr : Nat
  dlsr : Nat
  deriving DecidableEq, Repr

structure RTCPSDESItem where
  sdesid : UInt8
  itemdata : List UInt8
  deriving DecidableEq, Repr

inductive ItemType
  | none
  | normal (item : SDESItem)
  | priv
  | unknown
  deriving DecidableEq, Repr

namespace RTCPSDESItem

def itemType (self : RTCPSDESItem) : ItemType :=
  match self.sdesid.toNat with
  | 0 => .none
  | 1 => .normal .cname
  | 2 => .normal .name
  | 3 => .normal .email
  | 4 => .normal .phone
  | 5 => .normal .location
  | 6 => .normal .tool
  | 7 => .normal .note
  | 8 => .priv
  | _ => .unknown

/-- `GetPRIVPrefixLength`; a prefix that does not fit is none. -/
def privPrefixLength (self : RTCPSDESItem) : Nat :=
  match self.itemdata with
  | [] => 0
  | preflen :: value => if value.length < preflen.toNat then 0 else preflen.toNat

def privPrefixData (self : RTCPSDESItem) : List UInt8 :=
  (self.itemdata.drop 1).take self.privPrefixLength

/-- `GetPRIVValueLength` and `GetPRIVValueData`. -/
def privValueData (self : RTCPSDESItem) : List UInt8 :=
  match self.itemdata with
  | [] => []
  | preflen :: value =>
      if value.length < preflen.toNat then [] else value.drop self.privPrefixLength

end RTCPSDESItem

structure RTCPSDESChunk where
  ssrc : Nat
  items : List RTCPSDESItem
  deriving DecidableEq, Repr

inductive RTCPContents
  | sr (senderssrc : Nat) (info : RTCPSenderReport) (reports : List RTCPReceiverReport)
  | rr (senderssrc : Nat) (reports : List RTCPReceiverReport)
  | sdes (chunks : List RTCPSDESChunk)
  | bye (ssrcs : List Nat) (reason : List UInt8)
  | app (subtype : Nat) (ssrc : Nat) (name appdata : List UInt8)
  | unknownType
  | unknownFormat
  deriving DecidableEq, Repr

/-- The value of `packetslost`, a number of 24 bits with a sign. -/
def lostPacketCount (first second third : UInt8) : Int :=
  let count := first.toNat * 65536 + second.toNat * 256 + third.toNat
  if count < 8388608 then count else (count : Int) - 16777216

/-- The accessors of a report block at `GotoReport(index)`. -/
def reportAt (data : List UInt8) : Except RTCPError RTCPReceiverReport := do
  let ssrc ← number32 data
  match data.drop 4 with
  | fractionlost :: first :: second :: third :: rest => do
      let exthighseqnr ← number32 rest
      let jitter ← number32 (rest.drop 4)
      let lsr ← number32 (rest.drop 8)
      let dlsr ← number32 (rest.drop 12)
      return {
        ssrc := ssrc
        fractionlost := fractionlost
        packetslost := lostPacketCount first second third
        exthighseqnr := exthighseqnr
        jitter := jitter
        lsr := lsr
        dlsr := dlsr }
  | _ => .error .outside

def reportsAt : Nat → List UInt8 → Except RTCPError (List RTCPReceiverReport)
  | 0, _ => .ok []
  | count + 1, data => do
      let report ← reportAt data
      let rest ← reportsAt count (data.drop 24)
      return report :: rest

def senderReportAt (data : List UInt8) : Except RTCPError RTCPSenderReport := do
  let ntptimeMsw ← number32 data
  let ntptimeLsw ← number32 (data.drop 4)
  let rtptimestamp ← number32 (data.drop 8)
  let packetcount ← number32 (data.drop 12)
  let octetcount ← number32 (data.drop 16)
  return {
    ntptimeMsw := ntptimeMsw
    ntptimeLsw := ntptimeLsw
    rtptimestamp := rtptimestamp
    packetcount := packetcount
    octetcount := octetcount }

/-- `GotoFirstItem` and `GotoNextItem`: the items from here to the end of the chunk. -/
def itemsAt : List UInt8 → Except RTCPError (List RTCPSDESItem)
  | [] => .error .outside
  | sdesid :: rest =>
      if sdesid = 0 then .ok []
      else
        match rest with
        | [] => .error .outside
        | length :: rest =>
            if rest.length < length.toNat then .error .outside
            else
              match itemsAt (rest.drop length.toNat) with
              | .error error => .error error
              | .ok items =>
                  .ok ({ sdesid := sdesid, itemdata := rest.take length.toNat } :: items)
termination_by bytes => bytes.length
decreasing_by
  simp only [List.length_drop, List.length_cons]
  omega

/-- The loop of `GotoNextChunk`; the result are the bytes at the next chunk. -/
def nextChunk (offset : Nat) : List UInt8 → Except RTCPError (List UInt8)
  | [] => .error .outside
  | sdesid :: rest =>
      if sdesid = 0 then
        if (offset + 1) % 4 ≠ 0 then .ok (rest.drop (4 - (offset + 1) % 4)) else .ok rest
      else
        match rest with
        | [] => .error .outside
        | length :: rest => nextChunk (offset + 2 + length.toNat) (rest.drop length.toNat)
termination_by bytes => bytes.length
decreasing_by
  simp only [List.length_drop, List.length_cons]
  omega

/-- The iteration over the chunks; there is a next one as long as the count says so. -/
def chunksAt : Nat → List UInt8 → Except RTCPError (List RTCPSDESChunk)
  | 0, _ => .ok []
  | 1, data => do
      let ssrc ← number32 data
      let items ← itemsAt (data.drop 4)
      return [{ ssrc := ssrc, items := items }]
  | count + 2, data => do
      let ssrc ← number32 data
      let items ← itemsAt (data.drop 4)
      let next ← nextChunk 4 (data.drop 4)
      let rest ← chunksAt (count + 1) next
      return { ssrc := ssrc, items := items } :: rest

def sourcesAt : Nat → List UInt8 → Except RTCPError (List Nat)
  | 0, _ => .ok []
  | count + 1, data => do
      let ssrc ← number32 data
      let rest ← sourcesAt count (data.drop 4)
      return ssrc :: rest

/-- `GetReasonLength` and `GetReasonData`; there is no reason when the length ends behind the
sources. -/
def reasonAt (ssrclen len : Nat) (data : List UInt8) : Except RTCPError (List UInt8) :=
  if ssrclen < len then
    match data.drop ssrclen with
    | [] => .error .outside
    | reasonlength :: rest =>
        if rest.length < reasonlength.toNat then .error .outside
        else .ok (rest.take reasonlength.toNat)
  else .ok []

def RTCPPacket.contents (self : RTCPPacket) : Except RTCPError RTCPContents :=
  if !self.knownformat then .ok .unknownFormat
  else
    let body := self.data.drop 4
    let len := (unpaddedLength self.hdr self.data).getD 0
    match self.packettype with
    | .sr => do
        let senderssrc ← number32 body
        let info ← senderReportAt (body.drop 4)
        let reports ← reportsAt self.hdr.count (body.drop 24)
        return .sr senderssrc info reports
    | .rr => do
        let senderssrc ← number32 body
        let reports ← reportsAt self.hdr.count (body.drop 4)
        return .rr senderssrc reports
    | .sdes => do
        let chunks ← chunksAt self.hdr.count body
        return .sdes chunks
    | .bye => do
        let ssrcs ← sourcesAt self.hdr.count body
        let reason ← reasonAt (self.hdr.count * 4 + 4) len self.data
        return .bye ssrcs reason
    | .app => do
        let ssrc ← number32 body
        if body.length < 8 + (len - 12) then .error .outside
        else
          return .app self.hdr.count ssrc ((body.drop 4).take 4) ((body.drop 8).take (len - 12))
    | .unknown => .ok .unknownType

def contentsOf : List RTCPPacket → Except RTCPError (List RTCPContents)
  | [] => .ok []
  | packet :: rest => do
      let contents ← packet.contents
      let others ← contentsOf rest
      return contents :: others

def compoundContents (data : List UInt8) : Except RTCPError (List RTCPContents) := do
  let packets ← parseData data
  contentsOf packets

/-! ### The accessors stay inside the packet -/

theorem four_of_long (data : List UInt8) (long : 4 ≤ data.length) :
    ∃ first second third fourth rest, data = first :: second :: third :: fourth :: rest := by
  rcases data with _ | ⟨first, _ | ⟨second, _ | ⟨third, _ | ⟨fourth, rest⟩⟩⟩⟩
  · simp only [List.length_nil] at long
    omega
  · simp only [List.length_cons, List.length_nil] at long
    omega
  · simp only [List.length_cons, List.length_nil] at long
    omega
  · simp only [List.length_cons, List.length_nil] at long
    omega
  · exact ⟨first, second, third, fourth, rest, rfl⟩

theorem number32_of_long (data : List UInt8) (long : 4 ≤ data.length) :
    ∃ number, number32 data = .ok number := by
  obtain ⟨first, second, third, fourth, rest, rfl⟩ := four_of_long data long
  exact ⟨_, rfl⟩

theorem number32_drop (data : List UInt8) (offset : Nat) (long : offset + 4 ≤ data.length) :
    ∃ number, number32 (data.drop offset) = .ok number := by
  apply number32_of_long
  rw [List.length_drop]
  omega

theorem reportAt_of_long (data : List UInt8) (long : 24 ≤ data.length) :
    ∃ report, reportAt data = .ok report := by
  obtain ⟨ssrc, ssrcEq⟩ := number32_of_long data (by omega)
  have behind : 20 ≤ (data.drop 4).length := by
    rw [List.length_drop]
    omega
  obtain ⟨fractionlost, first, second, third, rest, restEq⟩ :=
    four_of_long (data.drop 4) (by omega)
  rw [restEq] at behind
  simp only [List.length_cons] at behind
  obtain ⟨exthighseqnr, exthighseqnrEq⟩ := number32_of_long rest (by omega)
  obtain ⟨jitter, jitterEq⟩ := number32_drop rest 4 (by omega)
  obtain ⟨lsr, lsrEq⟩ := number32_drop rest 8 (by omega)
  obtain ⟨dlsr, dlsrEq⟩ := number32_drop rest 12 (by omega)
  refine ⟨⟨ssrc, fractionlost, lostPacketCount first second third, exthighseqnr, jitter, lsr,
    dlsr⟩, ?_⟩
  simp only [reportAt, restEq, bind, Except.bind, ssrcEq, exthighseqnrEq, jitterEq, lsrEq, dlsrEq]
  rfl

theorem reportsAt_of_long (count : Nat) (data : List UInt8) (long : 24 * count ≤ data.length) :
    ∃ reports, reportsAt count data = .ok reports := by
  induction count generalizing data with
  | zero => exact ⟨[], rfl⟩
  | succ count ih =>
      obtain ⟨report, reportEq⟩ := reportAt_of_long data (by omega)
      obtain ⟨rest, restEq⟩ := ih (data.drop 24) (by rw [List.length_drop]; omega)
      refine ⟨report :: rest, ?_⟩
      simp only [reportsAt, bind, Except.bind, reportEq, restEq]
      rfl

theorem senderReportAt_of_long (data : List UInt8) (long : 20 ≤ data.length) :
    ∃ info, senderReportAt data = .ok info := by
  obtain ⟨msw, mswEq⟩ := number32_of_long data (by omega)
  obtain ⟨lsw, lswEq⟩ := number32_drop data 4 (by omega)
  obtain ⟨timestamp, timestampEq⟩ := number32_drop data 8 (by omega)
  obtain ⟨packets, packetsEq⟩ := number32_drop data 12 (by omega)
  obtain ⟨octets, octetsEq⟩ := number32_drop data 16 (by omega)
  refine ⟨⟨msw, lsw, timestamp, packets, octets⟩, ?_⟩
  simp only [senderReportAt, bind, Except.bind, mswEq, lswEq, timestampEq, packetsEq, octetsEq]
  rfl

theorem sourcesAt_of_long (count : Nat) (data : List UInt8) (long : 4 * count ≤ data.length) :
    ∃ ssrcs, sourcesAt count data = .ok ssrcs := by
  induction count generalizing data with
  | zero => exact ⟨[], rfl⟩
  | succ count ih =>
      obtain ⟨ssrc, ssrcEq⟩ := number32_of_long data (by omega)
      obtain ⟨rest, restEq⟩ := ih (data.drop 4) (by rw [List.length_drop]; omega)
      refine ⟨ssrc :: rest, ?_⟩
      simp only [sourcesAt, bind, Except.bind, ssrcEq, restEq]
      rfl

theorem checkItems_end (chunkoffset : Nat) (rest : List UInt8) :
    checkItems chunkoffset (0 :: rest) =
      if (chunkoffset + 1) % 4 ≠ 0 then
        if rest.length < 4 - (chunkoffset + 1) % 4 then none
        else some (rest.drop (4 - (chunkoffset + 1) % 4))
      else some rest := by
  cases rest <;> rw [checkItems, if_pos rfl]

theorem checkItems_item (chunkoffset : Nat) {sdesid : UInt8} (isItem : sdesid ≠ 0)
    (length : UInt8) (rest : List UInt8) :
    checkItems chunkoffset (sdesid :: length :: rest) =
      if rest.length < length.toNat then none
      else checkItems (chunkoffset + 2 + length.toNat) (rest.drop length.toNat) := by
  rw [checkItems, if_neg isItem]

theorem itemsAt_end (rest : List UInt8) : itemsAt (0 :: rest) = .ok [] := by
  cases rest <;> rw [itemsAt, if_pos rfl]

theorem itemsAt_item {sdesid : UInt8} (isItem : sdesid ≠ 0) {length : UInt8} {rest : List UInt8}
    (inside : length.toNat ≤ rest.length) {items : List RTCPSDESItem}
    (itemsEq : itemsAt (rest.drop length.toNat) = .ok items) :
    itemsAt (sdesid :: length :: rest) =
      .ok ({ sdesid := sdesid, itemdata := rest.take length.toNat } :: items) := by
  rw [itemsAt, if_neg isItem, if_neg (Nat.not_lt.mpr inside), itemsEq]

theorem nextChunk_end (offset : Nat) (rest : List UInt8) :
    nextChunk offset (0 :: rest) =
      if (offset + 1) % 4 ≠ 0 then .ok (rest.drop (4 - (offset + 1) % 4)) else .ok rest := by
  cases rest <;> rw [nextChunk, if_pos rfl]

theorem nextChunk_item (offset : Nat) {sdesid : UInt8} (isItem : sdesid ≠ 0) (length : UInt8)
    (rest : List UInt8) :
    nextChunk offset (sdesid :: length :: rest) =
      nextChunk (offset + 2 + length.toNat) (rest.drop length.toNat) := by
  rw [nextChunk, if_neg isItem]

/-- The accessors walk over the items that the constructor has checked, whatever follows the
chunks: by induction on the bytes, with the offset in the chunk along. -/
theorem checkItems_walks {chunkoffset : Nat} {bytes behind : List UInt8}
    (checked : checkItems chunkoffset bytes = some behind) (padding : List UInt8) :
    (∃ items, itemsAt (bytes ++ padding) = .ok items) ∧
      nextChunk chunkoffset (bytes ++ padding) = .ok (behind ++ padding) := by
  induction chunkoffset, bytes using checkItems.induct with
  | case1 chunkoffset =>
      rw [checkItems] at checked
      cases checked
  | case2 chunkoffset rest r unaligned short =>
      rw [checkItems_end, if_pos unaligned, if_pos short] at checked
      cases checked
  | case3 chunkoffset rest r unaligned long =>
      rw [checkItems_end, if_pos unaligned, if_neg long] at checked
      cases checked
      rw [List.cons_append, itemsAt_end, nextChunk_end, if_pos unaligned,
        List.drop_append_of_le_length (Nat.not_lt.mp long)]
      exact ⟨⟨[], rfl⟩, rfl⟩
  | case4 chunkoffset rest r aligned =>
      rw [checkItems_end, if_neg aligned] at checked
      cases checked
      rw [List.cons_append, itemsAt_end, nextChunk_end, if_neg aligned]
      exact ⟨⟨[], rfl⟩, rfl⟩
  | case5 chunkoffset sdesid isItem =>
      rw [checkItems, if_neg isItem] at checked
      cases checked
  | case6 chunkoffset sdesid isItem length rest short =>
      rw [checkItems_item chunkoffset isItem, if_pos short] at checked
      cases checked
  | case7 chunkoffset sdesid isItem length rest long ih =>
      rw [checkItems_item chunkoffset isItem, if_neg long] at checked
      obtain ⟨⟨items, itemsEq⟩, nextEq⟩ := ih checked
      rw [← List.drop_append_of_le_length (Nat.not_lt.mp long)] at itemsEq nextEq
      have inside : length.toNat ≤ (rest ++ padding).length := by
        rw [List.length_append]
        omega
      rw [List.cons_append, List.cons_append, nextChunk_item chunkoffset isItem]
      exact ⟨⟨_, itemsAt_item isItem inside itemsEq⟩, nextEq⟩

theorem checkChunks_walks {ssrccount : Nat} {bytes : List UInt8}
    (checked : checkChunks ssrccount bytes = true) (padding : List UInt8) :
    ∃ chunks, chunksAt ssrccount (bytes ++ padding) = .ok chunks := by
  induction ssrccount generalizing bytes with
  | zero => exact ⟨[], rfl⟩
  | succ ssrccount ih =>
      rw [checkChunks] at checked
      split at checked
      · cases checked
      · split at checked
        · cases checked
        · rename_i long
          cases itemsChecked : checkItems 4 (bytes.drop 4) with
          | none =>
              simp only [itemsChecked] at checked
              cases checked
          | some behind =>
              simp only [itemsChecked] at checked
              obtain ⟨ssrc, ssrcEq⟩ := number32_of_long (bytes ++ padding) (by
                rw [List.length_append]
                omega)
              obtain ⟨⟨items, itemsEq⟩, nextEq⟩ := checkItems_walks itemsChecked padding
              rw [← List.drop_append_of_le_length (by omega)] at itemsEq nextEq
              cases ssrccount with
              | zero =>
                  refine ⟨[{ ssrc := ssrc, items := items }], ?_⟩
                  simp only [chunksAt, bind, Except.bind, ssrcEq, itemsEq]
                  rfl
              | succ ssrccount =>
                  obtain ⟨rest, restEq⟩ := ih checked
                  refine ⟨{ ssrc := ssrc, items := items } :: rest, ?_⟩
                  simp only [chunksAt, bind, Except.bind, ssrcEq, itemsEq, nextEq, restEq]
                  rfl

theorem unpaddedLength_le {hdr : RTCPCommonHeader} {data : List UInt8} {len : Nat}
    (unpadded : unpaddedLength hdr data = some len) : len ≤ data.length := by
  unfold unpaddedLength at unpadded
  split at unpadded
  · simp only at unpadded
    split at unpadded
    · cases unpadded
    · split at unpadded
      · cases unpadded
      · cases unpadded
        exact Nat.sub_le _ _
  · cases unpadded
    exact Nat.le_refl _

theorem sdes_walks {hdr : RTCPCommonHeader} {data : List UInt8} {len : Nat}
    (known : sdesKnownFormat hdr data len = true) :
    ∃ chunks, chunksAt hdr.count (data.drop 4) = .ok chunks := by
  unfold sdesKnownFormat at known
  split at known
  · rename_i isEmpty
    rw [isEmpty]
    exact ⟨[], rfl⟩
  · split at known
    · cases known
    · rename_i long
      have parts : data.drop 4 = (data.take len).drop 4 ++ data.drop len := by
        have behind : 4 + (len - 4) = len := by omega
        rw [List.drop_take]
        conv_lhs => rw [← List.take_append_drop (len - 4) (data.drop 4), List.drop_drop, behind]
      rw [parts]
      exact checkChunks_walks known _

theorem reason_inside {hdr : RTCPCommonHeader} {data : List UInt8} {len : Nat}
    (known : byeKnownFormat hdr data len = true) (short : len ≤ data.length) :
    hdr.count * 4 + 4 ≤ len ∧
      ∃ reason, reasonAt (hdr.count * 4 + 4) len data = .ok reason := by
  unfold byeKnownFormat at known
  simp only at known
  split at known
  · cases known
  · rename_i enough
    refine ⟨Nat.not_lt.mp enough, ?_⟩
    unfold reasonAt
    split at known
    · rename_i more
      rw [if_pos more]
      cases reasonEq : data.drop (hdr.count * 4 + 4) with
      | nil =>
          have lengthEq := congrArg List.length reasonEq
          rw [List.length_drop, List.length_nil] at lengthEq
          omega
      | cons reasonlength rest =>
          have lengthEq := congrArg List.length reasonEq
          rw [List.length_drop, List.length_cons] at lengthEq
          have isFirst : data.getD (hdr.count * 4 + 4) 0 = reasonlength := by
            rw [List.getD_eq_getElem?_getD, ← List.head?_drop, reasonEq]
            rfl
          rw [isFirst, decide_eq_true_iff] at known
          have inside : ¬ rest.length < reasonlength.toNat := by omega
          simp only [if_neg inside]
          exact ⟨_, rfl⟩
    · rename_i noMore
      rw [if_neg noMore]
      exact ⟨[], rfl⟩

/-- In a packet of a known format every accessor finds its bytes. -/
theorem contents_new (hdr : RTCPCommonHeader) (data : List UInt8) (long : 4 ≤ data.length) :
    ∃ contents, (RTCPPacket.new hdr data).contents = .ok contents := by
  unfold RTCPPacket.contents RTCPPacket.new
  simp only
  generalize RTCPPacketType.ofNumber hdr.packettype = packettype
  cases known : knownFormat packettype hdr data with
  | false => exact ⟨_, rfl⟩
  | true =>
      rw [Bool.not_true, if_neg Bool.false_ne_true]
      unfold knownFormat at known
      have bodyLength : (data.drop 4).length = data.length - 4 := List.length_drop
      cases packettype with
      | unknown => exact ⟨_, rfl⟩
      | sr =>
          cases unpadded : unpaddedLength hdr data with
          | none => simp [unpadded] at known
          | some len =>
              simp only [unpadded, decide_eq_true_eq] at known
              have short := unpaddedLength_le unpadded
              obtain ⟨ssrc, ssrcEq⟩ := number32_of_long (data.drop 4) (by omega)
              obtain ⟨info, infoEq⟩ := senderReportAt_of_long ((data.drop 4).drop 4) (by
                rw [List.length_drop]
                omega)
              obtain ⟨reports, reportsEq⟩ := reportsAt_of_long hdr.count
                ((data.drop 4).drop 24) (by
                  rw [List.length_drop]
                  omega)
              refine ⟨.sr ssrc info reports, ?_⟩
              simp only [bind, Except.bind, ssrcEq, infoEq, reportsEq]
              rfl
      | rr =>
          cases unpadded : unpaddedLength hdr data with
          | none => simp [unpadded] at known
          | some len =>
              simp only [unpadded, decide_eq_true_eq] at known
              have short := unpaddedLength_le unpadded
              obtain ⟨ssrc, ssrcEq⟩ := number32_of_long (data.drop 4) (by omega)
              obtain ⟨reports, reportsEq⟩ := reportsAt_of_long hdr.count
                ((data.drop 4).drop 4) (by
                  rw [List.length_drop]
                  omega)
              refine ⟨.rr ssrc reports, ?_⟩
              simp only [bind, Except.bind, ssrcEq, reportsEq]
              rfl
      | sdes =>
          cases unpadded : unpaddedLength hdr data with
          | none => simp [unpadded] at known
          | some len =>
              simp only [unpadded] at known
              obtain ⟨chunks, chunksEq⟩ := sdes_walks known
              refine ⟨.sdes chunks, ?_⟩
              simp only [bind, Except.bind, chunksEq]
              rfl
      | bye =>
          cases unpadded : unpaddedLength hdr data with
          | none => simp [unpadded] at known
          | some len =>
              simp only [unpadded] at known
              have short := unpaddedLength_le unpadded
              obtain ⟨enough, reason, reasonEq⟩ := reason_inside known short
              obtain ⟨ssrcs, ssrcsEq⟩ := sourcesAt_of_long hdr.count
                (data.drop 4) (by omega)
              refine ⟨.bye ssrcs reason, ?_⟩
              simp only [bind, Except.bind, ssrcsEq, Option.getD_some, reasonEq]
              rfl
      | app =>
          cases unpadded : unpaddedLength hdr data with
          | none => simp [unpadded] at known
          | some len =>
              simp only [unpadded, decide_eq_true_eq] at known
              have short := unpaddedLength_le unpadded
              obtain ⟨ssrc, ssrcEq⟩ := number32_of_long (data.drop 4) (by omega)
              have inside : ¬ (data.drop 4).length < 8 + (len - 12) := by omega
              refine ⟨.app hdr.count ssrc (((data.drop 4).drop 4).take 4)
                (((data.drop 4).drop 8).take (len - 12)), ?_⟩
              simp only [bind, Except.bind, ssrcEq, Option.getD_some, if_neg inside]
              rfl

theorem ofBytes_of_long {data : List UInt8} (long : 4 ≤ data.length) :
    ∃ hdr, RTCPCommonHeader.ofBytes data = .ok hdr := by
  obtain ⟨first, second, third, fourth, rest, rfl⟩ := four_of_long data long
  exact ⟨_, rfl⟩

structure RTCPCommonHeader.Allowed (hdr : RTCPCommonHeader) (first : Bool)
    (data : List UInt8) : Prop where
  version : hdr.version = RTPPacket.rtpVersion
  report : first = true →
    hdr.packettype = RTPPacket.rtcpTypeSR ∨ hdr.packettype = RTPPacket.rtcpTypeRR
  fits : (hdr.length + 1) * 4 ≤ data.length
  last : hdr.padding = true → (hdr.length + 1) * 4 = data.length

theorem checkHeader_eq_ok_iff {first : Bool} {data : List UInt8} {hdr : RTCPCommonHeader} :
    checkHeader first data = .ok hdr ↔
      RTCPCommonHeader.ofBytes data = .ok hdr ∧ hdr.Allowed first data := by
  unfold checkHeader
  cases RTCPCommonHeader.ofBytes data with
  | error error =>
      constructor
      · intro impossible
        cases impossible
      · rintro ⟨impossible, _⟩
        cases impossible
  | ok found =>
      simp only
      constructor
      · intro checked
        split at checked
        · cases checked
        · rename_i version
          split at checked
          · cases checked
          · rename_i report
            split at checked
            · cases checked
            · rename_i fits
              split at checked
              · cases checked
              · rename_i last
                cases checked
                refine ⟨rfl, ?_⟩
                exact
                  { version := not_not.mp version
                    report := fun isFirst => by_contra fun other => report ⟨isFirst, other⟩
                    fits := Nat.not_lt.mp fits
                    last := fun padded => by_contra fun other => last ⟨padded, other⟩ }
      · rintro ⟨same, allowed⟩
        cases same
        have report : ¬ (first = true ∧ ¬ (hdr.packettype = RTPPacket.rtcpTypeSR ∨
            hdr.packettype = RTPPacket.rtcpTypeRR)) := fun other => other.2 (allowed.report other.1)
        have last : ¬ (hdr.padding = true ∧ (hdr.length + 1) * 4 ≠ data.length) := fun other =>
          other.2 (allowed.last other.1)
        rw [if_neg (not_not.mpr allowed.version), if_neg report,
          if_neg (Nat.not_lt.mpr allowed.fits), if_neg last]

theorem checkHeader_of_long (first : Bool) {data : List UInt8} (long : 4 ≤ data.length) :
    checkHeader first data = .error .invalidPacket ∨ ∃ hdr, checkHeader first data = .ok hdr := by
  obtain ⟨hdr, hdrEq⟩ := ofBytes_of_long long
  unfold checkHeader
  simp only [hdrEq]
  repeat' split
  all_goals first
    | exact Or.inl rfl
    | exact Or.inr ⟨hdr, rfl⟩

theorem contentsOf_cons {packet : RTCPPacket} {packets : List RTCPPacket}
    {contents : RTCPContents} {others : List RTCPContents}
    (contentsEq : packet.contents = .ok contents) (othersEq : contentsOf packets = .ok others) :
    contentsOf (packet :: packets) = .ok (contents :: others) := by
  simp only [contentsOf, bind, Except.bind, contentsEq, othersEq]
  rfl

/-- By induction on the rounds of the loop. -/
theorem parseLoop_inside (first : Bool) {data : List UInt8} (long : 4 ≤ data.length) :
    parseLoop first data = .error .invalidPacket ∨
      ∃ packets contents, parseLoop first data = .ok packets ∧
        packets.flatMap RTCPPacket.data = data ∧ contentsOf packets = .ok contents := by
  induction first, data using parseLoop.induct with
  | case1 first data error hdrEq =>
      rcases checkHeader_of_long first long with refused | ⟨hdr, accepted⟩
      · rw [parseLoop, refused]
        exact Or.inl rfl
      · rw [accepted] at hdrEq
        cases hdrEq
  | case2 first data hdr hdrEq length more error restEq ih =>
      rw [parseLoop, hdrEq]
      simp only
      rw [if_pos more, restEq]
      rcases ih more with refused | ⟨packets, others, packetsEq, _⟩
      · rw [restEq] at refused
        cases refused
        exact Or.inl rfl
      · rw [restEq] at packetsEq
        cases packetsEq
  | case3 first data hdr hdrEq length more packets restEq ih =>
      have fits := (checkHeader_eq_ok_iff.mp hdrEq).2.fits
      obtain ⟨contents, contentsEq⟩ := contents_new hdr (data.take length) (by
        rw [List.length_take]
        omega)
      rw [parseLoop, hdrEq]
      simp only
      rw [if_pos more, restEq]
      rcases ih more with refused | ⟨others, otherContents, othersEq, partsEq, otherContentsEq⟩
      · rw [restEq] at refused
        cases refused
      · rw [restEq] at othersEq
        cases othersEq
        refine Or.inr ⟨_, contents :: otherContents, rfl, ?_,
          contentsOf_cons contentsEq otherContentsEq⟩
        rw [List.flatMap_cons, partsEq]
        exact List.take_append_drop length data
  | case4 first data hdr hdrEq length noMore remaining =>
      rw [parseLoop, hdrEq]
      simp only
      rw [if_neg noMore, if_pos remaining]
      exact Or.inl rfl
  | case5 first data hdr hdrEq length noMore complete =>
      have fits := (checkHeader_eq_ok_iff.mp hdrEq).2.fits
      obtain ⟨contents, contentsEq⟩ := contents_new hdr (data.take length) (by
        rw [List.length_take]
        omega)
      rw [parseLoop, hdrEq]
      simp only
      rw [if_neg noMore, if_neg complete]
      refine Or.inr ⟨_, [contents], rfl, ?_, contentsOf_cons contentsEq rfl⟩
      have behind : data.drop length = [] := List.length_eq_zero_iff.mp (not_not.mp complete)
      rw [List.flatMap_cons, List.flatMap_nil, List.append_nil]
      change data.take length = data
      conv_rhs => rw [← List.take_append_drop length data, behind, List.append_nil]

/-- A compound packet is refused, or it is cut into packets without a gap, and no accessor of
any of these reads behind its end: the unchecked walks over reports, chunks, items and sources
go where the constructors have checked. -/
theorem parseData_inside (data : List UInt8) :
    parseData data = .error .invalidPacket ∨
      ∃ packets contents, parseData data = .ok packets ∧
        packets.flatMap RTCPPacket.data = data ∧ contentsOf packets = .ok contents := by
  unfold parseData
  split
  · exact Or.inl rfl
  · rename_i long
    exact parseLoop_inside true (Nat.not_lt.mp long)

end DShowCapture.Jrtplib
