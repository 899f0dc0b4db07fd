/-
The packet builder of a session, `jrtp/jrtplib/rtppacketbuilder.cpp` and its header.

Between two changes of its source identifier the builder numbers its packets one after the
other, stamps each of them with the time that the increments before it add up to, and counts
packets and bytes.  A call that fails is not counted and uses up no number.  The contributing
sources are a list without repetition that behaves as a set of at most fifteen.
-/
import DShowCapture.Jrtplib.BuildPacket
import Mathlib.Algebra.GroupWithZero.Nat
import Mathlib.Data.Finset.Card
import Mathlib.Data.Finset.Dedup

namespace DShowCapture.Jrtplib

open ByteMemory FixedWidth RTPPacket

inductive PackBuildError
  | alreadyInit
  | invalidMaxPacketSize
  | notInit
  | csrcListFull
  | csrcAlreadyInList
  | csrcNotInList
  | defaultPayloadTypeNotSet
  | defaultMarkNotSet
  | defaultTSIncNotSet
  | illegalBufferSize
  | packet (error : BuildError)
  deriving DecidableEq, Repr

/-- What `CreateNewSSRC` draws from the random number generator. -/
structure RandomStart where
  ssrc : UInt32
  timestamp : UInt32
  seqnr : UInt16

structure HeaderExtension where
  hdrextID : UInt16
  hdrextdata : Memory
  numhdrextwords : Nat

structure BuildRequest where
  data : Memory
  len : Nat
  pt : UInt8
  mark : Bool
  timestampinc : UInt32
  extension : Option HeaderExtension

structure RTPPacketBuilder (Time : Type) where
  init : Bool
  maxpacksize : Nat
  buffer : Memory
  packetlength : Nat
  numpayloadbytes : UInt32
  numpackets : UInt32
  ssrc : UInt32
  timestamp : UInt32
  seqnr : UInt16
  defaulttimestampinc : UInt32
  defaultpayloadtype : UInt8
  defaultmark : Bool
  deftsset : Bool
  defptset : Bool
  defmarkset : Bool
  /-- The first `numcsrcs` entries of the array `csrcs`. -/
  csrcs : List UInt32
  lastwallclocktime : Time
  lastrtptimestamp : UInt32
  prevrtptimestamp : UInt32

namespace RTPPacketBuilder

variable {Time : Type}

def createNewSSRC (self : RTPPacketBuilder Time) (random : RandomStart) : RTPPacketBuilder Time :=
  { self with
    ssrc := random.ssrc
    timestamp := random.timestamp
    seqnr := random.seqnr
    numpayloadbytes := 0
    numpackets := 0 }

def initWith (self : RTPPacketBuilder Time) (max : Nat) (fresh : Memory) (random : RandomStart) :
    Except PackBuildError (RTPPacketBuilder Time) :=
  if self.init then .error .alreadyInit
  else if max = 0 then .error .invalidMaxPacketSize
  else
    .ok
      { ({ self with maxpacksize := max, buffer := fresh, packetlength := 0 } :
          RTPPacketBuilder Time).createNewSSRC random with
        deftsset := false
        defptset := false
        defmarkset := false
        csrcs := []
        init := true }

def destroy (self : RTPPacketBuilder Time) : RTPPacketBuilder Time := { self with init := false }

def setMaximumPacketSize (self : RTPPacketBuilder Time) (max : Nat) (fresh : Memory) :
    Except PackBuildError (RTPPacketBuilder Time) :=
  if max = 0 then .error .invalidMaxPacketSize
  else .ok { self with buffer := fresh, maxpacksize := max }

def addCSRC (self : RTPPacketBuilder Time) (csrc : UInt32) :
    Except PackBuildError (RTPPacketBuilder Time) :=
  if !self.init then .error .notInit
  else if rtpMaxCSRCs ≤ self.csrcs.length then .error .csrcListFull
  else if csrc ∈ self.csrcs then .error .csrcAlreadyInList
  else .ok { self with csrcs := self.csrcs ++ [csrc] }

/-- The last source takes the place of the deleted one. -/
def deleteCSRC (self : RTPPacketBuilder Time) (csrc : UInt32) :
    Except PackBuildError (RTPPacketBuilder Time) :=
  if !self.init then .error .notInit
  else
    let index := self.csrcs.idxOf csrc
    if index = self.csrcs.length then .error .csrcNotInList
    else
      let numcsrcs := self.csrcs.length - 1
      let moved :=
        if 0 < numcsrcs ∧ numcsrcs ≠ index then
          self.csrcs.set index (self.csrcs.getD numcsrcs 0)
        else self.csrcs
      .ok { self with csrcs := moved.take numcsrcs }

def clearCSRCList (self : RTPPacketBuilder Time) : RTPPacketBuilder Time :=
  if !self.init then self else { self with csrcs := [] }

def packetArgs (self : RTPPacketBuilder Time) (request : BuildRequest) : BuildArgs :=
  { payloadtype := request.pt
    payloaddata := request.data
    payloadlen := request.len
    seqnr := self.seqnr
    timestamp := self.timestamp
    ssrc := self.ssrc
    gotmarker := request.mark
    numcsrcs := UInt8.ofNat self.csrcs.length
    csrcs := fun index => self.csrcs.getD index 0
    gotextension := request.extension.isSome
    extensionid := (request.extension.map HeaderExtension.hdrextID).getD 0
    extensionlenNumwords :=
      UInt16.ofNat ((request.extension.map HeaderExtension.numhdrextwords).getD 0)
    extensiondata := (request.extension.map HeaderExtension.hdrextdata).getD fun _ => 0 }

/-- The wall clock time is read with the first packet and with each new time stamp. -/
def noteWallClock (self : RTPPacketBuilder Time) (now : Time) : RTPPacketBuilder Time :=
  if self.numpackets = 0 then
    { self with
      lastwallclocktime := now
      lastrtptimestamp := self.timestamp
      prevrtptimestamp := self.timestamp }
  else if self.timestamp ≠ self.prevrtptimestamp then
    { self with
      lastwallclocktime := now
      lastrtptimestamp := self.timestamp
      prevrtptimestamp := self.timestamp }
  else self

/-- The part of `PrivateBuildPacket` behind a successful construction of the packet. -/
def countPacket (self : RTPPacketBuilder Time) (built : Built) (timestampinc : UInt32)
    (now : Time) : RTPPacketBuilder Time :=
  let noted := self.noteWallClock now
  { noted with
    buffer := built.packet
    packetlength := built.members.packetlength
    numpayloadbytes := self.numpayloadbytes + UInt32.ofNat built.members.payloadlength
    numpackets := self.numpackets + 1
    timestamp := self.timestamp + timestampinc
    seqnr := self.seqnr + 1 }

def privateBuildPacket (self : RTPPacketBuilder Time) (request : BuildRequest) (now : Time) :
    Except PackBuildError (RTPPacketBuilder Time) :=
  if self.maxpacksize = 0 then .error .illegalBufferSize
  else
    match RTPPacket.buildPacket (self.packetArgs request) self.buffer self.maxpacksize with
    | .error error => .error (.packet error)
    | .ok built => .ok (self.countPacket built request.timestampinc now)

def defaultRequest (self : RTPPacketBuilder Time) (data : Memory) (len : Nat)
    (extension : Option HeaderExtension) : BuildRequest :=
  { data := data
    len := len
    pt := self.defaultpayloadtype
    mark := self.defaultmark
    timestampinc := self.defaulttimestampinc
    extension := extension }

/-- The checks that the two functions with default parameters have in common. -/
def buildWithDefaults (self : RTPPacketBuilder Time) (data : Memory) (len : Nat)
    (extension : Option HeaderExtension) (now : Time) :
    Except PackBuildError (RTPPacketBuilder Time) :=
  if !self.init then .error .notInit
  else if !self.defptset then .error .defaultPayloadTypeNotSet
  else if !self.defmarkset then .error .defaultMarkNotSet
  else if !self.deftsset then .error .defaultTSIncNotSet
  else self.privateBuildPacket (self.defaultRequest data len extension) now

def buildWithParameters (self : RTPPacketBuilder Time) (request : BuildRequest) (now : Time) :
    Except PackBuildError (RTPPacketBuilder Time) :=
  if !self.init then .error .notInit else self.privateBuildPacket request now

def buildPacketDefault (self : RTPPacketBuilder Time) (data : Memory) (len : Nat) (now : Time) :
    Except PackBuildError (RTPPacketBuilder Time) :=
  self.buildWithDefaults data len none now

def buildPacket (self : RTPPacketBuilder Time) (data : Memory) (len : Nat) (pt : UInt8)
    (mark : Bool) (timestampinc : UInt32) (now : Time) :
    Except PackBuildError (RTPPacketBuilder Time) :=
  self.buildWithParameters
    { data := data, len := len, pt := pt, mark := mark, timestampinc := timestampinc
      extension := none } now

def buildPacketExDefault (self : RTPPacketBuilder Time) (data : Memory) (len : Nat)
    (extension : HeaderExtension) (now : Time) : Except PackBuildError (RTPPacketBuilder Time) :=
  self.buildWithDefaults data len (some extension) now

def buildPacketEx (self : RTPPacketBuilder Time) (data : Memory) (len : Nat) (pt : UInt8)
    (mark : Bool) (timestampinc : UInt32) (extension : HeaderExtension) (now : Time) :
    Except PackBuildError (RTPPacketBuilder Time) :=
  self.buildWithParameters
    { data := data, len := len, pt := pt, mark := mark, timestampinc := timestampinc
      extension := some extension } now

def setDefaultPayloadType (self : RTPPacketBuilder Time) (pt : UInt8) :
    Except PackBuildError (RTPPacketBuilder Time) :=
  if !self.init then .error .notInit
  else .ok { self with defptset := true, defaultpayloadtype := pt }

def setDefaultMark (self : RTPPacketBuilder Time) (mark : Bool) :
    Except PackBuildError (RTPPacketBuilder Time) :=
  if !self.init then .error .notInit
  else .ok { self with defmarkset := true, defaultmark := mark }

def setDefaultTimestampIncrement (self : RTPPacketBuilder Time) (timestampinc : UInt32) :
    Except PackBuildError (RTPPacketBuilder Time) :=
  if !self.init then .error .notInit
  else .ok { self with deftsset := true, defaulttimestampinc := timestampinc }

def incrementTimestamp (self : RTPPacketBuilder Time) (inc : UInt32) :
    Except PackBuildError (RTPPacketBuilder Time) :=
  if !self.init then .error .notInit
  else .ok { self with timestamp := self.timestamp + inc }

def incrementTimestampDefault (self : RTPPacketBuilder Time) :
    Except PackBuildError (RTPPacketBuilder Time) :=
  if !self.init then .error .notInit
  else if !self.deftsset then .error .defaultTSIncNotSet
  else .ok { self with timestamp := self.timestamp + self.defaulttimestampinc }

def getPacketCount (self : RTPPacketBuilder Time) : UInt32 :=
  if !self.init then 0 else self.numpackets

def getPayloadOctetCount (self : RTPPacketBuilder Time) : UInt32 :=
  if !self.init then 0 else self.numpayloadbytes

def getPacket (self : RTPPacketBuilder Time) : List UInt8 :=
  if !self.init then [] else read self.buffer 0 self.packetlength

/-! ### Calls -/

inductive Call (Time : Type)
  | initWith (max : Nat) (fresh : Memory) (random : RandomStart)
  | destroy
  | setMaximumPacketSize (max : Nat) (fresh : Memory)
  | addCSRC (csrc : UInt32)
  | deleteCSRC (csrc : UInt32)
  | clearCSRCList
  | setDefaultPayloadType (pt : UInt8)
  | setDefaultMark (mark : Bool)
  | setDefaultTimestampIncrement (timestampinc : UInt32)
  | incrementTimestamp (inc : UInt32)
  | incrementTimestampDefault
  | createNewSSRC (random : RandomStart)
  | adjustSSRC (ssrc : UInt32)
  | buildPacketDefault (data : Memory) (len : Nat) (now : Time)
  | buildPacket (data : Memory) (len : Nat) (pt : UInt8) (mark : Bool) (timestampinc : UInt32)
      (now : Time)
  | buildPacketExDefault (data : Memory) (len : Nat) (extension : HeaderExtension) (now : Time)
  | buildPacketEx (data : Memory) (len : Nat) (pt : UInt8) (mark : Bool) (timestampinc : UInt32)
      (extension : HeaderExtension) (now : Time)

def perform (self : RTPPacketBuilder Time) :
    Call Time → Except PackBuildError (RTPPacketBuilder Time)
  | .initWith max fresh random => self.initWith max fresh random
  | .destroy => .ok self.destroy
  | .setMaximumPacketSize max fresh => self.setMaximumPacketSize max fresh
  | .addCSRC csrc => self.addCSRC csrc
  | .deleteCSRC csrc => self.deleteCSRC csrc
  | .clearCSRCList => .ok self.clearCSRCList
  | .setDefaultPayloadType pt => self.setDefaultPayloadType pt
  | .setDefaultMark mark => self.setDefaultMark mark
  | .setDefaultTimestampIncrement timestampinc => self.setDefaultTimestampIncrement timestampinc
  | .incrementTimestamp inc => self.incrementTimestamp inc
  | .incrementTimestampDefault => self.incrementTimestampDefault
  | .createNewSSRC random => .ok (self.createNewSSRC random)
  | .adjustSSRC ssrc => .ok { self with ssrc := ssrc }
  | .buildPacketDefault data len now => self.buildPacketDefault data len now
  | .buildPacket data len pt mark timestampinc now =>
      self.buildPacket data len pt mark timestampinc now
  | .buildPacketExDefault data len extension now => self.buildPacketExDefault data len extension now
  | .buildPacketEx data len pt mark timestampinc extension now =>
      self.buildPacketEx data len pt mark timestampinc extension now

def step (self : RTPPacketBuilder Time) (call : Call Time) : RTPPacketBuilder Time :=
  match self.perform call with
  | .error _ => self
  | .ok next => next

def after (self : RTPPacketBuilder Time) (calls : List (Call Time)) : RTPPacketBuilder Time :=
  calls.foldl step self

def Call.request (self : RTPPacketBuilder Time) : Call Time → Option BuildRequest
  | .buildPacketDefault data len _ => some (self.defaultRequest data len none)
  | .buildPacket data len pt mark timestampinc _ =>
      some
        { data := data, len := len, pt := pt, mark := mark, timestampinc := timestampinc
          extension := none }
  | .buildPacketExDefault data len extension _ =>
      some (self.defaultRequest data len (some extension))
  | .buildPacketEx data len pt mark timestampinc extension _ =>
      some
        { data := data, len := len, pt := pt, mark := mark, timestampinc := timestampinc
          extension := some extension }
  | _ => none

def Call.KeepsSource : Call Time → Prop
  | .initWith _ _ _ | .destroy | .createNewSSRC _ | .adjustSSRC _ => False
  | _ => True

/-- How far a successful call that asks for no packet moves the time stamp. -/
def Call.pause (self : RTPPacketBuilder Time) : Call Time → UInt32
  | .incrementTimestamp inc => inc
  | .incrementTimestampDefault => self.defaulttimestampinc
  | _ => 0

def effect (self : RTPPacketBuilder Time) (call : Call Time) : List BuildRequest × UInt32 :=
  match self.perform call with
  | .error _ => ([], 0)
  | .ok _ =>
      match call.request self with
      | none => ([], call.pause self)
      | some request => ([request], request.timestampinc)

def built : RTPPacketBuilder Time → List (Call Time) → List BuildRequest
  | _, [] => []
  | self, call :: rest => (self.effect call).1 ++ built (self.step call) rest

/-- The time that a run adds to the time stamp. -/
def elapsed : RTPPacketBuilder Time → List (Call Time) → UInt32
  | _, [] => 0
  | self, call :: rest => (self.effect call).2 + elapsed (self.step call) rest

/-! ### What a call does -/

structure Builds (state : RTPPacketBuilder Time) (request : BuildRequest)
    (next : RTPPacketBuilder Time) : Prop where
  isInit : state.init = true
  counted : ∃ packet now,
    RTPPacket.buildPacket (state.packetArgs request) state.buffer state.maxpacksize = .ok packet ∧
      next = state.countPacket packet request.timestampinc now

theorem builds_of_privateBuildPacket {self next : RTPPacketBuilder Time} {request : BuildRequest}
    {now : Time} (isInit : self.init = true)
    (success : self.privateBuildPacket request now = .ok next) : self.Builds request next := by
  unfold privateBuildPacket at success
  split at success
  · cases success
  · split at success
    · cases success
    · rename_i packet packetEq
      exact { isInit := isInit, counted := ⟨packet, now, packetEq, (Except.ok.inj success).symm⟩ }

theorem builds_of_buildWithDefaults {self next : RTPPacketBuilder Time} {data : Memory}
    {len : Nat} {extension : Option HeaderExtension} {now : Time}
    (success : self.buildWithDefaults data len extension now = .ok next) :
    self.Builds (self.defaultRequest data len extension) next := by
  unfold buildWithDefaults at success
  cases isInit : self.init with
  | false =>
      rw [isInit] at success
      cases success
  | true =>
      rw [isInit] at success
      simp only [Bool.not_true, Bool.false_eq_true, if_false] at success
      split at success
      · cases success
      · split at success
        · cases success
        · split at success
          · cases success
          · exact builds_of_privateBuildPacket isInit success

theorem builds_of_buildWithParameters {self next : RTPPacketBuilder Time}
    {request : BuildRequest} {now : Time}
    (success : self.buildWithParameters request now = .ok next) : self.Builds request next := by
  unfold buildWithParameters at success
  cases isInit : self.init with
  | false =>
      rw [isInit] at success
      cases success
  | true =>
      rw [isInit] at success
      exact builds_of_privateBuildPacket isInit success

theorem builds_of_perform {self next : RTPPacketBuilder Time} {call : Call Time}
    {request : BuildRequest} (asked : call.request self = some request)
    (success : self.perform call = .ok next) : self.Builds request next := by
  cases call with
  | buildPacketDefault data len now =>
      cases asked
      exact builds_of_buildWithDefaults success
  | buildPacket data len pt mark timestampinc now =>
      cases asked
      exact builds_of_buildWithParameters success
  | buildPacketExDefault data len extension now =>
      cases asked
      exact builds_of_buildWithDefaults success
  | buildPacketEx data len pt mark timestampinc extension now =>
      cases asked
      exact builds_of_buildWithParameters success
  | _ => cases asked

structure Quiet (state : RTPPacketBuilder Time) (pause : UInt32) (next : RTPPacketBuilder Time) :
    Prop where
  init : next.init = state.init
  ssrc : next.ssrc = state.ssrc
  seqnr : next.seqnr = state.seqnr
  timestamp : next.timestamp = state.timestamp + pause
  numpackets : next.numpackets = state.numpackets
  numpayloadbytes : next.numpayloadbytes = state.numpayloadbytes

theorem quiet_self (self : RTPPacketBuilder Time) : self.Quiet 0 self :=
  { init := rfl, ssrc := rfl, seqnr := rfl, timestamp := (UInt32.add_zero _).symm
    numpackets := rfl, numpayloadbytes := rfl }

def Call.Tunes : Call Time → Prop
  | .setMaximumPacketSize _ _ | .setDefaultPayloadType _ | .setDefaultMark _
  | .setDefaultTimestampIncrement _ | .incrementTimestamp _ | .incrementTimestampDefault => True
  | _ => False

theorem quiet_of_tunes {self next : RTPPacketBuilder Time} {call : Call Time}
    (success : self.perform call = .ok next) (tunes : call.Tunes) :
    self.Quiet (call.pause self) next ∧ next.csrcs = self.csrcs := by
  have same := self.quiet_self
  cases call with
  | setMaximumPacketSize max fresh =>
      simp only [perform, setMaximumPacketSize] at success
      split at success
      all_goals cases success
      exact ⟨{ same with }, rfl⟩
  | setDefaultPayloadType pt =>
      simp only [perform, setDefaultPayloadType] at success
      split at success
      all_goals cases success
      exact ⟨{ same with }, rfl⟩
  | setDefaultMark mark =>
      simp only [perform, setDefaultMark] at success
      split at success
      all_goals cases success
      exact ⟨{ same with }, rfl⟩
  | setDefaultTimestampIncrement timestampinc =>
      simp only [perform, setDefaultTimestampIncrement] at success
      split at success
      all_goals cases success
      exact ⟨{ same with }, rfl⟩
  | incrementTimestamp inc =>
      simp only [perform, incrementTimestamp] at success
      split at success
      all_goals cases success
      exact ⟨{ same with timestamp := rfl }, rfl⟩
  | incrementTimestampDefault =>
      simp only [perform, incrementTimestampDefault] at success
      repeat' split at success
      all_goals cases success
      exact ⟨{ same with timestamp := rfl }, rfl⟩
  | _ => exact tunes.elim

theorem quiet_of_perform {self next : RTPPacketBuilder Time} {call : Call Time}
    (keeps : call.KeepsSource) (asked : call.request self = none)
    (success : self.perform call = .ok next) : self.Quiet (call.pause self) next := by
  have same := self.quiet_self
  cases call with
  | initWith max fresh random => exact keeps.elim
  | destroy => exact keeps.elim
  | createNewSSRC random => exact keeps.elim
  | adjustSSRC ssrc => exact keeps.elim
  | clearCSRCList =>
      simp only [perform, clearCSRCList] at success
      split at success
      · cases success
        exact same
      · cases success
        exact { same with }
  | addCSRC csrc =>
      simp only [perform, addCSRC] at success
      repeat' split at success
      all_goals cases success
      exact { same with }
  | deleteCSRC csrc =>
      simp only [perform, deleteCSRC] at success
      repeat' split at success
      all_goals cases success
      all_goals exact { same with }
  | setMaximumPacketSize max fresh => exact (quiet_of_tunes success trivial).1
  | setDefaultPayloadType pt => exact (quiet_of_tunes success trivial).1
  | setDefaultMark mark => exact (quiet_of_tunes success trivial).1
  | setDefaultTimestampIncrement timestampinc => exact (quiet_of_tunes success trivial).1
  | incrementTimestamp inc => exact (quiet_of_tunes success trivial).1
  | incrementTimestampDefault => exact (quiet_of_tunes success trivial).1
  | _ => cases asked

/-! ### Runs between two changes of the source identifier -/

def octets (requests : List BuildRequest) : Nat := (requests.map BuildRequest.len).sum

/-- The state of a builder that has built these packets while this time passed. -/
structure Advanced (state : RTPPacketBuilder Time) (requests : List BuildRequest)
    (time : UInt32) (next : RTPPacketBuilder Time) : Prop where
  init : next.init = state.init
  ssrc : next.ssrc = state.ssrc
  seqnr : next.seqnr = state.seqnr + UInt16.ofNat requests.length
  timestamp : next.timestamp = state.timestamp + time
  numpackets : next.numpackets = state.numpackets + UInt32.ofNat requests.length
  numpayloadbytes : next.numpayloadbytes = state.numpayloadbytes + UInt32.ofNat (octets requests)

theorem Quiet.advanced {self next : RTPPacketBuilder Time} {pause : UInt32}
    (quiet : self.Quiet pause next) : self.Advanced [] pause next :=
  { init := quiet.init
    ssrc := quiet.ssrc
    seqnr := quiet.seqnr.trans (UInt16.add_zero _).symm
    timestamp := quiet.timestamp
    numpackets := quiet.numpackets.trans (UInt32.add_zero _).symm
    numpayloadbytes := quiet.numpayloadbytes.trans (UInt32.add_zero _).symm }

theorem Builds.advanced {self next : RTPPacketBuilder Time} {request : BuildRequest}
    (builds : self.Builds request next) :
    self.Advanced [request] request.timestampinc next := by
  obtain ⟨packet, now, packetEq, rfl⟩ := builds.counted
  have members := (buildPacket_eq_ok_iff.mp packetEq).2
  have noted : (self.noteWallClock now).init = self.init ∧
      (self.noteWallClock now).ssrc = self.ssrc := by
    unfold noteWallClock
    split
    · exact ⟨rfl, rfl⟩
    · split
      · exact ⟨rfl, rfl⟩
      · exact ⟨rfl, rfl⟩
  have lengthEq : packet.members.payloadlength = octets [request] := by
    rw [members]
    rfl
  exact
    { init := noted.1
      ssrc := noted.2
      seqnr := rfl
      timestamp := rfl
      numpackets := rfl
      numpayloadbytes := by
        change self.numpayloadbytes + UInt32.ofNat packet.members.payloadlength = _
        rw [lengthEq] }

theorem Advanced.trans {self middle next : RTPPacketBuilder Time}
    {first second : List BuildRequest} {before later : UInt32}
    (advanced : self.Advanced first before middle) (more : middle.Advanced second later next) :
    self.Advanced (first ++ second) (before + later) next :=
  { init := more.init.trans advanced.init
    ssrc := more.ssrc.trans advanced.ssrc
    seqnr := by
      rw [more.seqnr, advanced.seqnr, List.length_append, UInt16.ofNat_add, UInt16.add_assoc]
    timestamp := by rw [more.timestamp, advanced.timestamp, UInt32.add_assoc]
    numpackets := by
      rw [more.numpackets, advanced.numpackets, List.length_append, UInt32.ofNat_add,
        UInt32.add_assoc]
    numpayloadbytes := by
      rw [more.numpayloadbytes, advanced.numpayloadbytes, octets, octets, octets, List.map_append,
        List.sum_append, UInt32.ofNat_add, UInt32.add_assoc] }

theorem advanced_step (self : RTPPacketBuilder Time) {call : Call Time}
    (keeps : call.KeepsSource) :
    self.Advanced (self.effect call).1 (self.effect call).2 (self.step call) := by
  unfold effect step
  cases outcome : self.perform call with
  | error error => exact self.quiet_self.advanced
  | ok next =>
      cases asked : call.request self with
      | none => exact (quiet_of_perform keeps asked outcome).advanced
      | some request => exact (builds_of_perform asked outcome).advanced

theorem advanced_after (self : RTPPacketBuilder Time) {calls : List (Call Time)}
    (keeps : ∀ call, call ∈ calls → call.KeepsSource) :
    self.Advanced (self.built calls) (self.elapsed calls) (self.after calls) := by
  induction calls generalizing self with
  | nil => exact self.quiet_self.advanced
  | cons call rest ih =>
      have first := self.advanced_step (keeps call List.mem_cons_self)
      have later := ih (self.step call) fun other member =>
        keeps other (List.mem_cons_of_mem call member)
      exact first.trans later

structure Announces (parsed : RTPPacket) (memory : Memory) (state : RTPPacketBuilder Time)
    (index : Nat) (time : UInt32) (request : BuildRequest) : Prop where
  extseqnr : parsed.extseqnr = (state.seqnr.toNat + index) % 65536
  timestamp : parsed.timestamp = (state.timestamp + time).toNat
  ssrc : parsed.ssrc = state.ssrc.toNat
  hasmarker : parsed.hasmarker = request.mark
  payloadtype : parsed.payloadtype = request.pt.toNat
  payload : read memory parsed.payload parsed.payloadlength = read request.data 0 request.len

theorem getPacket_of_builds {self next : RTPPacketBuilder Time} {request : BuildRequest}
    (builds : self.Builds request next) (small : request.len < 2147483648) :
    next.getPacket = (self.packetArgs request).bytes ∧
      Buildable (self.packetArgs request) self.maxpacksize := by
  have nextInit := builds.advanced.init.trans builds.isInit
  obtain ⟨packet, now, packetEq, rfl⟩ := builds.counted
  obtain ⟨buildable, rfl⟩ := buildPacket_eq_ok_iff.mp packetEq
  refine ⟨?_, buildable⟩
  rw [getPacket, nextInit]
  change read ((self.packetArgs request).write self.buffer) 0
    (self.packetArgs request).packetlength = _
  rw [(self.packetArgs request).packetlength_eq small]
  exact (self.packetArgs request).written_write self.buffer

/-- The packets of a run between two changes of the source identifier carry successive
sequence numbers and the time that has passed, however many calls failed in between; the
counters of the sender report follow them. -/
theorem announces_after {self : RTPPacketBuilder Time} {calls : List (Call Time)}
    (keeps : ∀ call, call ∈ calls → call.KeepsSource) {call : Call Time}
    {request : BuildRequest} (asked : call.request (self.after calls) = some request)
    (small : request.len < 2147483648) {next : RTPPacketBuilder Time}
    (success : (self.after calls).perform call = .ok next) {memory : Memory}
    (arrived : Written memory next.getPacket) :
    (∃ parsed, parseRawPacket memory next.getPacket.length = some parsed ∧
        Announces parsed memory self (self.built calls).length (self.elapsed calls) request) ∧
      next.getPacketCount = self.numpackets + UInt32.ofNat ((self.built calls).length + 1) ∧
      next.getPayloadOctetCount =
        self.numpayloadbytes + UInt32.ofNat (octets (self.built calls) + request.len) := by
  have before := self.advanced_after keeps
  have builds := builds_of_perform asked success
  have total := before.trans builds.advanced
  have nextInit : next.init = true := builds.advanced.init.trans builds.isInit
  obtain ⟨bytesEq, buildable⟩ := getPacket_of_builds builds small
  rw [bytesEq] at arrived ⊢
  have carried : ((self.after calls).packetArgs request).Carried memory :=
    { few := buildable.few, sevenBits := buildable.sevenBits, written := arrived }
  obtain ⟨parsed, parsedEq, denotes, _⟩ := denotes_of_carried carried buildable.notReport small
  refine ⟨⟨parsed, parsedEq, ?_⟩, ?_, ?_⟩
  · exact
      { extseqnr := by
          rw [denotes.extseqnr]
          change (self.after calls).seqnr.toNat = _
          rw [before.seqnr, UInt16.toNat_add, UInt16.toNat_ofNat']
          omega
        timestamp := by
          rw [denotes.timestamp]
          exact congrArg UInt32.toNat before.timestamp
        ssrc := by
          rw [denotes.ssrc]
          exact congrArg UInt32.toNat before.ssrc
        hasmarker := denotes.hasmarker
        payloadtype := denotes.payloadtype
        payload := denotes.payload }
  · rw [getPacketCount, nextInit, total.numpackets, List.length_append]
    rfl
  · rw [getPayloadOctetCount, nextInit, total.numpayloadbytes, octets, List.map_append,
      List.sum_append]
    rfl

def aboutToWrap : RTPPacketBuilder Nat :=
  { init := true, maxpacksize := 1400, buffer := fun _ => 0, packetlength := 0
    numpayloadbytes := 0, numpackets := 0, ssrc := 7, timestamp := 4294964296, seqnr := 65535
    defaulttimestampinc := 3000, defaultpayloadtype := 96, defaultmark := true, deftsset := true
    defptset := true, defmarkset := true, csrcs := [], lastwallclocktime := 0
    lastrtptimestamp := 0, prevrtptimestamp := 0 }

/-- The second packet of a run with a call that fails in between. -/
theorem announces_after_wrapped :
    let calls : List (Call Nat) :=
      [.buildPacketDefault (ofBytes [0x65]) 1 0, .buildPacket (fun _ => 0) 1 72 true 9 1]
    let call : Call Nat := .buildPacketDefault (ofBytes [0x41]) 1 2
    ∃ next parsed, (aboutToWrap.after calls).perform call = .ok next ∧
      parseRawPacket (ofBytes next.getPacket) next.getPacket.length = some parsed ∧
      parsed.extseqnr = 0 ∧ parsed.timestamp = 0 := by
  intro calls call
  have keeps : ∀ call, call ∈ calls → call.KeepsSource := by
    intro other member
    rcases List.mem_cons.mp member with rfl | member
    · trivial
    · rw [List.mem_singleton.mp member]
      trivial
  have asked : call.request (aboutToWrap.after calls) =
      some ((aboutToWrap.after calls).defaultRequest (ofBytes [0x41]) 1 none) := rfl
  have small : ((aboutToWrap.after calls).defaultRequest (ofBytes [0x41]) 1 none).len <
      2147483648 := by
    change 1 < 2147483648
    decide
  have success : (aboutToWrap.after calls).perform call = .ok
      ((aboutToWrap.after calls).step call) := rfl
  obtain ⟨⟨parsed, parsedEq, announces⟩, _⟩ := announces_after keeps asked small success
    (written_ofBytes _)
  have counted : (aboutToWrap.built calls).length = 1 := rfl
  have passed : aboutToWrap.elapsed calls = 3000 := rfl
  refine ⟨_, parsed, success, parsedEq, announces.extseqnr.trans ?_, announces.timestamp.trans ?_⟩
  · rw [counted]
    rfl
  · rw [passed]
    rfl

/-! ### The contributing sources -/

def sourcesStep : Option (Finset UInt32) → Call Time → Option (Finset UInt32)
  | none, .initWith max _ _ => if max = 0 then none else some ∅
  | some _, .destroy => none
  | some sources, .addCSRC csrc =>
      some (if sources.card < rtpMaxCSRCs then insert csrc sources else sources)
  | some sources, .deleteCSRC csrc => some (sources.erase csrc)
  | some _, .clearCSRCList => some ∅
  | sources, _ => sources

structure Lists (state : RTPPacketBuilder Time) (sources : Finset UInt32) : Prop where
  isInit : state.init = true
  nodup : state.csrcs.Nodup
  members : state.csrcs.toFinset = sources
  few : state.csrcs.length ≤ rtpMaxCSRCs

def Represents (state : RTPPacketBuilder Time) : Option (Finset UInt32) → Prop
  | none => state.init = false
  | some sources => state.Lists sources

theorem Lists.card {state : RTPPacketBuilder Time} {sources : Finset UInt32}
    (lists : state.Lists sources) : sources.card = state.csrcs.length := by
  rw [← lists.members]
  exact List.toFinset_card_of_nodup lists.nodup

theorem moved_perm {front back : List UInt32} {csrc : UInt32} (isFirst : csrc ∉ front) :
    let csrcs := front ++ csrc :: back
    let index := csrcs.idxOf csrc
    let numcsrcs := csrcs.length - 1
    List.Perm
      ((if 0 < numcsrcs ∧ numcsrcs ≠ index then csrcs.set index (csrcs.getD numcsrcs 0)
        else csrcs).take numcsrcs)
      (front ++ back) := by
  intro csrcs index numcsrcs
  have indexEq : index = front.length := by
    change (front ++ csrc :: back).idxOf csrc = front.length
    rw [List.idxOf_append_of_notMem isFirst, List.idxOf_cons_self, Nat.add_zero]
  have lengthEq : csrcs.length = front.length + (back.length + 1) := by
    rw [List.length_append, List.length_cons]
  rcases List.eq_nil_or_concat back with rfl | ⟨middle, last, rfl⟩
  · have countEq : numcsrcs = front.length := by
      rw [List.length_nil] at lengthEq
      omega
    rw [if_neg (fun both => both.2 (countEq.trans indexEq.symm)), countEq, List.append_nil,
      List.take_left]
  · rw [List.length_concat] at lengthEq
    have countEq : numcsrcs = (front ++ csrc :: middle).length := by
      rw [List.length_append, List.length_cons]
      omega
    have shape : csrcs = (front ++ csrc :: middle) ++ [last] := by
      change front ++ csrc :: middle.concat last = _
      rw [List.concat_eq_append, List.append_assoc, List.cons_append]
    have lastEq : csrcs.getD numcsrcs 0 = last := by
      rw [shape, countEq, List.getD_append_right _ _ _ _ (Nat.le_refl _), Nat.sub_self]
      rfl
    have setEq : csrcs.set index last = (front ++ last :: middle) ++ [last] := by
      change (front ++ csrc :: middle.concat last).set index last = _
      rw [indexEq, List.set_append_right _ _ (Nat.le_refl _), Nat.sub_self, List.set_cons_zero,
        List.concat_eq_append, List.append_assoc, List.cons_append]
    have sameLength : (front ++ csrc :: middle).length = (front ++ last :: middle).length := by
      simp only [List.length_append, List.length_cons]
    have moves : 0 < numcsrcs ∧ numcsrcs ≠ index := by
      rw [List.length_append, List.length_cons] at countEq
      omega
    rw [if_pos moves, lastEq, setEq, countEq, sameLength, List.take_left, List.concat_eq_append]
    apply List.Perm.append_left
    exact (List.perm_append_singleton last middle).symm

theorem deleteCSRC_of_mem {self : RTPPacketBuilder Time} (isInit : self.init = true)
    {csrc : UInt32} (member : csrc ∈ self.csrcs) :
    ∃ rest, self.deleteCSRC csrc = .ok { self with csrcs := rest } ∧
      rest.Perm (self.csrcs.erase csrc) := by
  obtain ⟨front, back, shape, isFirst⟩ := List.eq_append_cons_of_mem member
  have found : ¬ self.csrcs.idxOf csrc = self.csrcs.length :=
    Nat.ne_of_lt (List.idxOf_lt_length_of_mem member)
  refine ⟨_, by simp only [deleteCSRC, isInit, Bool.not_true, Bool.false_eq_true, if_false,
    if_neg found]; rfl, ?_⟩
  rw [shape, List.erase_append_right _ isFirst, List.erase_cons_head]
  exact moved_perm isFirst

theorem deleteCSRC_of_not_mem {self : RTPPacketBuilder Time} (isInit : self.init = true)
    {csrc : UInt32} (missing : csrc ∉ self.csrcs) :
    self.deleteCSRC csrc = .error .csrcNotInList := by
  simp only [deleteCSRC, isInit, Bool.not_true, Bool.false_eq_true, if_false,
    List.idxOf_eq_length missing, if_true]

def Call.LeavesSources : Call Time → Prop
  | .initWith _ _ _ | .destroy | .addCSRC _ | .deleteCSRC _ | .clearCSRCList => False
  | _ => True

theorem countPacket_sources (self : RTPPacketBuilder Time) (packet : Built)
    (timestampinc : UInt32) (now : Time) :
    (self.countPacket packet timestampinc now).csrcs = self.csrcs := by
  change (self.noteWallClock now).csrcs = self.csrcs
  unfold noteWallClock
  split
  · rfl
  · split
    · rfl
    · rfl

theorem Builds.sources {self next : RTPPacketBuilder Time} {request : BuildRequest}
    (builds : self.Builds request next) :
    next.init = self.init ∧ next.csrcs = self.csrcs := by
  refine ⟨builds.advanced.init, ?_⟩
  obtain ⟨packet, now, _, rfl⟩ := builds.counted
  exact self.countPacket_sources packet request.timestampinc now

theorem sources_of_perform {self next : RTPPacketBuilder Time} {call : Call Time}
    (leaves : call.LeavesSources) (success : self.perform call = .ok next) :
    next.init = self.init ∧ next.csrcs = self.csrcs := by
  have same {pause : UInt32} (quiet : self.Quiet pause next ∧ next.csrcs = self.csrcs) :
      next.init = self.init ∧ next.csrcs = self.csrcs := ⟨quiet.1.init, quiet.2⟩
  cases asked : call.request self with
  | some request => exact (builds_of_perform asked success).sources
  | none =>
      cases call with
      | initWith max fresh random => exact leaves.elim
      | destroy => exact leaves.elim
      | addCSRC csrc => exact leaves.elim
      | deleteCSRC csrc => exact leaves.elim
      | clearCSRCList => exact leaves.elim
      | createNewSSRC random =>
          cases success
          exact ⟨rfl, rfl⟩
      | adjustSSRC ssrc =>
          cases success
          exact ⟨rfl, rfl⟩
      | setMaximumPacketSize max fresh => exact same (quiet_of_tunes success trivial)
      | setDefaultPayloadType pt => exact same (quiet_of_tunes success trivial)
      | setDefaultMark mark => exact same (quiet_of_tunes success trivial)
      | setDefaultTimestampIncrement timestampinc => exact same (quiet_of_tunes success trivial)
      | incrementTimestamp inc => exact same (quiet_of_tunes success trivial)
      | incrementTimestampDefault => exact same (quiet_of_tunes success trivial)
      | _ => cases asked

theorem sources_step (self : RTPPacketBuilder Time) {call : Call Time}
    (leaves : call.LeavesSources) :
    (self.step call).init = self.init ∧ (self.step call).csrcs = self.csrcs := by
  unfold step
  cases outcome : self.perform call with
  | error error => exact ⟨rfl, rfl⟩
  | ok next => exact sources_of_perform leaves outcome

theorem Lists.of_same {self next : RTPPacketBuilder Time} {sources : Finset UInt32}
    (lists : self.Lists sources) (same : next.init = self.init ∧ next.csrcs = self.csrcs) :
    next.Lists sources :=
  { isInit := same.1.trans lists.isInit
    nodup := by
      rw [same.2]
      exact lists.nodup
    members := by
      rw [same.2]
      exact lists.members
    few := by
      rw [same.2]
      exact lists.few }

theorem lists_addCSRC {self : RTPPacketBuilder Time} {sources : Finset UInt32}
    (lists : self.Lists sources) (csrc : UInt32) :
    (self.step (.addCSRC csrc)).Lists
      (if sources.card < rtpMaxCSRCs then insert csrc sources else sources) := by
  have added : self.addCSRC csrc =
      if rtpMaxCSRCs ≤ sources.card then .error .csrcListFull
      else if csrc ∈ self.csrcs then .error .csrcAlreadyInList
      else .ok { self with csrcs := self.csrcs ++ [csrc] } := by
    rw [addCSRC, lists.isInit, lists.card]
    rfl
  have memberIff : csrc ∈ self.csrcs ↔ csrc ∈ sources := by
    rw [← lists.members, List.mem_toFinset]
  rw [step, perform, added]
  by_cases full : rtpMaxCSRCs ≤ sources.card
  · rw [if_pos full, if_neg (Nat.not_lt.mpr full)]
    exact lists
  · rw [if_neg full, if_pos (Nat.lt_of_not_le full)]
    by_cases known : csrc ∈ self.csrcs
    · rw [if_pos known, Finset.insert_eq_of_mem (memberIff.mp known)]
      exact lists
    · rw [if_neg known]
      exact
        { isInit := lists.isInit
          nodup := List.nodup_append_comm.mp (List.nodup_cons.mpr ⟨known, lists.nodup⟩)
          members := by
            rw [← lists.members, List.toFinset_append, Finset.union_comm]
            rfl
          few := by
            rw [List.length_append, List.length_singleton, ← lists.card]
            exact Nat.lt_of_not_le full }

theorem lists_deleteCSRC {self : RTPPacketBuilder Time} {sources : Finset UInt32}
    (lists : self.Lists sources) (csrc : UInt32) :
    (self.step (.deleteCSRC csrc)).Lists (sources.erase csrc) := by
  by_cases known : csrc ∈ self.csrcs
  · obtain ⟨rest, deleted, perm⟩ := deleteCSRC_of_mem lists.isInit known
    have stepEq : self.step (.deleteCSRC csrc) = { self with csrcs := rest } := by
      rw [step, perform, deleted]
    rw [stepEq]
    exact
      { isInit := lists.isInit
        nodup := perm.nodup_iff.mpr (lists.nodup.erase csrc)
        members := by
          rw [List.toFinset_eq_of_perm _ _ perm, ← lists.members]
          ext source
          rw [List.mem_toFinset, lists.nodup.mem_erase_iff, Finset.mem_erase, List.mem_toFinset]
        few := by
          apply Nat.le_trans _ lists.few
          exact perm.length_eq.trans_le List.length_erase_le }
  · have stepEq : self.step (.deleteCSRC csrc) = self := by
      rw [step, perform, deleteCSRC_of_not_mem lists.isInit known]
    have missing : csrc ∉ sources := by
      rw [← lists.members]
      exact fun member => known (List.mem_toFinset.mp member)
    rw [stepEq, Finset.erase_eq_of_notMem missing]
    exact lists

theorem represents_step {self : RTPPacketBuilder Time} {sources : Option (Finset UInt32)}
    (represents : self.Represents sources) (call : Call Time) :
    (self.step call).Represents (sourcesStep sources call) := by
  cases sources with
  | none =>
      have idle : self.init = false := represents
      cases call with
      | initWith max fresh random =>
          rw [step, perform, initWith, idle, sourcesStep]
          by_cases empty : max = 0
          · rw [if_pos empty, if_pos empty]
            exact idle
          · rw [if_neg empty, if_neg empty]
            exact { isInit := rfl, nodup := List.nodup_nil, members := rfl, few := Nat.zero_le _ }
      | destroy => rfl
      | addCSRC csrc =>
          rw [step, perform, addCSRC, idle]
          exact idle
      | deleteCSRC csrc =>
          rw [step, perform, deleteCSRC, idle]
          exact idle
      | clearCSRCList =>
          rw [step, perform, clearCSRCList, idle]
          exact idle
      | _ => exact ((sources_step self (by trivial)).1).trans idle
  | some sources =>
      have lists : self.Lists sources := represents
      cases call with
      | initWith max fresh random =>
          rw [step, perform, initWith, lists.isInit]
          exact lists
      | destroy => rfl
      | addCSRC csrc => exact lists_addCSRC lists csrc
      | deleteCSRC csrc => exact lists_deleteCSRC lists csrc
      | clearCSRCList =>
          have stepEq : self.step .clearCSRCList = { self with csrcs := [] } := by
            rw [step, perform, clearCSRCList, lists.isInit]
            rfl
          rw [stepEq]
          exact
            { isInit := lists.isInit, nodup := List.nodup_nil, members := rfl
              few := Nat.zero_le _ }
      | _ => exact lists.of_same (sources_step self (by trivial))

theorem represents_after {self : RTPPacketBuilder Time} {sources : Option (Finset UInt32)}
    (represents : self.Represents sources) (calls : List (Call Time)) :
    (self.after calls).Represents (calls.foldl sourcesStep sources) := by
  induction calls generalizing self sources with
  | nil => exact represents
  | cons call rest ih => exact ih (represents_step represents call)

/-- The packets of any run from a new builder name the sources that its calls have added and
not deleted since, each of them once. -/
theorem names_sources {self : RTPPacketBuilder Time} (idle : self.init = false)
    (calls : List (Call Time)) {call : Call Time} {request : BuildRequest}
    (asked : call.request (self.after calls) = some request)
    (small : request.len < 2147483648) {next : RTPPacketBuilder Time}
    (success : (self.after calls).perform call = .ok next) {memory : Memory}
    (arrived : Written memory next.getPacket) :
    ∃ sources parsed, calls.foldl sourcesStep none = some sources ∧
      parseRawPacket memory next.getPacket.length = some parsed ∧
      parsed.numcsrcs = sources.card ∧
      ∀ source : UInt32, source ∈ sources ↔
        ∃ index, index < parsed.numcsrcs ∧ parsed.getCSRC memory index = source.toNat := by
  have unused : self.Represents none := idle
  have represents := represents_after unused calls
  have builds := builds_of_perform asked success
  obtain ⟨bytesEq, buildable⟩ := getPacket_of_builds builds small
  rw [bytesEq] at arrived ⊢
  have carried : ((self.after calls).packetArgs request).Carried memory :=
    { few := buildable.few, sevenBits := buildable.sevenBits, written := arrived }
  obtain ⟨parsed, parsedEq, denotes, _⟩ := denotes_of_carried carried buildable.notReport small
  cases named : calls.foldl sourcesStep none with
  | none =>
      rw [named] at represents
      exact (Bool.false_ne_true (represents.symm.trans builds.isInit)).elim
  | some sources =>
      rw [named] at represents
      have lists : (self.after calls).Lists sources := represents
      have countEq : ((self.after calls).packetArgs request).numcsrcs.toNat =
          (self.after calls).csrcs.length := by
        have few : (self.after calls).csrcs.length ≤ 15 := lists.few
        change (UInt8.ofNat (self.after calls).csrcs.length).toNat = _
        rw [UInt8.toNat_ofNat']
        omega
      refine ⟨sources, parsed, rfl, parsedEq, ?_, ?_⟩
      · rw [denotes.numcsrcs, countEq, lists.card]
      · intro source
        rw [← lists.members, List.mem_toFinset, denotes.numcsrcs, List.mem_iff_getElem]
        constructor
        · rintro ⟨index, inside, rfl⟩
          have inRange := countEq.symm ▸ inside
          refine ⟨index, inRange, (denotes.csrcs index inRange).trans ?_⟩
          exact congrArg UInt32.toNat (List.getD_eq_getElem _ _ inside)
        · rintro ⟨index, inRange, readEq⟩
          have inside : index < (self.after calls).csrcs.length := countEq ▸ inRange
          refine ⟨index, inside, ?_⟩
          apply UInt32.toNat_inj.mp
          rw [← readEq, denotes.csrcs index inRange]
          exact congrArg UInt32.toNat (List.getD_eq_getElem _ _ inside).symm

/-- Two sources are added, and the first is deleted again. -/
theorem names_sources_moved :
    let calls : List (Call Nat) :=
      [.initWith 1400 (fun _ => 0) { ssrc := 7, timestamp := 0, seqnr := 1 }, .addCSRC 11,
        .addCSRC 12, .deleteCSRC 11]
    let idle : RTPPacketBuilder Nat := { aboutToWrap with init := false }
    let call : Call Nat := .buildPacket (ofBytes [0x65]) 1 96 true 3000 0
    ∃ next sources parsed, (idle.after calls).perform call = .ok next ∧
      calls.foldl sourcesStep none = some sources ∧
      parseRawPacket (ofBytes next.getPacket) next.getPacket.length = some parsed ∧
      parsed.numcsrcs = sources.card := by
  intro calls idle call
  let settled : RTPPacketBuilder Nat :=
    { aboutToWrap with
      timestamp := 0, seqnr := 1, deftsset := false, defptset := false, defmarkset := false
      csrcs := [12] }
  have runEq : idle.after calls = settled := by
    simp [calls, idle, settled, after, step, perform, initWith, addCSRC, deleteCSRC,
      createNewSSRC, aboutToWrap, rtpMaxCSRCs]
  have success : (idle.after calls).perform call = .ok (settled.step call) := by
    rw [runEq]
    rfl
  have asked : call.request (idle.after calls) =
      some
        { data := ofBytes [0x65], len := 1, pt := 96, mark := true, timestampinc := 3000
          extension := none } := rfl
  have small : 1 < 2147483648 := by decide
  obtain ⟨sources, parsed, named, parsedEq, countEq, _⟩ :=
    names_sources rfl calls asked small success (written_ofBytes _)
  exact ⟨_, sources, parsed, success, named, parsedEq, countEq⟩

end RTPPacketBuilder

end DShowCapture.Jrtplib
