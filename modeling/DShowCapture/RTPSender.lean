/-
The sending loop of `jrtp/rtp_sender.cpp`.

`RTPSession::SendPacket` is the boundary of the model: the loop returns the arguments
of its calls.  The clock is a sequence of readings, one for each `getCurrentTime`.
-/
import DShowCapture.H264Rtp

namespace DShowCapture

open ByteMemory FixedWidth Logged

def u64 (value : Int) : Nat := (value % 18446744073709551616).toNat

structure RTPSender where
  h264Rtp : CH264EncodeRtp
  lastTime : Nat
  /-- The number of clock readings taken so far. -/
  readings : Nat

structure SentPacket where
  payload : List UInt8
  payloadType : Nat
  mark : Bool
  timestampInc : Int
  deriving DecidableEq, Repr

namespace RTPSender

def getCurrentTime (clock : Nat → Int) (self : RTPSender) : Int × RTPSender :=
  (clock self.readings, { self with readings := self.readings + 1 })

structure SendRound where
  self : RTPSender
  sent : List SentPacket
  done : Bool

/-- The branch of the round that a successful `EncodeFrames` takes: the time stamp
increment is computed, and the payload behind the header goes to the session. -/
def sendEncoded (clock : Nat → Int) (self : RTPSender)
    (encoded : CH264EncodeRtp.EncodeResult) : SendRound :=
  let endFrameMark := encoded.flags.lastFrame
  let self :=
    if self.lastTime = 0 then
      let reading := self.getCurrentTime clock
      { reading.2 with lastTime := u64 reading.1 }
    else self
  let reading := self.getCurrentTime clock
  let timestampInc : Int := if endFrameMark then i32 (reading.1 - self.lastTime) else 0
  let self :=
    if endFrameMark then { reading.2 with lastTime := u64 (self.lastTime + timestampInc) }
    else self
  let packet : SentPacket :=
    { payload := read encoded.dst 12 (u32 (encoded.dstLen - 12))
      payloadType := 96
      mark := endFrameMark
      timestampInc := timestampInc }
  { self := self, sent := [packet], done := endFrameMark }

def sendRound (clock : Nat → Int) (self : RTPSender) (h264buf : Memory) (buflen : Nat) :
    SendRound :=
  let encoded := (self.h264Rtp.encodeFrames h264buf buflen (fun _ => 0) 1212).value
  let self := { self with h264Rtp := encoded.self }
  if encoded.returned then self.sendEncoded clock encoded
  else { self := self, sent := [], done := false }

/-- `SendH264Nalu`, cut off after `rounds` rounds: nothing when the loop has not ended by
then. -/
def sendH264Nalu (clock : Nat → Int) (h264buf : Memory) (buflen : Nat) :
    Nat → RTPSender → Option (RTPSender × List SentPacket)
  | 0, _ => none
  | rounds + 1, self =>
      let round := self.sendRound clock h264buf buflen
      if round.done then some (round.self, round.sent)
      else
        (sendH264Nalu clock h264buf buflen rounds round.self).map fun rest =>
          (rest.1, round.sent ++ rest.2)

end RTPSender

end DShowCapture
