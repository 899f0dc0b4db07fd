/-
What the decoder object is for: turning packets into access units.

The receiver keeps an assembly and whether a key frame was seen.  A packet with the
marker bit completes the access unit; whether the completed unit counts as a key frame is
an input of the step, since the scanner that decides it is a component of its own.
-/
import DShowCapture.Carriage

namespace DShowCapture

structure Packet where
  payload : Payload
  marker : Bool

inductive Outcome
  /-- The packet was rejected and a key frame requested. -/
  | rejected
  /-- The access unit goes on. -/
  | waiting
  /-- The access unit ended without a NAL unit. -/
  | nothing
  /-- The access unit ended before the first key frame. -/
  | withheld
  /-- The access unit was handed over. -/
  | delivered (nals : List (List UInt8))
  deriving DecidableEq, Repr

structure Receiver where
  assembly : Assembly
  haveKey : Bool
  deriving DecidableEq, Repr

namespace Receiver

def new : Receiver := { assembly := Assembly.empty, haveKey := false }

def complete (self : Receiver) (nals : List (List UInt8)) (key : Bool) :
    Receiver × Outcome :=
  if nals = [] then ({ self with assembly := Assembly.empty }, .nothing)
  else if !key && !self.haveKey then ({ self with assembly := Assembly.empty }, .withheld)
  else ({ assembly := Assembly.empty, haveKey := self.haveKey || key }, .delivered nals)

/-- One packet; `key` tells whether the access unit that it may complete is a key frame. -/
def step (self : Receiver) (packet : Packet) (key : Bool) : Receiver × Outcome :=
  match self.assembly.receive packet.payload with
  | none => ({ self with assembly := Assembly.empty }, .rejected)
  | some next =>
      if packet.marker then self.complete next.nals key
      else ({ self with assembly := next }, .waiting)

/-- A sequence parameter set at the beginning of an access unit makes it a key frame. -/
def KeyRule (self : Receiver) (packet : Packet) (key : Bool) : Prop :=
  ∀ next nal rest, self.assembly.receive packet.payload = some next →
    next.nals = nal :: rest → nal.headD 0 &&& 0x1f = 7 → key = true

inductive Runs : Receiver → List Packet → List Outcome → Receiver → Prop
  | nil (receiver : Receiver) : Runs receiver [] [] receiver
  | cons {receiver final : Receiver} {packet : Packet} {packets : List Packet}
      {outcomes : List Outcome} (key : Bool) (rule : receiver.KeyRule packet key)
      (later : Runs (receiver.step packet key).1 packets outcomes final) :
      Runs receiver (packet :: packets) ((receiver.step packet key).2 :: outcomes) final

end Receiver

def markLast (marker : Bool) : List Payload → List Packet
  | [] => []
  | [payload] => [{ payload := payload, marker := marker }]
  | payload :: next :: rest =>
      { payload := payload, marker := false } :: markLast marker (next :: rest)

def Assembly.after (self : Assembly) (packet : Packet) : Assembly :=
  match self.receive packet.payload with
  | none => Assembly.empty
  | some next => if packet.marker then Assembly.empty else next

namespace Receiver

theorem assembly_step (receiver : Receiver) (packet : Packet) (key : Bool) :
    (receiver.step packet key).1.assembly =
      match receiver.assembly.receive packet.payload with
      | none => Assembly.empty
      | some next => if packet.marker then Assembly.empty else next := by
  unfold step
  cases receiver.assembly.receive packet.payload with
  | none => rfl
  | some next =>
      cases packet.marker with
      | false => rfl
      | true =>
          simp only [if_true, complete]
          split
          · rfl
          · split <;> rfl

theorem delivered_step {receiver : Receiver} {packet : Packet} {key : Bool}
    {nals : List (List UInt8)} (delivered : (receiver.step packet key).2 = .delivered nals) :
    packet.marker = true ∧
      ∃ next, receiver.assembly.receive packet.payload = some next ∧ next.nals = nals := by
  unfold step at delivered
  cases receivedEq : receiver.assembly.receive packet.payload with
  | none =>
      rw [receivedEq] at delivered
      cases delivered
  | some next =>
      simp only [receivedEq] at delivered
      cases marked : packet.marker with
      | false =>
          simp only [marked, Bool.false_eq_true, if_false] at delivered
          cases delivered
      | true =>
          refine ⟨rfl, next, rfl, ?_⟩
          simp only [marked, if_true, complete] at delivered
          split at delivered
          · cases delivered
          · split at delivered
            · cases delivered
            · exact Outcome.delivered.inj delivered

theorem step_rejected {receiver : Receiver} {packet : Packet} (key : Bool)
    (refused : receiver.assembly.receive packet.payload = none) :
    receiver.step packet key = ({ receiver with assembly := Assembly.empty }, .rejected) := by
  rw [step, refused]

theorem step_waiting {receiver : Receiver} {payload : Payload} {next : Assembly} (key : Bool)
    (received : receiver.assembly.receive payload = some next) :
    receiver.step { payload := payload, marker := false } key =
      ({ receiver with assembly := next }, .waiting) := by
  simp [step, received]

/-- The last packet of an access unit hands it over when the gate is open. -/
theorem step_delivered {receiver : Receiver} {payload : Payload} {next : Assembly} {key : Bool}
    (received : receiver.assembly.receive payload = some next) (filled : next.nals ≠ [])
    (opened : receiver.haveKey = true ∨ key = true) :
    receiver.step { payload := payload, marker := true } key =
      ({ assembly := Assembly.empty, haveKey := true }, .delivered next.nals) := by
  rcases opened with opened | opened <;>
    simp [step, received, complete, filled, opened]

/-- An access unit of which every payload is accepted is handed over with its last packet,
provided that the receiver has seen a key frame or sees one now. -/
theorem Runs.accessUnit {receiver final : Receiver} {payloads : List Payload}
    {rest : List Packet} {outcomes : List Outcome} (someNALs : payloads ≠ [])
    (runs : Runs receiver (markLast true payloads ++ rest) outcomes final) {whole : Assembly}
    (received : receiver.assembly.receiveAll payloads = some whole) (filled : whole.nals ≠ [])
    (opens : receiver.haveKey = true ∨ ∃ nal others, whole.nals = nal :: others ∧
      nal.headD 0 &&& 0x1f = 7) :
    ∃ later,
      outcomes = List.replicate (payloads.length - 1) .waiting ++ .delivered whole.nals :: later ∧
        Runs { assembly := Assembly.empty, haveKey := true } rest later final := by
  induction payloads generalizing receiver outcomes with
  | nil => exact absurd rfl someNALs
  | cons payload payloads ih =>
      rw [Assembly.receiveAll, Option.bind_eq_some_iff] at received
      rcases received with ⟨next, receivedHere, receivedLater⟩
      cases payloads with
      | nil =>
          cases receivedLater
          rw [markLast, List.singleton_append] at runs
          cases runs with
          | cons key rule later =>
              have opened : receiver.haveKey = true ∨ key = true := by
                rcases opens with haveKey | ⟨nal, others, nalsEq, sps⟩
                · exact Or.inl haveKey
                · exact Or.inr (rule whole nal others receivedHere nalsEq sps)
              rw [step_delivered receivedHere filled opened] at later ⊢
              exact ⟨_, rfl, later⟩
      | cons following payloads =>
          rw [markLast, List.cons_append] at runs
          cases runs with
          | cons key rule later =>
              rw [step_waiting key receivedHere] at later ⊢
              obtain ⟨outcomesLater, outcomesEq, runsLater⟩ :=
                ih (List.cons_ne_nil following payloads) later receivedLater opens
              refine ⟨outcomesLater, ?_, runsLater⟩
              rw [outcomesEq]
              rfl

end Receiver

end DShowCapture
