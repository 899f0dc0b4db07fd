/-
The audio encoder: `AACEncoder::Encode` of `codec/aac_codec.cpp`.

It cuts its input into frames of `size` bytes for the codec library.  The position of the next
frame is a member, so that it outlives the call.  What `avcodec_encode_audio2` makes of each
frame is an argument; positions never exceed `src_len` and are natural numbers.
-/
import DShowCapture.Library.ByteMemory
import DShowCapture.Library.FixedWidth
import DShowCapture.Library.Logged

namespace DShowCapture

open ByteMemory FixedWidth Logged

/-- What `avcodec_encode_audio2` does with a frame: a negative result, or `enc_pkt` if there is
one. -/
inductive CodecAnswer
  | failed
  | accepted (enc_pkt : Option (List UInt8))
  deriving DecidableEq, Repr

/-- A frame as the codec sees it, with the part of `src_buf` that was copied into it. -/
structure Submission where
  start : Nat
  count : Nat
  pts : Int
  data : List UInt8
  deriving DecidableEq, Repr

structure AACEncoder where
  outBuffer : Memory
  size : Nat
  index : Int
  readbytes : Nat
  sizePositive : 0 < size

/-- The arguments of one call of `Encode`, and the codec's answers to the frames of that call. -/
structure EncodeCall where
  src_buf : Option Memory
  src_len : Nat
  dst_buf : Memory
  answers : Nat → CodecAnswer

namespace AACEncoder

def frameCount (self : AACEncoder) (src_len : Nat) : Nat :=
  let left_size := src_len - self.readbytes
  if left_size < self.size then left_size else self.size

/-- `out_buffer` receives the next frame.  Behind a short one it keeps what it held. -/
def fillFrame (self : AACEncoder) (src_buf : Memory) (src_len : Nat) : AACEncoder :=
  { self with
    outBuffer := copy self.outBuffer 0 src_buf self.readbytes (self.frameCount src_len)
    readbytes := self.readbytes + self.frameCount src_len }

def submission (self : AACEncoder) (src_buf : Memory) (src_len : Nat) (pts : Int) :
    Submission :=
  { start := self.readbytes
    count := self.frameCount src_len
    pts := pts
    data := read (self.fillFrame src_buf src_len).outBuffer 0 self.size }

theorem frameCount_eq (self : AACEncoder) (src_len : Nat) :
    self.frameCount src_len = min self.size (src_len - self.readbytes) := by
  unfold frameCount
  dsimp only
  split
  · omega
  · omega

def encodeLoop (self : AACEncoder) (src_buf : Memory) (src_len : Nat) (pts : Int)
    (answers : Nat → CodecAnswer) (frame : Nat) (dst_buf : Memory) (enc_size : Nat) :
    Logged Submission (Int × AACEncoder × Memory) :=
  if self.readbytes < src_len then
    emit (self.submission src_buf src_len pts) >>= fun _ =>
      match answers frame with
      | .failed => pure (-1, self.fillFrame src_buf src_len, dst_buf)
      | .accepted none =>
          encodeLoop (self.fillFrame src_buf src_len) src_buf src_len pts answers (frame + 1)
            dst_buf enc_size
      | .accepted (some enc_pkt) =>
          encodeLoop (self.fillFrame src_buf src_len) src_buf src_len pts answers (frame + 1)
            (store dst_buf enc_size enc_pkt) (enc_size + enc_pkt.length)
  else pure (enc_size, { self with readbytes := 0 }, dst_buf)
termination_by src_len - self.readbytes
decreasing_by
  all_goals
    have positive := self.sizePositive
    have count := self.frameCount_eq src_len
    simp only [fillFrame]
    omega

def encode (self : AACEncoder) (call : EncodeCall) :
    Logged Submission (Int × AACEncoder × Memory) :=
  match call.src_buf with
  | none => pure (-1, self, call.dst_buf)
  | some src_buf =>
      encodeLoop { self with index := i32 (self.index + 1) } src_buf call.src_len self.index
        call.answers 0 call.dst_buf 0

/-! ### What is handed to the codec -/

structure IsSlice (size : Nat) (src_buf : Memory) (src_len frame : Nat)
    (submission : Submission) : Prop where
  start : submission.start = frame * size
  count : submission.count = min size (src_len - frame * size)
  data : submission.data.take submission.count = read src_buf (frame * size) submission.count

/-- The slices from number `frame` on, up to the end of the buffer or to the one that fails. -/
inductive HandsOver (size : Nat) (src_buf : Memory) (src_len : Nat)
    (answers : Nat → CodecAnswer) : Nat → List Submission → Prop
  | finished {frame : Nat} (atEnd : src_len ≤ frame * size) :
      HandsOver size src_buf src_len answers frame []
  | failed {frame : Nat} {submission : Submission} (inside : frame * size < src_len)
      (slice : IsSlice size src_buf src_len frame submission)
      (failure : answers frame = .failed) :
      HandsOver size src_buf src_len answers frame [submission]
  | next {frame : Nat} {submission : Submission} {rest : List Submission}
      (inside : frame * size < src_len)
      (slice : IsSlice size src_buf src_len frame submission)
      (success : answers frame ≠ .failed)
      (later : HandsOver size src_buf src_len answers (frame + 1) rest) :
      HandsOver size src_buf src_len answers frame (submission :: rest)

def EncodesOwn (self : AACEncoder) (call : EncodeCall) : Prop :=
  (match call.src_buf with
    | none => (self.encode call).log = []
    | some src_buf =>
        HandsOver self.size src_buf call.src_len call.answers 0 (self.encode call).log) ∧
    (self.encode call).value.2.1.readbytes = 0

def RunEncodesOwn (self : AACEncoder) : List EncodeCall → Prop
  | [] => True
  | call :: rest =>
      self.EncodesOwn call ∧ RunEncodesOwn (self.encode call).value.2.1 rest

def Succeeds (size : Nat) (call : EncodeCall) : Prop :=
  call.src_buf ≠ none → ∀ frame, frame * size < call.src_len → call.answers frame ≠ .failed

/-! ### The loop -/

section Loop

variable {src_buf : Memory} {src_len : Nat} {pts : Int} {answers : Nat → CodecAnswer}
  {frame : Nat}

def AtFrame (self : AACEncoder) (src_len frame : Nat) : Prop :=
  self.readbytes = min (frame * self.size) src_len

theorem AtFrame.fillFrame {self : AACEncoder} (position : self.AtFrame src_len frame) :
    (self.fillFrame src_buf src_len).AtFrame src_len (frame + 1) := by
  unfold AtFrame at position ⊢
  simp only [AACEncoder.fillFrame, frameCount_eq, Nat.succ_mul]
  omega

theorem AtFrame.inside_iff {self : AACEncoder} (position : self.AtFrame src_len frame) :
    self.readbytes < src_len ↔ frame * self.size < src_len := by
  unfold AtFrame at position
  omega

theorem AtFrame.slice {self : AACEncoder} (position : self.AtFrame src_len frame)
    (inside : frame * self.size < src_len) :
    IsSlice self.size src_buf src_len frame (self.submission src_buf src_len pts) := by
  unfold AtFrame at position
  have start : self.readbytes = frame * self.size := by omega
  have count := self.frameCount_eq src_len
  constructor
  · exact start
  · rw [← start]
    exact count
  · simp only [submission]
    rw [take_read _ _ _ _ (by omega), ← start]
    exact read_copy_self _ _ _ _ _

/-- A frame that the codec takes leads to the next. -/
theorem encodeLoop_next {self : AACEncoder} (src_buf : Memory) (pts : Int)
    (more : self.readbytes < src_len) (success : answers frame ≠ .failed) (dst_buf : Memory)
    (enc_size : Nat) :
    ∃ dst_buf' enc_size',
      encodeLoop self src_buf src_len pts answers frame dst_buf enc_size =
        emit (self.submission src_buf src_len pts) >>= fun _ =>
          encodeLoop (self.fillFrame src_buf src_len) src_buf src_len pts answers (frame + 1)
            dst_buf' enc_size' := by
  rw [encodeLoop, if_pos more]
  cases answer : answers frame with
  | failed => exact absurd answer success
  | accepted enc_pkt =>
      cases enc_pkt with
      | none => exact ⟨dst_buf, enc_size, rfl⟩
      | some enc_pkt => exact ⟨store dst_buf enc_size enc_pkt, enc_size + enc_pkt.length, rfl⟩

theorem encodeLoop_failed {self : AACEncoder} (more : self.readbytes < src_len)
    (failure : answers frame = .failed) (dst_buf : Memory) (enc_size : Nat) :
    encodeLoop self src_buf src_len pts answers frame dst_buf enc_size =
      emit (self.submission src_buf src_len pts) >>= fun _ =>
        pure (-1, self.fillFrame src_buf src_len, dst_buf) := by
  rw [encodeLoop, if_pos more, failure]

/-- From consecutive positions the slices are handed over, and the position ends at zero if and
only if the codec takes them all. -/
theorem encodeLoop_handsOver {self : AACEncoder} (position : self.AtFrame src_len frame)
    (dst_buf : Memory) (enc_size : Nat) :
    HandsOver self.size src_buf src_len answers frame
        (encodeLoop self src_buf src_len pts answers frame dst_buf enc_size).log ∧
      ((encodeLoop self src_buf src_len pts answers frame dst_buf enc_size).value.2.1.readbytes
          = 0 ↔
        ∀ later, frame ≤ later → later * self.size < src_len → answers later ≠ .failed) := by
  induction left : src_len - self.readbytes using Nat.strongRecOn
    generalizing self frame dst_buf enc_size with
  | ind remaining ih =>
      have positive := self.sizePositive
      by_cases more : self.readbytes < src_len
      · have inside := position.inside_iff.mp more
        by_cases failure : answers frame = .failed
        · rw [encodeLoop_failed more failure]
          constructor
          · exact .failed inside (position.slice inside) failure
          · constructor
            · intro reset
              have count := self.frameCount_eq src_len
              simp only [value_bind, value_pure, fillFrame] at reset
              omega
            · intro successes
              exact absurd failure (successes frame (Nat.le_refl frame) inside)
        · obtain ⟨dst_buf', enc_size', step⟩ :=
            encodeLoop_next src_buf pts more failure dst_buf enc_size
          have count := self.frameCount_eq src_len
          obtain ⟨handed, reset⟩ :=
            ih (src_len - (self.fillFrame src_buf src_len).readbytes)
              (by simp only [fillFrame]; omega) (position.fillFrame) dst_buf' enc_size' rfl
          rw [step]
          constructor
          · exact .next inside (position.slice inside) failure handed
          · rw [value_bind, reset]
            constructor
            · intro successes later fromHere laterInside
              by_cases here : later = frame
              · rw [here]
                exact failure
              · exact successes later (by omega) laterInside
            · intro successes later fromNext
              exact successes later (by omega)
      · have outside := mt position.inside_iff.mpr more
        rw [encodeLoop, if_neg more]
        constructor
        · exact .finished (by omega)
        · constructor
          · intro _ later fromHere laterInside
            have further := Nat.mul_le_mul_right self.size fromHere
            omega
          · intro _
            rfl

theorem encodeLoop_size (self : AACEncoder) (dst_buf : Memory) (enc_size : Nat) :
    (encodeLoop self src_buf src_len pts answers frame dst_buf enc_size).value.2.1.size =
      self.size := by
  induction left : src_len - self.readbytes using Nat.strongRecOn
    generalizing self frame dst_buf enc_size with
  | ind remaining ih =>
      have positive := self.sizePositive
      have count := self.frameCount_eq src_len
      by_cases more : self.readbytes < src_len
      · by_cases failure : answers frame = .failed
        · rw [encodeLoop_failed more failure]
          rfl
        · obtain ⟨dst_buf', enc_size', step⟩ :=
            encodeLoop_next src_buf pts more failure dst_buf enc_size
          rw [step, value_bind]
          exact ih (src_len - (self.fillFrame src_buf src_len).readbytes)
            (by simp only [fillFrame]; omega) _ dst_buf' enc_size' rfl
      · rw [encodeLoop, if_neg more]
        rfl

end Loop

/-! ### Calls -/

theorem encode_size (self : AACEncoder) (call : EncodeCall) :
    (self.encode call).value.2.1.size = self.size := by
  unfold encode
  cases call.src_buf with
  | none => rfl
  | some src_buf => exact encodeLoop_size _ _ _

/-- A position at the end of the buffer, or behind it, keeps all of it from the codec. -/
theorem encode_starved {self : AACEncoder} {call : EncodeCall}
    (behind : call.src_len ≤ self.readbytes) : (self.encode call).log = [] := by
  have noMore : ¬ self.readbytes < call.src_len := Nat.not_lt.mpr behind
  rcases call with ⟨src_buf, src_len, dst_buf, answers⟩
  cases src_buf with
  | none => rfl
  | some src_buf =>
      simp only [encode]
      rw [encodeLoop, if_neg noMore]
      rfl

/-- From position zero, all that can go wrong is that the position stays where a frame
failed. -/
theorem encodesOwn_iff {self : AACEncoder} (atStart : self.readbytes = 0) (call : EncodeCall) :
    self.EncodesOwn call ↔ Succeeds self.size call := by
  rcases call with ⟨src_buf, src_len, dst_buf, answers⟩
  cases src_buf with
  | none =>
      constructor
      · intro _ present
        exact absurd rfl present
      · intro _
        exact ⟨rfl, atStart⟩
  | some src_buf =>
      have position : AtFrame { self with index := i32 (self.index + 1) } src_len 0 := by
        simp only [AtFrame, atStart, Nat.zero_mul, Nat.zero_min]
      obtain ⟨handed, reset⟩ := @encodeLoop_handsOver src_buf src_len self.index answers 0 _
        position dst_buf 0
      constructor
      · rintro ⟨-, zero⟩ - frame inside
        exact reset.mp zero frame (Nat.zero_le frame) inside
      · intro succeeds
        constructor
        · exact handed
        · exact reset.mpr fun frame _ inside => succeeds (Option.some_ne_none _) frame inside

/-- A fresh encoder keeps every call to its own buffer if and only if the codec takes every
frame of every call. -/
theorem runEncodesOwn_iff {self : AACEncoder} (fresh : self.readbytes = 0)
    (calls : List EncodeCall) :
    self.RunEncodesOwn calls ↔ ∀ call, call ∈ calls → Succeeds self.size call := by
  induction calls generalizing self with
  | nil =>
      constructor
      · intro _ call impossible
        cases impossible
      · intro _
        trivial
  | cons call rest ih =>
      have sameSize := self.encode_size call
      constructor
      · rintro ⟨own, later⟩
        have restOwn := (ih own.2).mp later
        rw [sameSize] at restOwn
        intro other member
        rcases List.mem_cons.mp member with rfl | inRest
        · exact (encodesOwn_iff fresh other).mp own
        · exact restOwn other inRest
      · intro succeeds
        have own := (encodesOwn_iff fresh call).mpr (succeeds call List.mem_cons_self)
        constructor
        · exact own
        · rw [ih own.2, sameSize]
          intro other inRest
          exact succeeds other (List.mem_cons_of_mem call inRest)

def smallFrames : AACEncoder :=
  { outBuffer := fun _ => 0, size := 4, index := 0, readbytes := 0, sizePositive := by decide }

/-- Ten bytes, then a missing buffer, then two more bytes. -/
theorem runEncodesOwn_threeCalls :
    smallFrames.RunEncodesOwn
      [{ src_buf := some (ofBytes [1, 2, 3, 4, 5, 6, 7, 8, 9, 10]), src_len := 10,
          dst_buf := fun _ => 0, answers := fun _ => .accepted (some [255]) },
        { src_buf := none, src_len := 7, dst_buf := fun _ => 0, answers := fun _ => .failed },
        { src_buf := some (ofBytes [11, 12]), src_len := 2, dst_buf := fun _ => 0,
          answers := fun frame => if frame = 0 then .accepted none else .failed }] := by
  apply (runEncodesOwn_iff rfl _).mpr
  intro call member present frame inside
  simp only [List.mem_cons, List.not_mem_nil, or_false] at member
  rcases member with rfl | rfl | rfl
  · exact CodecAnswer.noConfusion
  · exact absurd rfl present
  · obtain rfl : frame = 0 := by
      simp only [smallFrames] at inside
      omega
    exact CodecAnswer.noConfusion

def refusedCall : EncodeCall :=
  { src_buf := some (ofBytes [1, 2, 3, 4]), src_len := 4, dst_buf := fun _ => 0,
    answers := fun _ => .failed }

def followingCall : EncodeCall :=
  { src_buf := some (ofBytes [5, 6, 7, 8]), src_len := 4, dst_buf := fun _ => 0,
    answers := fun _ => .accepted none }

/-- Behind a refused frame nothing of the next buffer reaches the codec. -/
theorem not_runEncodesOwn_afterFailure :
    ¬ smallFrames.RunEncodesOwn [refusedCall, followingCall] ∧
      ((smallFrames.encode refusedCall).value.2.1.encode followingCall).log = [] := by
  constructor
  · rintro ⟨own, -⟩
    have succeeds := (encodesOwn_iff rfl _).mp own
    exact succeeds (Option.some_ne_none _) 0 (by decide) rfl
  · have stays : (smallFrames.encode refusedCall).value.2.1.readbytes = 4 := by
      simp only [encode, refusedCall]
      rw [encodeLoop_failed (by decide) rfl]
      rfl
    exact encode_starved (Nat.le_of_eq stays.symm)

end AACEncoder

end DShowCapture
