/-
What a frame object holds after its NAL units were staged.

`AddNALU` looks for a start code at the beginning of the buffer and shortens the NAL
unit it adds when there is one.  As long as the first NAL unit rules this out, the table
describes the NAL units as they were given.
-/
import DShowCapture.H264Frame.Packetizer
import DShowCapture.H264Frame.Reassembly

namespace DShowCapture

open ByteMemory FixedWidth Logged RFC6184

/-- A buffer that begins with this NAL unit does not begin with a start code. -/
def GuardsStart (unit : List UInt8) : Prop :=
  ∀ memory : Memory, read memory 0 unit.length = unit → isStartCode memory 0 = false

theorem guardsStart_of_head {first : UInt8} (rest : List UInt8) (nonzero : first ≠ 0) :
    GuardsStart (first :: rest) := by
  intro memory held
  have firstEq : memory 0 = first := (head_of_read_eq held).1
  simp [isStartCode, firstEq, nonzero]

namespace H264Frame

structure Staged (frame : H264Frame) (units : List (List UInt8)) : Prop where
  count : frame.numberOfNALsInFrame = units.length
  length : frame.encodedFrameLen = units.flatten.length
  bytes : frame.assembled = units.flatten
  table : (List.range units.length).map frame.unitAt = units
  inside : ∀ index, index < units.length →
    (frame.nals index).offset + (frame.nals index).length ≤ frame.encodedFrameLen

structure Unsent (frame : H264Frame) : Prop where
  current : frame.currentNAL = 0
  start : frame.atFUStart = true

theorem staged_beginNewFrame (frame : H264Frame) (numberOfNALs : Nat) :
    (frame.beginNewFrame numberOfNALs).Staged [] ∧
      (frame.beginNewFrame numberOfNALs).Unsent :=
  ⟨{ count := rfl
     length := rfl
     bytes := rfl
     table := rfl
     inside := fun _ inRange => absurd inRange (Nat.not_lt_zero _) },
    { current := rfl, start := rfl }⟩

theorem read_stage {frame : H264Frame} {units : List (List UInt8)}
    (staged : frame.Staged units) (call : NALUArgs) :
    read (copy frame.encodedFrame frame.encodedFrameLen call.source call.payload call.length) 0
        (units.flatten ++ call.bytes).length = units.flatten ++ call.bytes := by
  have callLength : call.bytes.length = call.length := length_read _ _ _
  have earlier := staged.bytes
  rw [assembled] at earlier
  rw [List.length_append, ← staged.length, callLength, read_append, Nat.zero_add,
    read_copy_self, read_copy_before _ _ _ _ _ _ _ (by omega), earlier]
  rfl

theorem staged_addNALU {frame : H264Frame} {units : List (List UInt8)}
    (staged : frame.Staged units) (call : NALUArgs)
    (noStartCode : isStartCode (copy frame.encodedFrame frame.encodedFrameLen call.source
      call.payload call.length) 0 = false)
    (small : units.flatten.length + call.length < 4294967296)
    (few : units.length < 4294967295) :
    (frame.addNALU call.type call.length call.source call.payload).value.Staged
      (units ++ [call.bytes]) := by
  have lengthEq := staged.length
  have countEq := staged.count
  have callLength : call.bytes.length = call.length := length_read _ _ _
  have offsetEq : u32 (frame.encodedFrameLen + (0 : Nat)) = frame.encodedFrameLen := by
    unfold u32
    omega
  have lenEq : u32 (call.length - (0 : Nat)) = call.length := by
    unfold u32
    omega
  have nextCount : u32 (units.length + 1) = units.length + 1 := by
    unfold u32
    omega
  have nextLength : u32 (frame.encodedFrameLen + call.length) =
      frame.encodedFrameLen + call.length := by
    unfold u32
    omega
  simp only [addNALU, value_bind, value_pure, noStartCode, Bool.false_eq_true, if_false,
    offsetEq, lenEq, nextCount, nextLength, countEq]
  refine
    { count := by simp
      length := ?_
      bytes := ?_
      table := ?_
      inside := ?_ }
  · simp only [List.flatten_append, List.flatten_singleton, List.length_append]
    omega
  · have held := read_stage staged call
    rw [List.length_append, callLength, ← lengthEq] at held
    rw [List.flatten_append, List.flatten_singleton, assembled]
    exact held
  · rw [List.length_append, List.length_singleton, List.range_succ, List.map_append,
      List.map_singleton]
    congr 1
    · refine Eq.trans (List.map_congr_left ?_) staged.table
      intro index member
      have inRange := List.mem_range.mp member
      have before := staged.inside index inRange
      simp only [unitAt, Function.update_of_ne (Nat.ne_of_lt inRange)]
      exact read_copy_before _ _ _ _ _ _ _ before
    · simp only [unitAt, Function.update_self, read_copy_self]
      rfl
  · intro index inRange
    rw [List.length_append, List.length_singleton] at inRange
    by_cases isNew : index = units.length
    · subst isNew
      simp only [Function.update_self]
      exact Nat.le_refl _
    · have before := staged.inside index (by omega)
      simp only [Function.update_of_ne isNew]
      omega

theorem frame_addNALU (frame : H264Frame) (call : NALUArgs) :
    let next := (frame.addNALU call.type call.length call.source call.payload).value
    next.maxPayloadSize = frame.maxPayloadSize ∧ (frame.Unsent → next.Unsent) :=
  ⟨rfl, fun unsent => { current := unsent.current, start := unsent.start }⟩

theorem staged_addNALUs {frame : H264Frame} {units : List (List UInt8)}
    (staged : frame.Staged units) (calls : List NALUArgs)
    (small : (units ++ calls.map NALUArgs.bytes).flatten.length < 4294967296)
    (few : units.length + calls.length < 4294967296)
    (guard : ∀ unit rest, units ++ calls.map NALUArgs.bytes = unit :: rest →
      GuardsStart unit) :
    (frame.addNALUs calls).value.Staged (units ++ calls.map NALUArgs.bytes) := by
  induction calls generalizing frame units with
  | nil => simpa [addNALUs] using staged
  | cons call rest ih =>
      have split : units ++ (call :: rest).map NALUArgs.bytes =
          (units ++ [call.bytes]) ++ rest.map NALUArgs.bytes := by simp
      have callLength : call.bytes.length = call.length := length_read _ _ _
      rw [split] at small guard ⊢
      have noStartCode : isStartCode (copy frame.encodedFrame frame.encodedFrameLen
          call.source call.payload call.length) 0 = false := by
        have held := read_stage staged call
        cases units with
        | nil =>
            apply guard call.bytes _ rfl _
            simpa using held
        | cons unit others =>
            apply guard unit _ rfl _
            rw [List.flatten_cons, List.append_assoc] at held
            exact (split_of_read_eq held).1
      have stagedNext := staged_addNALU staged call noStartCode
        (by
          simp only [List.flatten_append, List.flatten_singleton, List.length_append] at small
          omega)
        (by
          rw [List.length_cons] at few
          omega)
      simp only [addNALUs, value_bind]
      refine ih stagedNext small ?_ guard
      rw [List.length_cons] at few
      rw [List.length_append, List.length_singleton]
      omega

theorem frame_addNALUs (frame : H264Frame) (calls : List NALUArgs) :
    (frame.addNALUs calls).value.maxPayloadSize = frame.maxPayloadSize ∧
      (frame.Unsent → (frame.addNALUs calls).value.Unsent) := by
  induction calls generalizing frame with
  | nil => exact ⟨rfl, id⟩
  | cons call rest ih =>
      have first := frame_addNALU frame call
      have later := ih (frame.addNALU call.type call.length call.source call.payload).value
      simp only [addNALUs, value_bind]
      exact ⟨later.1.trans first.1, fun unsent => later.2 (first.2 unsent)⟩

theorem packetizing_of_staged {frame : H264Frame} {units : List (List UInt8)}
    (staged : frame.Staged units) (unsent : frame.Unsent)
    (atLeastThree : 3 ≤ frame.maxPayloadSize) (limit : frame.maxPayloadSize < 65536)
    (small : units.flatten.length < 4294967295) (few : units.length < 4294967296) :
    frame.Packetizing :=
  { atLeastThree := atLeastThree
    limit := limit
    count := by rw [staged.count]; exact few
    lengths := by
      intro index inRange
      rw [staged.count] at inRange
      have inside := staged.inside index inRange
      have lengthEq := staged.length
      omega
    midway := fun started => absurd (unsent.start.symm.trans started) (by decide) }

theorem pending_of_staged {frame : H264Frame} {units : List (List UInt8)}
    (staged : frame.Staged units) (unsent : frame.Unsent) :
    frame.pending = units.flatMap (nalPayloads frame.maxPayloadSize) := by
  rw [pending_of_atFUStart unsent.start, unsent.current, pendingFrom, Nat.sub_zero,
    staged.count]
  conv_rhs => rw [← staged.table]
  rw [List.flatMap_map, List.range_eq_range']

end H264Frame

end DShowCapture
