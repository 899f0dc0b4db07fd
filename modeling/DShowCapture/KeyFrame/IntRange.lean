/-
The `int` arithmetic of the search for a key frame.

The number of zero bits in front of a code is not limited by the readers.  But a NAL unit ends
where three zero bytes begin, so that no more than thirty of them stand in one: every code
number is an `int`.
-/
import DShowCapture.KeyFrame.ScanBounds
import Mathlib.Algebra.Order.Ring.Int
import Mathlib.Tactic.Ring

namespace DShowCapture

open ByteMemory hiding ofBytes
open BitString hiding value
open FixedWidth Logged AnnexB BitCursor

def ScanAccess.InRange : ScanAccess → Prop
  | .arithmetic value => -2147483648 ≤ value ∧ value < 2147483648
  | .read _ _ => True
  | .refFrameRound _ => True
  | .offsetForRefFrame _ => True

theorem ScanAccess.IsRead.inRange {event : ScanAccess} (isRead : event.IsRead) :
    event.InRange := by
  cases event with
  | read start count => trivial
  | refFrameRound size => trivial
  | offsetForRefFrame index => trivial
  | arithmetic value => exact isRead.elim

theorem inRange_of_isRead {α : Type} {computation : Logged ScanAccess α}
    (reads : Safe ScanAccess.IsRead computation) : Safe ScanAccess.InRange computation :=
  fun event member => (reads event member).inRange

/-! ### Zero bits in a NAL unit -/

def Spaced (memory : Memory) (start finish : Nat) : Prop :=
  ∀ address, start ≤ address → address + 3 ≤ finish → read memory address 3 ≠ [0, 0, 0]

theorem spaced_of_unitPrefix {memory : Memory} {start size : Nat} {bytes : List UInt8}
    (held : unitPrefix bytes = read memory start size) : Spaced memory start (start + size) := by
  intro address behind inside zeros
  obtain ⟨position, rfl⟩ := Nat.exists_eq_add_of_le behind
  have isUnit := isUnit_unitPrefix bytes
  have lengthEq : (unitPrefix bytes).length = size := by
    rw [held, length_read]
  refine isUnit.goesOn position (Nat.zero_le position) (by omega) (Or.inl ?_)
  have parts := unitPrefix_append_unitSuffix bytes
  rw [held] at parts
  rw [← parts, List.drop_append_of_le_length (by rw [length_read]; omega),
    drop_read _ _ _ _ (by omega), List.take_append_of_le_length (by rw [length_read]; omega),
    take_read _ _ _ _ (by omega), zeros]

section Prefixes

variable {memory : Memory} {start finish : Nat} {cursor : BitCursor}

/-- Thirty-one zero bits cover three bytes, wherever they begin. -/
theorem zeros_le_thirty (spaced : Spaced memory start finish) (ready : cursor.Ready finish)
    (behind : start ≤ cursor.frameData) {zeros : Nat} {rest : List Bool}
    (found : ExpGolomb.leadingZeros (cursor.bitsLeft memory) = some (zeros, rest)) :
    zeros ≤ 30 := by
  by_contra many
  have finishEq := ready.finish
  have positive := ready.positive
  have inByte := ready.inByte
  have bitsEq := ExpGolomb.eq_of_leadingZeros found
  let whole := if cursor.fromByteBits = 0 then 0 else 1
  let skipped := 8 * whole - cursor.fromByteBits
  have skippedLe : skipped ≤ 7 ∧ skipped + cursor.fromByteBits = 8 * whole ∧ whole ≤ 1 := by
    simp only [skipped, whole]
    split
    · omega
    · omega
  have dropped := congrArg (List.drop skipped) bitsEq
  rw [bitsLeft, List.drop_drop, Nat.add_comm, skippedLe.2.1, drop_ofBytes,
    List.drop_append_of_le_length (by rw [List.length_replicate]; omega),
    List.drop_replicate] at dropped
  have threeBytes : List.replicate (8 * 3) false <+:
      ofBytes ((read memory cursor.frameData cursor.size.toNat).drop whole) := by
    rw [dropped]
    apply List.IsPrefix.trans _ (List.prefix_append _ _)
    rw [List.prefix_replicate_iff, List.length_replicate]
    exact ⟨by omega, rfl⟩
  have zeroBytes : [0, 0, 0] <+: (read memory cursor.frameData cursor.size.toNat).drop whole :=
    replicate_prefix_of_ofBytes threeBytes
  obtain ⟨inside, held⟩ := (prefix_drop_read_iff (List.cons_ne_nil _ _)).mp zeroBytes
  rw [List.length_cons, List.length_cons, List.length_singleton] at inside
  exact spaced (cursor.frameData + whole) (by omega) (by omega) held

end Prefixes

/-! ### The arithmetic of a code -/

section Codes

variable {memory : Memory} {finish : Nat}

theorem extractBit_le_one (byte : UInt8) (n : Nat) : extractBit byte n ≤ 1 := by
  by_cases inByte : n < 8
  · rw [extractBit_eq byte inByte]
    exact Bool.toNat_le _
  · obtain ⟨more, rfl⟩ := Nat.exists_eq_add_of_le' (Nat.not_lt.mp inByte)
    have lastMask : bitMask (more + 8) = 0x01 := rfl
    have noShift : 7 - (more + 8) = 0 := by omega
    rw [extractBit, lastMask, noShift, Nat.shiftRight_zero, UInt8.toNat_and]
    exact Nat.and_le_left

private theorem i32_of_inRange {value : Int} (nonneg : 0 ≤ value) (small : value < 2147483648) :
    i32 value = value := by
  unfold i32
  omega

theorem inRange_golombSuffix (remaining : Nat) (cursor : BitCursor) {info : Int}
    (nonneg : 0 ≤ info) (small : (info + 1) * 2 ^ remaining ≤ 2147483648) :
    Safe ScanAccess.InRange (golombSuffix memory remaining cursor info) ∧
      ∀ suffix, (golombSuffix memory remaining cursor info).value.1 = some suffix →
        0 ≤ suffix ∧ suffix < (info + 1) * 2 ^ remaining := by
  induction remaining generalizing cursor info with
  | zero =>
      constructor
      · exact safe_pure _ _
      · intro suffix found
        cases found
        rw [Int.pow_zero, Int.mul_one]
        omega
  | succ remaining ih =>
      rw [golombSuffix]
      dsimp only
      generalize (if cursor.fromByteBits = 8 then cursor.nextByte else cursor) = next
      by_cases out : cursor.fromByteBits = 8 ∧ next.size ≤ 0
      · rw [if_pos out]
        exact ⟨safe_pure _ _, fun suffix found => absurd found.symm (Option.some_ne_none suffix)⟩
      · have bit := extractBit_le_one (memory next.frameData) next.fromByteBits
        rw [if_neg out]
        generalize extractBit (memory next.frameData) next.fromByteBits = value at bit ⊢
        have positive : (0 : Int) < 2 ^ remaining := Int.pow_pos (by decide)
        have doubled : (info + 1) * 2 ^ (remaining + 1) =
            (info * 2 + value + 1) * 2 ^ remaining + (1 - value) * 2 ^ remaining := by
          rw [Int.pow_succ]
          ring
        have rest : 0 ≤ (1 - (value : Int)) * 2 ^ remaining :=
          Int.mul_nonneg (by omega) (Int.le_of_lt positive)
        have one : info * 2 + value + 1 ≤ (info * 2 + value + 1) * 2 ^ remaining :=
          le_mul_of_one_le_right (by omega) positive
        have kept := i32_of_inRange (by omega : 0 ≤ info * 2 + (value : Int)) (by omega)
        obtain ⟨inRange, found⟩ := ih { next with fromByteBits := next.fromByteBits + 1 }
          (by omega : 0 ≤ info * 2 + (value : Int)) (by omega)
        simp only [safe_bind, safe_emit, value_bind, kept]
        refine ⟨⟨trivial, ⟨by omega, by omega⟩, inRange⟩, ?_⟩
        intro suffix foundEq
        have bounds := found suffix foundEq
        omega

/-- A code with at most thirty zero bits has a code number of type `int`. -/
theorem inRange_golombCode {cursor : BitCursor}
    (few : ∀ zeros, (golombPrefix memory cursor 0).value.1 = some zeros → zeros ≤ 30) :
    Safe ScanAccess.InRange (golombCode memory cursor) ∧
      ∀ codeNum, (golombCode memory cursor).value.1 = some codeNum →
        0 ≤ codeNum ∧ codeNum ≤ 2147483646 := by
  have safePrefix := inRange_of_isRead (@isRead_golombPrefix memory cursor 0)
  rw [golombCode, safe_bind, value_bind]
  generalize (golombPrefix memory cursor 0).value = outcome at few ⊢
  rcases outcome with ⟨golombBits, afterPrefix⟩
  cases golombBits with
  | none =>
      exact ⟨⟨safePrefix, safe_pure _ _⟩,
        fun codeNum found => absurd found.symm (Option.some_ne_none codeNum)⟩
  | some zeros =>
      have power : (2 : Int) ^ zeros ≤ 2 ^ 30 :=
        pow_le_pow_right₀ (by decide) (few zeros rfl)
      have positive : (0 : Int) < 2 ^ zeros := Int.pow_pos (by decide)
      obtain ⟨safeSuffix, bounds⟩ := @inRange_golombSuffix memory zeros afterPrefix 0
        (Int.le_refl 0) (by omega)
      have truncated : truncateToInt (2 ^ zeros) = 2 ^ zeros := if_pos ⟨by omega, by omega⟩
      simp only [safe_bind, safe_emit, value_bind]
      generalize (golombSuffix memory zeros afterPrefix 0).value = outcome at bounds ⊢
      rcases outcome with ⟨golombInfo, afterSuffix⟩
      have safePower : (ScanAccess.arithmetic (2 ^ zeros)).InRange := ⟨by omega, by omega⟩
      cases golombInfo with
      | none =>
          exact ⟨⟨safePrefix, safePower, safeSuffix, safe_pure _ _⟩,
            fun codeNum found => absurd found.symm (Option.some_ne_none codeNum)⟩
      | some suffix =>
          have inRange := bounds suffix rfl
          have kept := i32_of_inRange (by omega : 0 ≤ 2 ^ zeros + suffix - 1) (by omega)
          have safeSum : (ScanAccess.arithmetic (2 ^ zeros + suffix - 1)).InRange :=
            ⟨by omega, by omega⟩
          simp only [safe_bind, safe_emit, value_bind, truncated, kept]
          have numberRange : 0 ≤ (2 : Int) ^ zeros + suffix - 1 ∧
              2 ^ zeros + suffix - 1 ≤ 2147483646 := ⟨by omega, by omega⟩
          generalize (2 : Int) ^ zeros + suffix - 1 = number at safeSum numberRange ⊢
          split
          · split
            · exact ⟨⟨safePrefix, safePower, safeSuffix, safeSum, safe_pure _ _⟩,
                fun codeNum found => absurd found.symm (Option.some_ne_none codeNum)⟩
            · refine ⟨⟨safePrefix, safePower, safeSuffix, safeSum, safe_pure _ _⟩, ?_⟩
              intro codeNum found
              cases found
              exact numberRange
          · refine ⟨⟨safePrefix, safePower, safeSuffix, safeSum, safe_pure _ _⟩, ?_⟩
            intro codeNum found
            cases found
            exact numberRange

/-- In the byte behind the data there are at most seven zero bits. -/
theorem golombPrefix_inExtraByte_le {cursor : BitCursor} (inExtra : InExtraByte finish cursor)
    (bitLeft : cursor.fromByteBits < 8) {golombBits zeros : Nat}
    (found : (golombPrefix memory cursor golombBits).value.1 = some zeros) :
    zeros + cursor.fromByteBits ≤ golombBits + 7 := by
  induction cursor, golombBits using golombPrefix.induct with
  | case1 cursor golombBits behindByte inByte =>
      have stays : ¬ 8 ≤ cursor.fromByteBits + 1 →
          InExtraByte finish { cursor with fromByteBits := cursor.fromByteBits + 1 } :=
        fun _ => { size := inExtra.size, frameData := inExtra.frameData, inByte := bitLeft }
      rw [golombPrefix, value_bind] at found
      simp only [value_ite, value_pure] at found
      split at found
      · cases found
        omega
      · split at found
        · rw [if_pos inExtra.nextByte_size] at found
          cases found
        · rename_i notLast
          have later := inByte notLast (stays notLast) (Nat.not_le.mp notLast) found
          dsimp only at later
          omega

end Codes

/-! ### The walk over the fields -/

structure Alive (start finish : Nat) (cursor : BitCursor) : Prop where
  behind : start ≤ cursor.frameData
  state : cursor.Ready finish ∨ cursor.Ended finish

/-- From such a cursor to such a cursor all values are in range, and the result is good. -/
def Keeps {α : Type} (start finish : Nat) (good : α → Prop)
    (reader : BitCursor → Logged ScanAccess (α × BitCursor)) : Prop :=
  ∀ cursor, Alive start finish cursor →
    Safe ScanAccess.InRange (reader cursor) ∧ Alive start finish (reader cursor).value.2 ∧
      good (reader cursor).value.1

section Walk

variable {α β γ : Type} {memory : Memory} {start finish : Nat}

theorem Alive.later {project : α → β} {reader : BitCursor → Logged ScanAccess (α × BitCursor)}
    {field : Field β} {cursor : BitCursor} (alive : Alive start finish cursor)
    (reads : Reads memory finish project reader field)
    (advances : Advances cursor (reader cursor).value.2) :
    Alive start finish (reader cursor).value.2 := by
  have behind := alive.behind
  have further := advances.size
  have sameFinish := advances.finish
  refine { behind := by omega, state := ?_ }
  rcases alive.state with ready | ended
  · cases found : field (cursor.bitsLeft memory) with
    | none =>
        right
        exact (reads.missing ready found).ended
    | some pair =>
        left
        exact (reads.present ready found).2.ready
  · right
    exact (reads.ended ended).ended

theorem Keeps.bind {good : α → Prop} {goodNext : γ → Prop}
    {reader : BitCursor → Logged ScanAccess (α × BitCursor)}
    {next : α × BitCursor → Logged ScanAccess (γ × BitCursor)}
    (first : Keeps start finish good reader)
    (second : ∀ value, good value →
      Keeps start finish goodNext fun cursor => next (value, cursor)) :
    Keeps start finish goodNext fun cursor => reader cursor >>= next := by
  intro cursor alive
  obtain ⟨safe, aliveThere, isGood⟩ := first cursor alive
  obtain ⟨safeNext, aliveLast, isGoodNext⟩ := second _ isGood _ aliveThere
  rw [safe_bind, value_bind]
  exact ⟨⟨safe, safeNext⟩, aliveLast, isGoodNext⟩

theorem keeps_pure {good : α → Prop} {value : α} (isGood : good value) :
    Keeps start finish good fun cursor => pure (value, cursor) :=
  fun _ alive => ⟨safe_pure _ _, alive, isGood⟩

theorem Keeps.ite {good : α → Prop} {condition : Prop} [Decidable condition]
    {yes no : BitCursor → Logged ScanAccess (α × BitCursor)}
    (yesKeeps : Keeps start finish good yes) (noKeeps : Keeps start finish good no) :
    Keeps start finish good fun cursor => if condition then yes cursor else no cursor := by
  by_cases holds : condition
  · simpa only [if_pos holds] using yesKeeps
  · simpa only [if_neg holds] using noKeeps

theorem Keeps.afterPure {good : γ → Prop} {value : α}
    {next : α × BitCursor → Logged ScanAccess (γ × BitCursor)}
    (keeps : Keeps start finish good fun cursor => next (value, cursor)) :
    Keeps start finish good fun cursor => pure (value, cursor) >>= next := keeps

theorem Keeps.afterEmit {good : α → Prop}
    {reader : BitCursor → Logged ScanAccess (α × BitCursor)} {event : BitCursor → ScanAccess}
    (keeps : Keeps start finish good reader) (inRange : ∀ cursor, (event cursor).InRange) :
    Keeps start finish good fun cursor => emit (event cursor) >>= fun _ => reader cursor := by
  intro cursor alive
  obtain ⟨safe, rest⟩ := keeps cursor alive
  rw [safe_bind, safe_emit, value_bind]
  exact ⟨⟨inRange cursor, safe⟩, rest⟩

/-- Every code that is read has at most thirty zero bits. -/
theorem prefix_le_thirty (spaced : Spaced memory start finish) {cursor : BitCursor}
    (alive : Alive start finish cursor) (nonneg : ¬ cursor.size < 0) {zeros : Nat}
    (found : (golombPrefix memory cursor 0).value.1 = some zeros) : zeros ≤ 30 := by
  rcases alive.state with ready | ended
  · have outcome := (@golombPrefix_spec memory finish cursor ready 0).2
    rw [PrefixOutcome] at outcome
    cases leading : ExpGolomb.leadingZeros (cursor.bitsLeft memory) with
    | none =>
        rw [leading, found] at outcome
        cases outcome.1
    | some pair =>
        rcases pair with ⟨count, behind⟩
        rw [leading, found] at outcome
        have same := Option.some.inj outcome.1
        rw [same, Nat.zero_add]
        exact zeros_le_thirty spaced ready alive.behind leading
  · have runOut := ended.runOut
    have finishEq := ended.finish
    have inExtra : InExtraByte finish cursor :=
      { size := by omega, frameData := by omega, inByte := Nat.le_of_lt ended.inByte }
    have few := golombPrefix_inExtraByte_le inExtra ended.inByte found
    omega

private theorem agree_same (memory : Memory) : AgreeBelow 0 memory memory := fun _ _ => rfl

theorem keeps_getBits1 : Keeps start finish (fun _ => True) (getBits1 memory) := by
  intro cursor alive
  have advances := (confined_getBits1 (agree_same memory)).leftAdvances cursor
  refine ⟨?_, alive.later reads_getBits1 advances, trivial⟩
  by_cases negative : cursor.size < 0
  · rw [getBits1, if_pos negative]
    exact safe_pure _ _
  · intro event member
    rw [(getBits1_of_nonneg negative).1, List.mem_singleton] at member
    rw [member]
    trivial

theorem keeps_getUeGolomb (spaced : Spaced memory start finish) :
    Keeps start finish (fun value => 0 ≤ value) (getUeGolomb memory) := by
  intro cursor alive
  have advances := (confined_getUeGolomb (agree_same memory)).leftAdvances cursor
  have aliveThere := alive.later reads_getUeGolomb advances
  by_cases out : cursor.size ≤ 0
  · rw [getUeGolomb, if_pos out] at aliveThere ⊢
    exact ⟨safe_pure _ _, aliveThere, Int.le_refl 0⟩
  · obtain ⟨safe, inRange⟩ := inRange_golombCode fun zeros =>
      prefix_le_thirty spaced alive (by omega)
    refine ⟨?_, aliveThere, ?_⟩
    · rw [getUeGolomb, if_neg out, safe_bind]
      exact ⟨safe, safe_pure _ _⟩
    · rw [getUeGolomb, if_neg out, value_bind, value_pure]
      generalize (golombCode memory cursor).value = outcome at inRange ⊢
      rcases outcome with ⟨codeNum, there⟩
      cases codeNum with
      | none => exact Int.le_refl 0
      | some codeNum => exact (inRange codeNum rfl).1

theorem keeps_getSeGolomb (spaced : Spaced memory start finish) :
    Keeps start finish (fun _ => True) (getSeGolomb memory) := by
  intro cursor alive
  have advances := (confined_getSeGolomb (agree_same memory)).leftAdvances cursor
  refine ⟨?_, alive.later reads_getSeGolomb advances, trivial⟩
  rw [getSeGolomb]
  by_cases negative : cursor.size < 0
  · rw [if_pos negative]
    exact safe_pure _ _
  · obtain ⟨safe, inRange⟩ := inRange_golombCode fun zeros =>
      prefix_le_thirty spaced alive negative
    rw [if_neg negative, safe_bind]
    refine ⟨safe, ?_⟩
    generalize (golombCode memory cursor).value = outcome at inRange ⊢
    rcases outcome with ⟨codeNum, there⟩
    cases codeNum with
    | none => exact safe_pure _ _
    | some codeNum =>
        have bounds := inRange codeNum rfl
        simp only [safe_bind, safe_emit]
        exact ⟨⟨by omega, by omega⟩, safe_pure _ _⟩

theorem keeps_decodeScalingFlags (remaining : Nat) (sps : SPS) :
    Keeps start finish (fun _ => True) (decodeScalingFlags memory remaining sps) := by
  induction remaining generalizing sps with
  | zero => exact keeps_pure trivial
  | succ remaining ih => exact keeps_getBits1.bind fun bits _ => ih _

theorem keeps_decodeRefFrameOffsets (spaced : Spaced memory start finish) (remaining i : Nat)
    (sps : SPS) :
    Keeps start finish (fun _ => True) (decodeRefFrameOffsets memory remaining i sps) := by
  induction remaining generalizing i sps with
  | zero => exact keeps_pure trivial
  | succ remaining ih =>
      refine Keeps.afterEmit ((keeps_getSeGolomb spaced).bind fun offset _ => ?_)
        (fun cursor => (trivial : (ScanAccess.refFrameRound cursor.size).InRange))
      exact (ih (i + 1) _).afterEmit
        fun _ => (trivial : (ScanAccess.offsetForRefFrame i).InRange)

theorem keeps_decodeHighProfile (spaced : Spaced memory start finish) (sps : SPS) :
    Keeps start finish (fun _ => True) (decodeHighProfile memory sps) := by
  unfold decodeHighProfile
  refine (keeps_getUeGolomb spaced).bind fun chroma _ => ?_
  refine Keeps.ite
    (keeps_getBits1.bind fun flag _ => Keeps.afterPure ?_) (Keeps.afterPure ?_)
  all_goals
    refine (keeps_getUeGolomb spaced).bind fun luma _ => ?_
    refine (keeps_getUeGolomb spaced).bind fun chromaDepth _ => ?_
    refine keeps_getBits1.bind fun bypass _ => ?_
    refine keeps_getBits1.bind fun scaling _ => ?_
    exact Keeps.ite (keeps_decodeScalingFlags 8 _) (keeps_pure trivial)

theorem keeps_decodePicOrderCnt (spaced : Spaced memory start finish) (sps : SPS) :
    Keeps start finish (fun _ => True) (decodePicOrderCnt memory sps) := by
  unfold decodePicOrderCnt
  refine (keeps_getUeGolomb spaced).bind fun picOrderCntType _ => ?_
  refine Keeps.ite ?_ (Keeps.ite ?_ (keeps_pure trivial))
  · exact (keeps_getUeGolomb spaced).bind fun log2MaxLsb _ => keeps_pure trivial
  · refine (keeps_getUeGolomb spaced).bind fun alwaysZero _ => ?_
    refine (keeps_getSeGolomb spaced).bind fun nonRef _ => ?_
    refine (keeps_getSeGolomb spaced).bind fun topToBottom _ => ?_
    exact (keeps_getUeGolomb spaced).bind fun cycle _ =>
      keeps_decodeRefFrameOffsets spaced cycle.toNat 0 _

def SizeNonneg (sps : SPS) : Prop := 0 ≤ sps.picSize.1 ∧ 0 ≤ sps.picSize.2

theorem keeps_decodeCropping (spaced : Spaced memory start finish) {sps : SPS}
    (nonneg : SizeNonneg sps) : Keeps start finish SizeNonneg (decodeCropping memory sps) := by
  unfold decodeCropping
  refine (keeps_getUeGolomb spaced).bind fun left _ => ?_
  refine (keeps_getUeGolomb spaced).bind fun right _ => ?_
  refine (keeps_getUeGolomb spaced).bind fun top _ => ?_
  exact (keeps_getUeGolomb spaced).bind fun bottom _ => keeps_pure nonneg

theorem Keeps.bind_at {good : α → Prop} {goodNext : γ → Prop}
    {reader : BitCursor → Logged ScanAccess (α × BitCursor)}
    {next : α × BitCursor → Logged ScanAccess (γ × BitCursor)}
    (first : Keeps start finish good reader)
    (second : ∀ value, good value → Keeps start finish goodNext fun cursor => next (value, cursor))
    {cursor : BitCursor} (alive : Alive start finish cursor) :
    Safe ScanAccess.InRange (reader cursor >>= next) ∧
      goodNext (reader cursor >>= next).value.1 := by
  obtain ⟨safe, -, isGood⟩ := first.bind second cursor alive
  exact ⟨safe, isGood⟩

theorem inRange_h264DecodeSPS (spaced : Spaced memory start finish) {frameData : Nat} {size : Int}
    (sps : SPS) (alive : Alive start finish
      { frameData := frameData + 3, size := size - 3, fromByteBits := 0 }) :
    Safe ScanAccess.InRange (h264DecodeSPS memory frameData size sps) ∧
      SizeNonneg (h264DecodeSPS memory frameData size sps).value.1 := by
  rw [h264DecodeSPS, safe_bind, safe_emit, value_bind, and_assoc]
  refine ⟨trivial, (keeps_getUeGolomb spaced).bind_at (fun seqParameterSetId _ => ?_) alive⟩
  refine Keeps.ite ((keeps_decodeHighProfile spaced _).bind fun spsThere _ => ?_)
    (Keeps.afterPure ?_)
  all_goals
    refine (keeps_getUeGolomb spaced).bind fun log2MaxFrameNum _ => ?_
    refine (keeps_decodePicOrderCnt spaced _).bind fun spsBehind _ => ?_
    refine (keeps_getUeGolomb spaced).bind fun numRefFrames _ => ?_
    refine keeps_getBits1.bind fun gaps _ => ?_
    refine (keeps_getUeGolomb spaced).bind fun width widthNonneg => ?_
    refine (keeps_getUeGolomb spaced).bind fun height heightNonneg => ?_
    refine keeps_getBits1.bind fun frameMbsOnly _ => ?_
    refine Keeps.ite (keeps_getBits1.bind fun adaptive _ => Keeps.afterPure ?_)
      (Keeps.afterPure ?_)
    all_goals
      refine keeps_getBits1.bind fun direct8x8 _ => ?_
      refine keeps_getBits1.bind fun cropping _ => ?_
      refine Keeps.ite
        ((keeps_decodeCropping spaced ?_).bind fun spsCropped nonneg =>
          keeps_getBits1.bind fun vui _ => ?_)
        (Keeps.afterPure (keeps_getBits1.bind fun vui _ => ?_))
      · exact ⟨widthNonneg, heightNonneg⟩
      · exact keeps_pure nonneg
      · exact keeps_pure ⟨widthNonneg, heightNonneg⟩

end Walk

end DShowCapture
