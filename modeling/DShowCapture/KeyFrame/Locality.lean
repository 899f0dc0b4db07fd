/-
Which bytes the key-frame scanner depends on.

The scanner stays within the frame, except that it looks for a NAL header behind a start
code at the very end.  The bit reader may leave the frame as well, but only with a cursor
that has run out of bits, and such a cursor never yields a picture size again.
-/
import DShowCapture.KeyFrame.Search

namespace DShowCapture

open ByteMemory FixedWidth Logged

/-! ### The scanner of NAL units -/

section Scanner

variable {bound : Nat} {left right : Memory}

theorem isNalHead_congr (agree : AgreeBelow bound left right) {data size : Nat}
    (inside : data + size ≤ bound) :
    (isNalHead left data size).value = (isNalHead right data size).value := by
  simp only [isNalHead, value_bind, value_ite, value_pure]
  by_cases three : 3 ≤ size
  · rw [agree data (by omega), agree (data + 1) (by omega), agree (data + 2) (by omega)]
    by_cases four : 4 ≤ size
    · rw [agree (data + 3) (by omega)]
    · simp only [ge_iff_le, four, false_and, if_false]
  · have notFour : ¬ 4 ≤ size := by omega
    simp only [ge_iff_le, three, notFour, false_and, if_false]

theorem isNalTail_congr (agree : AgreeBelow bound left right) (data size : Nat)
    (inside : data + size ≤ bound) :
    (isNalTail left data size).value = (isNalTail right data size).value := by
  simp only [isNalTail, value_bind, value_ite, value_pure, isNalHead_congr agree inside]
  by_cases three : 3 ≤ size
  · rw [agree data (by omega), agree (data + 1) (by omega), agree (data + 2) (by omega)]
  · simp only [ge_iff_le, three, false_and, if_false]

theorem getNALSizeLoop_congr (agree : AgreeBelow bound left right) {data nSize : Nat}
    (inside : data + nSize ≤ bound) (i : Nat) :
    (getNALSizeLoop left data nSize i).value = (getNALSizeLoop right data nSize i).value := by
  induction gap : nSize - i generalizing i with
  | zero =>
      have stops : ¬ i < nSize := by omega
      rw [getNALSizeLoop, if_neg stops, getNALSizeLoop, if_neg stops]
  | succ gap ih =>
      have goesOn : i < nSize := by omega
      have sameTail := isNalTail_congr agree (data + i) (nSize - i) (by omega)
      rw [getNALSizeLoop, if_pos goesOn, getNALSizeLoop.eq_def right, if_pos goesOn]
      simp only [value_bind, value_ite, value_pure, sameTail, ih (i + 1) (by omega)]

theorem getNALSize_congr (agree : AgreeBelow bound left right) {data nSize : Nat}
    (inside : data + nSize ≤ bound) :
    (getNALSize left data nSize).value = (getNALSize right data nSize).value := by
  simp only [getNALSize, value_bind, value_pure, isNalHead_congr agree inside,
    getNALSizeLoop_congr agree inside]

end Scanner

/-! ### Bit cursors -/

namespace BitCursor

structure Live (bound : Nat) (cursor : BitCursor) : Prop where
  positive : 0 < cursor.size
  inside : (cursor.frameData : Int) + cursor.size ≤ bound

def Dead (cursor : BitCursor) : Prop := cursor.size ≤ 0

structure Advances (cursor later : BitCursor) : Prop where
  finish : (later.frameData : Int) + later.size = cursor.frameData + cursor.size
  size : later.size ≤ cursor.size

theorem Advances.refl (cursor : BitCursor) : Advances cursor cursor :=
  { finish := rfl, size := Int.le_refl _ }

theorem Advances.trans {cursor later last : BitCursor} (first : Advances cursor later)
    (second : Advances later last) : Advances cursor last :=
  { finish := second.finish.trans first.finish, size := Int.le_trans second.size first.size }

theorem Advances.withBits {cursor later : BitCursor} (advances : Advances cursor later)
    (bits : Nat) : Advances cursor { later with fromByteBits := bits } :=
  { finish := advances.finish, size := advances.size }

theorem advances_nextByte (cursor : BitCursor) : Advances cursor cursor.nextByte := by
  refine { finish := ?_, size := ?_ }
  · simp only [nextByte]
    omega
  · simp only [nextByte]
    omega

theorem Dead.later {cursor later : BitCursor} (dead : cursor.Dead)
    (advances : Advances cursor later) : later.Dead :=
  Int.le_trans advances.size dead

theorem Live.later {bound : Nat} {cursor later : BitCursor} (live : cursor.Live bound)
    (advances : Advances cursor later) : later.Live bound ∨ later.Dead := by
  by_cases positive : 0 < later.size
  · refine Or.inl { positive := positive, inside := ?_ }
    rw [advances.finish]
    exact live.inside
  · exact Or.inr (Int.not_lt.mp positive)

theorem Live.withBits {bound : Nat} {cursor : BitCursor} (live : cursor.Live bound) (bits : Nat) :
    Live bound { cursor with fromByteBits := bits } :=
  { positive := live.positive, inside := live.inside }

theorem Live.byte_eq {bound : Nat} {left right : Memory} (agree : AgreeBelow bound left right)
    {cursor : BitCursor} (live : cursor.Live bound) :
    left cursor.frameData = right cursor.frameData := by
  have positive := live.positive
  have inside := live.inside
  exact agree cursor.frameData (by omega)

end BitCursor

open BitCursor

/-! ### Readers -/

structure Confined {α : Type} (bound : Nat)
    (left right : BitCursor → Logged ScanAccess (α × BitCursor)) : Prop where
  same : ∀ cursor, cursor.Live bound →
    (left cursor).value = (right cursor).value ∨
      (left cursor).value.2.Dead ∧ (right cursor).value.2.Dead
  leftAdvances : ∀ cursor, Advances cursor (left cursor).value.2
  rightAdvances : ∀ cursor, Advances cursor (right cursor).value.2

section Confined

variable {α β : Type} {bound : Nat}

theorem confined_pure (value : α) :
    Confined bound (fun cursor => pure (value, cursor)) (fun cursor => pure (value, cursor)) :=
  { same := fun _ _ => Or.inl rfl
    leftAdvances := Advances.refl
    rightAdvances := Advances.refl }

theorem Confined.bind {left right : BitCursor → Logged ScanAccess (α × BitCursor)}
    {nextLeft nextRight : α × BitCursor → Logged ScanAccess (β × BitCursor)}
    (first : Confined bound left right)
    (next : ∀ value, Confined bound (fun cursor => nextLeft (value, cursor))
      (fun cursor => nextRight (value, cursor))) :
    Confined bound (fun cursor => left cursor >>= nextLeft)
      (fun cursor => right cursor >>= nextRight) := by
  refine { same := ?_, leftAdvances := ?_, rightAdvances := ?_ }
  · intro cursor live
    have firstAdvances := first.leftAdvances cursor
    simp only [value_bind]
    rcases first.same cursor live with sameHere | ⟨leftDead, rightDead⟩
    · rw [← sameHere]
      rcases live.later firstAdvances with liveLater | dead
      · exact (next _).same _ liveLater
      · exact Or.inr ⟨dead.later ((next _).leftAdvances _), dead.later ((next _).rightAdvances _)⟩
    · exact Or.inr
        ⟨leftDead.later ((next _).leftAdvances _), rightDead.later ((next _).rightAdvances _)⟩
  · intro cursor
    rw [value_bind]
    exact (first.leftAdvances cursor).trans ((next _).leftAdvances _)
  · intro cursor
    rw [value_bind]
    exact (first.rightAdvances cursor).trans ((next _).rightAdvances _)

theorem Confined.ite {condition : Prop} [Decidable condition]
    {yesLeft yesRight noLeft noRight : BitCursor → Logged ScanAccess (α × BitCursor)}
    (yes : Confined bound yesLeft yesRight) (no : Confined bound noLeft noRight) :
    Confined bound (fun cursor => if condition then yesLeft cursor else noLeft cursor)
      (fun cursor => if condition then yesRight cursor else noRight cursor) := by
  by_cases holds : condition
  · simpa only [if_pos holds] using yes
  · simpa only [if_neg holds] using no

theorem Confined.congr {left right left' right' : BitCursor → Logged ScanAccess (α × BitCursor)}
    (leftEq : ∀ cursor, left cursor = left' cursor)
    (rightEq : ∀ cursor, right cursor = right' cursor) (reader : Confined bound left' right') :
    Confined bound left right := by
  rw [funext leftEq, funext rightEq]
  exact reader

theorem Confined.afterEmit {left right : BitCursor → Logged ScanAccess (α × BitCursor)}
    (reader : Confined bound left right) (event : BitCursor → ScanAccess) :
    Confined bound (fun cursor => emit (event cursor) >>= fun _ => left cursor)
      (fun cursor => emit (event cursor) >>= fun _ => right cursor) :=
  { same := fun cursor live => by simpa only [value_bind] using reader.same cursor live
    leftAdvances := fun cursor => by simpa only [value_bind] using reader.leftAdvances cursor
    rightAdvances := fun cursor => by simpa only [value_bind] using reader.rightAdvances cursor }

end Confined

/-! ### The bit reader -/

section BitReader

variable {bound : Nat} {left right : Memory}

theorem value_golombPrefix (memory : Memory) (cursor : BitCursor) (golombBits : Nat) :
    (golombPrefix memory cursor golombBits).value =
      if bitMask cursor.fromByteBits &&& memory cursor.frameData ≠ 0 then
        (some golombBits, { cursor with fromByteBits := cursor.fromByteBits + 1 })
      else if 8 ≤ cursor.fromByteBits + 1 then
        if cursor.nextByte.size ≤ 0 then (none, cursor.nextByte)
        else (golombPrefix memory cursor.nextByte (golombBits + 1)).value
      else
        (golombPrefix memory { cursor with fromByteBits := cursor.fromByteBits + 1 }
          (golombBits + 1)).value := by
  rw [golombPrefix]
  simp only [value_bind, value_ite, value_pure]

theorem advances_golombPrefix (memory : Memory) (cursor : BitCursor) (golombBits : Nat) :
    Advances cursor (golombPrefix memory cursor golombBits).value.2 := by
  induction cursor, golombBits using golombPrefix.induct with
  | case1 cursor golombBits behindByte inByte =>
      rw [value_golombPrefix]
      split
      · exact (Advances.refl cursor).withBits _
      · split
        · split
          · exact advances_nextByte cursor
          · rename_i goesOn
            exact (advances_nextByte cursor).trans (behindByte goesOn)
        · rename_i notLast
          exact ((Advances.refl cursor).withBits _).trans (inByte notLast)

/-- The prefix of a code is read within the bound, and the suffix begins there. -/
theorem golombPrefix_congr (agree : AgreeBelow bound left right) {cursor : BitCursor}
    (live : cursor.Live bound) (golombBits : Nat) :
    (golombPrefix left cursor golombBits).value = (golombPrefix right cursor golombBits).value ∧
      ((golombPrefix left cursor golombBits).value.1 ≠ none →
        (golombPrefix left cursor golombBits).value.2.Live bound) := by
  induction cursor, golombBits using golombPrefix.induct with
  | case1 cursor golombBits behindByte inByte =>
      rw [value_golombPrefix left, value_golombPrefix right, ← live.byte_eq agree]
      split
      · exact ⟨rfl, fun _ => live.withBits _⟩
      · split
        · split
          · exact ⟨rfl, fun isSome => absurd rfl isSome⟩
          · rename_i goesOn
            have liveNext : cursor.nextByte.Live bound :=
              (live.later (advances_nextByte cursor)).resolve_right goesOn
            exact behindByte goesOn liveNext
        · rename_i notLast
          exact inByte notLast (live.withBits _)

theorem advances_golombSuffix (memory : Memory) (remaining : Nat) (cursor : BitCursor)
    (golombInfo : Int) :
    Advances cursor (golombSuffix memory remaining cursor golombInfo).value.2 := by
  induction remaining generalizing cursor golombInfo with
  | zero => exact Advances.refl cursor
  | succ remaining ih =>
      by_cases last : cursor.fromByteBits = 8
      · simp only [golombSuffix, value_bind, value_ite, value_pure, last, if_true, true_and]
        by_cases runsOut : cursor.nextByte.size ≤ 0
        · rw [if_pos runsOut]
          exact advances_nextByte cursor
        · rw [if_neg runsOut]
          exact ((advances_nextByte cursor).withBits _).trans (ih _ _)
      · simp only [golombSuffix, value_bind, last, false_and,
          if_false]
        exact ((Advances.refl cursor).withBits _).trans (ih _ _)

theorem golombSuffix_congr (agree : AgreeBelow bound left right) {cursor : BitCursor}
    (live : cursor.Live bound) (remaining : Nat) (golombInfo : Int) :
    (golombSuffix left remaining cursor golombInfo).value =
      (golombSuffix right remaining cursor golombInfo).value := by
  induction remaining generalizing cursor golombInfo with
  | zero => rfl
  | succ remaining ih =>
      by_cases last : cursor.fromByteBits = 8
      · simp only [golombSuffix, value_bind, value_ite, value_pure, last, if_true, true_and]
        by_cases runsOut : cursor.nextByte.size ≤ 0
        · rw [if_pos runsOut, if_pos runsOut]
        · have liveNext : cursor.nextByte.Live bound :=
            (live.later (advances_nextByte cursor)).resolve_right runsOut
          rw [if_neg runsOut, if_neg runsOut, ← liveNext.byte_eq agree]
          exact ih (liveNext.withBits _) _
      · simp only [golombSuffix, value_bind, last, false_and,
          if_false]
        rw [← live.byte_eq agree]
        exact ih (live.withBits _) _

theorem advances_golombCode (memory : Memory) (cursor : BitCursor) :
    Advances cursor (golombCode memory cursor).value.2 := by
  have behindPrefix := advances_golombPrefix memory cursor 0
  simp only [golombCode, value_bind]
  generalize (golombPrefix memory cursor 0).value = afterPrefix at behindPrefix ⊢
  rcases afterPrefix with ⟨golombBits, cursorThere⟩
  cases golombBits with
  | none => exact behindPrefix.withBits _
  | some golombBits =>
      have behindSuffix := advances_golombSuffix memory golombBits cursorThere 0
      simp only [value_bind]
      generalize (golombSuffix memory golombBits cursorThere 0).value = afterSuffix
        at behindSuffix ⊢
      rcases afterSuffix with ⟨golombInfo, cursorLast⟩
      have advances := behindPrefix.trans behindSuffix
      cases golombInfo with
      | none => exact advances.withBits _
      | some golombInfo =>
          simp only [value_bind, value_ite, value_pure]
          split
          · split
            · exact (advances.trans (advances_nextByte cursorLast)).withBits _
            · exact advances.trans (advances_nextByte cursorLast)
          · exact advances

theorem golombCode_congr (agree : AgreeBelow bound left right) {cursor : BitCursor}
    (live : cursor.Live bound) :
    (golombCode left cursor).value = (golombCode right cursor).value := by
  obtain ⟨samePrefix, liveBehind⟩ := golombPrefix_congr agree live 0
  simp only [golombCode, value_bind]
  rw [← samePrefix]
  generalize (golombPrefix left cursor 0).value = afterPrefix at liveBehind ⊢
  rcases afterPrefix with ⟨golombBits, cursorThere⟩
  cases golombBits with
  | none => rfl
  | some golombBits =>
      have liveThere : cursorThere.Live bound := liveBehind (Option.some_ne_none golombBits)
      simp only [value_bind, golombSuffix_congr agree liveThere golombBits 0]

theorem getUeGolomb_congr (agree : AgreeBelow bound left right) {cursor : BitCursor}
    (live : cursor.Live bound) :
    (getUeGolomb left cursor).value = (getUeGolomb right cursor).value := by
  simp only [getUeGolomb, value_bind, value_ite, value_pure, golombCode_congr agree live]

theorem confined_getUeGolomb (agree : AgreeBelow bound left right) :
    Confined bound (getUeGolomb left) (getUeGolomb right) := by
  have advances : ∀ (memory : Memory) (cursor : BitCursor),
      Advances cursor (getUeGolomb memory cursor).value.2 := by
    intro memory cursor
    simp only [getUeGolomb, value_bind, value_ite, value_pure]
    split
    · exact Advances.refl cursor
    · exact advances_golombCode memory cursor
  exact
    { same := fun cursor live => Or.inl (getUeGolomb_congr agree live)
      leftAdvances := advances left
      rightAdvances := advances right }

theorem confined_getSeGolomb (agree : AgreeBelow bound left right) :
    Confined bound (getSeGolomb left) (getSeGolomb right) := by
  have advances : ∀ (memory : Memory) (cursor : BitCursor),
      Advances cursor (getSeGolomb memory cursor).value.2 := by
    intro memory cursor
    have behind := advances_golombCode memory cursor
    simp only [getSeGolomb, value_bind, value_ite, value_pure]
    split
    · exact Advances.refl cursor
    · generalize (golombCode memory cursor).value = code at behind ⊢
      rcases code with ⟨codeNum, cursorThere⟩
      cases codeNum with
      | none => exact behind
      | some codeNum => exact behind
  refine
    { same := fun cursor live => Or.inl ?_
      leftAdvances := advances left
      rightAdvances := advances right }
  simp only [getSeGolomb, value_bind, value_ite, value_pure, golombCode_congr agree live]

theorem confined_getBits1 (agree : AgreeBelow bound left right) :
    Confined bound (getBits1 left) (getBits1 right) := by
  have advances : ∀ (memory : Memory) (cursor : BitCursor),
      Advances cursor (getBits1 memory cursor).value.2 := by
    intro memory cursor
    simp only [getBits1, value_bind, value_ite, value_pure]
    split
    · exact Advances.refl cursor
    · split
      · split
        · exact (advances_nextByte cursor).withBits _
        · exact advances_nextByte cursor
      · exact (Advances.refl cursor).withBits _
  refine
    { same := fun cursor live => Or.inl ?_
      leftAdvances := advances left
      rightAdvances := advances right }
  simp only [getBits1, value_bind, value_ite, value_pure, live.byte_eq agree]

theorem getUeGolomb_of_dead (memory : Memory) {cursor : BitCursor} (dead : cursor.Dead) :
    (getUeGolomb memory cursor).value = (0, cursor) := by
  have noBits : cursor.size ≤ 0 := dead
  rw [getUeGolomb, if_pos noBits, value_pure]

end BitReader

/-! ### Sequence parameter sets -/

section ParameterSets

variable {bound : Nat} {left right : Memory}

theorem confined_decodeScalingFlags (agree : AgreeBelow bound left right) (remaining : Nat)
    (sps : SPS) :
    Confined bound (decodeScalingFlags left remaining sps)
      (decodeScalingFlags right remaining sps) := by
  induction remaining generalizing sps with
  | zero => exact confined_pure sps
  | succ remaining ih =>
      refine Confined.congr (fun _ => decodeScalingFlags.eq_2 _ _ _ _)
        (fun _ => decodeScalingFlags.eq_2 _ _ _ _) ?_
      exact (confined_getBits1 agree).bind fun bits => ih _

theorem confined_decodeRefFrameOffsets (agree : AgreeBelow bound left right)
    (remaining i : Nat) (sps : SPS) :
    Confined bound (decodeRefFrameOffsets left remaining i sps)
      (decodeRefFrameOffsets right remaining i sps) := by
  induction remaining generalizing i sps with
  | zero => exact confined_pure sps
  | succ remaining ih =>
      refine Confined.congr (fun _ => decodeRefFrameOffsets.eq_2 _ _ _ _ _)
        (fun _ => decodeRefFrameOffsets.eq_2 _ _ _ _ _) ?_
      refine Confined.afterEmit ((confined_getSeGolomb agree).bind fun offset => ?_)
        fun cursor => .refFrameRound cursor.size
      exact (ih _ _).afterEmit fun _ => .offsetForRefFrame i

theorem confined_decodeHighProfile (agree : AgreeBelow bound left right) (sps : SPS) :
    Confined bound (decodeHighProfile left sps) (decodeHighProfile right sps) := by
  unfold decodeHighProfile
  refine (confined_getUeGolomb agree).bind fun chroma => ?_
  refine Confined.ite
    ((confined_getBits1 agree).bind fun flag => (confined_pure _).bind fun spsThere => ?_)
    ((confined_pure _).bind fun spsThere => ?_)
  all_goals
    refine (confined_getUeGolomb agree).bind fun luma => ?_
    refine (confined_getUeGolomb agree).bind fun chromaDepth => ?_
    refine (confined_getBits1 agree).bind fun bypass => ?_
    refine (confined_getBits1 agree).bind fun scaling => ?_
    exact Confined.ite (confined_decodeScalingFlags agree 8 _) (confined_pure _)

theorem confined_decodePicOrderCnt (agree : AgreeBelow bound left right) (sps : SPS) :
    Confined bound (decodePicOrderCnt left sps) (decodePicOrderCnt right sps) := by
  unfold decodePicOrderCnt
  refine (confined_getUeGolomb agree).bind fun picOrderCntType => ?_
  refine Confined.ite ?_ (Confined.ite ?_ (confined_pure _))
  · exact (confined_getUeGolomb agree).bind fun log2MaxLsb => confined_pure _
  · refine (confined_getUeGolomb agree).bind fun alwaysZero => ?_
    refine (confined_getSeGolomb agree).bind fun nonRef => ?_
    refine (confined_getSeGolomb agree).bind fun topToBottom => ?_
    refine (confined_getUeGolomb agree).bind fun cycle => ?_
    exact confined_decodeRefFrameOffsets agree cycle.toNat 0 _

end ParameterSets

/-! ### The picture size -/

def SPS.picSize (self : SPS) : Int × Int :=
  (self.picWidthInMbsMinus1, self.picHeightInMapUnitsMinus1)

structure Sized (bound : Nat) (rest : Int × Int)
    (left right : BitCursor → Logged ScanAccess (SPS × BitCursor)) : Prop where
  live : ∀ cursor, cursor.Live bound →
    (left cursor).value.1.picSize = (right cursor).value.1.picSize
  leftDead : ∀ cursor, cursor.Dead → (left cursor).value.1.picSize = rest
  rightDead : ∀ cursor, cursor.Dead → (right cursor).value.1.picSize = rest

section Sized

variable {α : Type} {bound : Nat} {rest : Int × Int}

theorem sized_const {left right : BitCursor → Logged ScanAccess (SPS × BitCursor)}
    (leftEq : ∀ cursor, (left cursor).value.1.picSize = rest)
    (rightEq : ∀ cursor, (right cursor).value.1.picSize = rest) : Sized bound rest left right :=
  { live := fun cursor _ => (leftEq cursor).trans (rightEq cursor).symm
    leftDead := fun cursor _ => leftEq cursor
    rightDead := fun cursor _ => rightEq cursor }

theorem Confined.thenSized {left right : BitCursor → Logged ScanAccess (α × BitCursor)}
    {nextLeft nextRight : α × BitCursor → Logged ScanAccess (SPS × BitCursor)}
    (first : Confined bound left right)
    (next : ∀ value, Sized bound rest (fun cursor => nextLeft (value, cursor))
      (fun cursor => nextRight (value, cursor))) :
    Sized bound rest (fun cursor => left cursor >>= nextLeft)
      (fun cursor => right cursor >>= nextRight) := by
  refine { live := ?_, leftDead := ?_, rightDead := ?_ }
  · intro cursor live
    have advances := first.leftAdvances cursor
    simp only [value_bind]
    rcases first.same cursor live with sameHere | ⟨leftDead, rightDead⟩
    · rw [← sameHere]
      rcases live.later advances with liveLater | dead
      · exact (next _).live _ liveLater
      · exact ((next _).leftDead _ dead).trans ((next _).rightDead _ dead).symm
    · exact ((next _).leftDead _ leftDead).trans ((next _).rightDead _ rightDead).symm
  · intro cursor dead
    rw [value_bind]
    exact (next _).leftDead _ (dead.later (first.leftAdvances cursor))
  · intro cursor dead
    rw [value_bind]
    exact (next _).rightDead _ (dead.later (first.rightAdvances cursor))

theorem sized_code {left right : Memory} (agree : AgreeBelow bound left right)
    {nextLeft nextRight : Int × BitCursor → Logged ScanAccess (SPS × BitCursor)}
    (size : Int → Int × Int)
    (next : ∀ value, Sized bound (size value) (fun cursor => nextLeft (value, cursor))
      (fun cursor => nextRight (value, cursor))) :
    Sized bound (size 0) (fun cursor => getUeGolomb left cursor >>= nextLeft)
      (fun cursor => getUeGolomb right cursor >>= nextRight) := by
  refine { live := ?_, leftDead := ?_, rightDead := ?_ }
  · intro cursor live
    have advances := (confined_getUeGolomb agree).leftAdvances cursor
    simp only [value_bind]
    rw [← getUeGolomb_congr agree live]
    rcases live.later advances with liveLater | dead
    · exact (next _).live _ liveLater
    · exact ((next _).leftDead _ dead).trans ((next _).rightDead _ dead).symm
  · intro cursor dead
    rw [value_bind, getUeGolomb_of_dead left dead]
    exact (next 0).leftDead cursor dead
  · intro cursor dead
    rw [value_bind, getUeGolomb_of_dead right dead]
    exact (next 0).rightDead cursor dead

theorem picSize_of_sized {left right : Memory} (agree : AgreeBelow bound left right)
    {cursor : BitCursor} (inside : (cursor.frameData : Int) + cursor.size ≤ bound)
    {nextLeft nextRight : Int × BitCursor → Logged ScanAccess (SPS × BitCursor)}
    (next : ∀ value, Sized bound rest (fun cursor => nextLeft (value, cursor))
      (fun cursor => nextRight (value, cursor))) :
    (getUeGolomb left cursor >>= nextLeft).value.1.picSize =
        (getUeGolomb right cursor >>= nextRight).value.1.picSize ∧
      (cursor.Dead → (getUeGolomb left cursor >>= nextLeft).value.1.picSize = rest) := by
  have sized := (confined_getUeGolomb agree).thenSized next
  refine ⟨?_, sized.leftDead cursor⟩
  by_cases positive : 0 < cursor.size
  · exact sized.live cursor { positive := positive, inside := inside }
  · have dead : cursor.Dead := Int.not_lt.mp positive
    exact (sized.leftDead cursor dead).trans (sized.rightDead cursor dead).symm

theorem Sized.ite {condition : Prop} [Decidable condition]
    {yesLeft yesRight noLeft noRight : BitCursor → Logged ScanAccess (SPS × BitCursor)}
    (yes : Sized bound rest yesLeft yesRight) (no : Sized bound rest noLeft noRight) :
    Sized bound rest (fun cursor => if condition then yesLeft cursor else noLeft cursor)
      (fun cursor => if condition then yesRight cursor else noRight cursor) := by
  by_cases holds : condition
  · simpa only [if_pos holds] using yes
  · simpa only [if_neg holds] using no

end Sized

theorem picSize_decodeCropping (memory : Memory) (sps : SPS) (cursor : BitCursor) :
    (decodeCropping memory sps cursor).value.1.picWidthInMbsMinus1 = sps.picWidthInMbsMinus1 ∧
      (decodeCropping memory sps cursor).value.1.picHeightInMapUnitsMinus1 =
        sps.picHeightInMapUnitsMinus1 := by
  simp only [decodeCropping, value_bind, value_pure, and_self]

/-- Everything from the three bytes of the profile on, when they are the same. -/
theorem sized_h264DecodeSPS {bound : Nat} {left right : Memory}
    (agree : AgreeBelow bound left right) {frameData : Nat} (size : Int) (sps : SPS)
    (profile : left frameData = right frameData ∧ left (frameData + 1) = right (frameData + 1) ∧
      left (frameData + 2) = right (frameData + 2))
    (inside : (frameData : Int) + size ≤ bound) :
    (h264DecodeSPS left frameData size sps).value.1.picSize =
        (h264DecodeSPS right frameData size sps).value.1.picSize ∧
      (size - 3 ≤ 0 → (h264DecodeSPS left frameData size sps).value.1.picSize = (0, 0)) := by
  rw [h264DecodeSPS, h264DecodeSPS, profile.1, profile.2.1, profile.2.2,
    value_bind (emit _), value_bind (emit _)]
  refine picSize_of_sized agree ?_ fun seqParameterSetId => ?_
  · dsimp only
    omega
  refine Sized.ite ((confined_decodeHighProfile agree _).thenSized fun spsThere => ?_)
    ((confined_pure _).thenSized fun spsThere => ?_)
  all_goals
    refine (confined_getUeGolomb agree).thenSized fun log2MaxFrameNum => ?_
    refine (confined_decodePicOrderCnt agree _).thenSized fun spsBehind => ?_
    refine (confined_getUeGolomb agree).thenSized fun numRefFrames => ?_
    refine (confined_getBits1 agree).thenSized fun gaps => ?_
    refine sized_code agree (fun width => (width, 0)) fun width => ?_
    refine sized_code agree (fun height => (width, height)) fun height => ?_
    refine sized_const (fun cursor => ?_) (fun cursor => ?_)
    all_goals
      simp only [value_bind, value_ite, value_pure]
      split <;> split <;>
        simp only [SPS.picSize, picSize_decodeCropping]

theorem h264DecodeSPS_congr {bound : Nat} {left right : Memory}
    (agree : AgreeBelow bound left right) (frameData : Nat) (size : Int) (sps : SPS)
    (inside : (frameData : Int) + size ≤ bound) :
    (h264DecodeSPS left frameData size sps).value.1.picSize =
      (h264DecodeSPS right frameData size sps).value.1.picSize := by
  by_cases short : size - 3 ≤ 0
  · have ofOne : ∀ memory, (h264DecodeSPS memory frameData size sps).value.1.picSize = (0, 0) := by
      intro memory
      have same : AgreeBelow bound memory memory := fun _ _ => rfl
      exact (sized_h264DecodeSPS same size sps ⟨rfl, rfl, rfl⟩ inside).2 short
    rw [ofOne left, ofOne right]
  · have profile : left frameData = right frameData ∧
        left (frameData + 1) = right (frameData + 1) ∧
          left (frameData + 2) = right (frameData + 2) :=
      ⟨agree _ (by omega), agree _ (by omega), agree _ (by omega)⟩
    exact (sized_h264DecodeSPS agree size sps profile inside).1

/-! ### Key frames -/

section KeyFrames

variable {bound : Nat} {left right : Memory}

theorem StartCodeAt.congr (agree : AgreeBelow bound left right) (data : Nat)
    (inside : data + 4 ≤ bound) : StartCodeAt left data ↔ StartCodeAt right data := by
  rw [StartCodeAt, StartCodeAt, agree data (by omega), agree (data + 1) (by omega),
    agree (data + 2) (by omega), agree (data + 3) (by omega)]

theorem reportSize_congr (agree : AgreeBelow bound left right) {nSize frameData nNaluSize : Nat}
    (long : nNaluSize + 4 ≤ nSize) (inside : frameData + (nSize - nNaluSize) ≤ bound)
    (startCode : StartCodeAt left frameData) :
    (reportSize left nSize frameData nNaluSize).value =
      (reportSize right nSize frameData nNaluSize).value := by
  have sizeInside := getNALSize_inside (nSize - nNaluSize) (by omega) startCode
  have sameSize := getNALSize_congr agree inside
  simp only [reportSize, value_bind, value_pure, ← sameSize]
  generalize (getNALSize left frameData (nSize - nNaluSize)).value.2 = size at sizeInside ⊢
  have samePicture := h264DecodeSPS_congr agree (frameData + 5) ((size : Int) - 1) default
    (by push_cast; omega)
  rw [SPS.picSize, SPS.picSize, Prod.mk.injEq] at samePicture
  rw [samePicture.1, samePicture.2]

theorem skipToStartCode_congr (agree : AgreeBelow bound left right)
    {nSize : Nat} (frameData nNaluSize : Nat)
    (inside : frameData + (nSize - nNaluSize) ≤ bound) :
    (skipToStartCode left nSize frameData nNaluSize).value =
      (skipToStartCode right nSize frameData nNaluSize).value := by
  induction gap : nSize - nNaluSize generalizing frameData nNaluSize with
  | zero =>
      rw [value_skipToStartCode, if_neg (by omega), value_skipToStartCode, if_neg (by omega)]
  | succ gap ih =>
      rw [value_skipToStartCode left, value_skipToStartCode right]
      by_cases inRange : nNaluSize < nSize - 3
      · have same := StartCodeAt.congr agree frameData (by omega)
        simp only [same, inRange, and_true,
          ih (frameData + 1) (nNaluSize + 1) (by omega) (by omega)]
      · rw [if_neg (fun both => inRange both.2), if_neg (fun both => inRange both.2)]

/-- The scan finds the same, unless it reaches a start code at the end of the bytes that are
the same. -/
theorem keyFrameLoop_congr (agree : AgreeBelow bound left right) {nSize : Nat}
    (inside : nSize ≤ bound)
    (terminated : 4 ≤ nSize → nSize = bound → StartCodeAt left (nSize - 4) →
      ∃ data, data + 4 < nSize ∧ SpsAt left data)
    {nNaluSize : Nat} (searched : ∀ data, data < nNaluSize → data + 4 < nSize → ¬ SpsAt left data) :
    (keyFrameLoop left nSize nNaluSize nNaluSize).value =
      (keyFrameLoop right nSize nNaluSize nNaluSize).value := by
  induction gap : nSize - nNaluSize using Nat.strongRecOn generalizing nNaluSize with
  | ind gap ih =>
      rw [keyFrameLoop, keyFrameLoop.eq_def right]
      by_cases goesOn : nNaluSize < nSize
      · obtain ⟨stop, behind, foundEq, startCode, none⟩ :=
          skipToStartCode_reaches left nSize nNaluSize
        have sameSearch := @skipToStartCode_congr bound left right agree nSize nNaluSize nNaluSize
          (by omega)
        simp only [if_pos goesOn, value_bind, value_ite, ← sameSearch, foundEq]
        by_cases found : stop < nSize - 3
        · have here := startCode found
          have searchedLater : ∀ data, data < stop → data + 4 < nSize →
              ¬ SpsAt left data := by
            intro data before inSize
            by_cases old : data < nNaluSize
            · exact searched data old inSize
            · exact fun sps => none data (Nat.not_lt.mp old) before sps.1
          have inRange : stop + 4 < bound := by
            by_contra atEnd
            obtain ⟨data, inSize, sps⟩ := terminated (by omega) (by omega)
              ((by omega : stop = nSize - 4) ▸ here)
            exact searchedLater data (by omega) inSize sps
          rw [if_pos found, if_pos found, ← agree _ inRange]
          split
          · exact reportSize_congr agree (by omega) (by omega) here
          · rename_i notSps
            refine ih _ ?_ ?_ rfl
            · omega
            · intro data before inSize sps
              by_cases old : data < stop
              · exact searchedLater data old inSize sps
              · by_cases same : data = stop
                · rw [same] at sps
                  exact notSps sps.2
                · have apart := here.apart sps.1 (by omega)
                  omega
        · rw [if_neg found, if_neg found]
      · rw [if_neg goesOn, if_neg goesOn]

/-- The scan of a frame with these bytes looks behind their end: they end in a start code,
and no parameter set stops the scan before. -/
def RunsOver (bytes : List UInt8) : Prop :=
  4 < bytes.length ∧ bytes.length ≤ 1024 ∧ [0, 0, 0, 1] <:+ bytes ∧
    ∀ front header rest, bytes = front ++ [0, 0, 0, 1] ++ header :: rest → header &&& 0x1f ≠ 7

/-- `Is_H264KeyFrame` depends on the bytes of the frame only, unless it runs over. -/
theorem isH264KeyFrame_congr {nSize : Nat} (agree : AgreeBelow nSize left right)
    (stays : ¬ RunsOver (read left 0 nSize)) :
    (isH264KeyFrame left 0 nSize).value = (isH264KeyFrame right 0 nSize).value := by
  rw [isH264KeyFrame, isH264KeyFrame]
  by_cases short : nSize ≤ 4
  · rw [if_pos short, if_pos short]
  rw [if_neg short, if_neg short]
  refine keyFrameLoop_congr agree (Nat.min_le_left nSize 1024) ?_
    (fun data before => absurd before (Nat.not_lt_zero data))
  intro long whole startCode
  rw [whole] at startCode ⊢
  have small : nSize ≤ 1024 := by omega
  by_contra noSps
  refine stays ⟨?_, ?_, ?_, ?_⟩
  · rw [length_read]
    omega
  · rw [length_read]
    exact small
  · refine ⟨read left 0 (nSize - 4), ?_⟩
    rw [← read_of_startCodeAt startCode]
    conv_rhs => rw [show nSize = (nSize - 4) + 4 by omega, read_append, Nat.zero_add]
  · intro front header rest bytesEq sps
    refine noSps ⟨front.length, ?_, ?_⟩
    · have lengths := congrArg List.length bytesEq
      simp only [length_read, List.length_append, List.length_cons, List.length_nil] at lengths
      omega
    · have held : read left 0 (front ++ ([0, 0, 0, 1] ++ header :: rest)).length =
          front ++ ([0, 0, 0, 1] ++ header :: rest) := by
        rw [← List.append_assoc, ← bytesEq, length_read]
      have behind := (split_of_read_eq held).2
      rw [Nat.zero_add] at behind
      have byteAt := getElem_of_read_eq behind
      refine ⟨⟨byteAt 0 (by simp), byteAt 1 (by simp), byteAt 2 (by simp), byteAt 3 (by simp)⟩,
        ?_⟩
      rw [byteAt 4 (by simp)]
      exact sps

end KeyFrames

end DShowCapture
