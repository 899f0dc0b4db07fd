/-
The picture size of a sequence parameter set that was written in the syntax of H.264.

The parser reads a parameter set as it was written, unless it carries scaling lists, a picture
order count of type one with a cleared flag, or a profile that the parser takes for another
kind; nor does it know of emulation prevention bytes.  What it then reports is the size in
macroblocks, without the field factor and the cropping.
-/
import DShowCapture.KeyFrame.SpsFields
import DShowCapture.Library.SeqParameterSet

namespace DShowCapture

open ByteMemory hiding ofBytes
open BitString hiding value
open ExpGolomb FixedWidth Logged AnnexB H264Syntax BitCursor

/-! ### Fields in front of other bits -/

namespace Field

section Parses

variable {α β ι : Type}

def Parses (field : Field α) (bits : List Bool) (value : α) : Prop :=
  ∀ rest, rest ≠ [] → field (bits ++ rest) = some (value, rest)

theorem Parses.bind {field : Field α} {next : α → Field β} {bits bits' : List Bool} {value : α}
    {value' : β} (first : Parses field bits value) (second : Parses (next value) bits' value') :
    Parses (field >>= next) (bits ++ bits') value' := by
  intro rest more
  rw [bind_apply, List.append_assoc, first _ (List.append_ne_nil_of_right_ne_nil bits' more),
    Option.bind_some]
  exact second rest more

theorem Parses.bind_pure {field : Field α} {function : α → β} {bits : List Bool} {value : α}
    (parses : Parses field bits value) :
    Parses (field >>= fun value => pure (function value)) bits (function value) := by
  intro rest more
  rw [bind_apply, parses rest more, Option.bind_some]
  rfl

theorem parses_pure (value : α) : Parses (pure value) [] value := fun _ _ => rfl

theorem parses_flag (bit : Bool) : Parses flag [bit] bit := by
  intro rest more
  obtain ⟨next, later, rfl⟩ := List.exists_cons_of_ne_nil more
  rfl

theorem parses_code (number : Nat) :
    Parses code (ExpGolomb.code number) (fixed (Nat.log2 (number + 1)) (number + 1)) := by
  intro rest more
  obtain ⟨next, later, rfl⟩ := List.exists_cons_of_ne_nil more
  rw [code, split_code]

def readNumber (number : Nat) : Int := codeNum (fixed (Nat.log2 (number + 1)) (number + 1))

theorem readNumber_of_lt {number : Nat} (small : number < 2147483647) :
    readNumber number = number := by
  have low : 2 ^ Nat.log2 (number + 1) ≤ number + 1 := Nat.log2_self_le (Nat.succ_ne_zero number)
  have numberEq := number_fixed number
  have suffixLt := value_lt (fixed (Nat.log2 (number + 1)) (number + 1))
  rw [ExpGolomb.number] at numberEq
  rw [readNumber, codeNum]
  rw [length_fixed] at numberEq suffixLt ⊢
  generalize BitString.value (fixed (Nat.log2 (number + 1)) (number + 1)) = suffix
    at numberEq suffixLt ⊢
  have powEq : (2 : Int) ^ Nat.log2 (number + 1) = (2 ^ Nat.log2 (number + 1) : Nat) := by
    push_cast
    rfl
  rw [powEq]
  have positive := Nat.two_pow_pos (Nat.log2 (number + 1))
  generalize 2 ^ Nat.log2 (number + 1) = marker at low numberEq suffixLt positive ⊢
  have truncated : truncateToInt marker = marker := by
    rw [truncateToInt, if_pos ⟨by omega, by omega⟩]
  rw [truncated, i32_natCast suffix (by omega)]
  unfold i32
  omega

theorem parses_unsigned (number : Nat) :
    Parses unsigned (ExpGolomb.code number) (readNumber number) := by
  intro rest more
  rw [unsigned, map_apply, parses_code number rest more]
  rfl

theorem parses_signed (signed : Int) :
    ∃ value, Parses Field.signed (ExpGolomb.signedCode signed) value := by
  refine ⟨DShowCapture.signedCode (readNumber (signedNumber signed)), ?_⟩
  intro rest more
  rw [Field.signed, map_apply, ExpGolomb.signedCode, parses_code _ rest more]
  rfl

theorem parses_repeated {field : Field α} {bitsOf : ι → List Bool} (items : List ι)
    (each : ∀ item, item ∈ items → ∃ value, Parses field (bitsOf item) value) :
    Parses (repeated items.length field) (items.flatMap bitsOf) () := by
  induction items with
  | nil => exact parses_pure ()
  | cons item rest ih =>
      obtain ⟨value, parses⟩ := each item List.mem_cons_self
      rw [List.flatMap_cons]
      exact parses.bind (ih fun other member => each other (List.mem_cons_of_mem item member))

end Parses

end Field

/-! ### Parameter sets that are read as they were written -/

structure ReadAsWritten (sps : SeqParameterSet) : Prop where
  profile : readsHighProfile sps.profileIdc = decide (sps.profileIdc ∈ highProfiles)
  chroma : sps.highFields.chromaFormatIdc < 2147483647
  noLists : sps.profileIdc ∈ highProfiles → ∀ lists, sps.highFields.scalingMatrix = some lists →
    lists.length = 8 ∧ ∀ list, list ∈ lists → list = none
  cycle : ∀ alwaysZero nonRef topToBottom refFrames,
    sps.picOrderCnt = .cycle alwaysZero nonRef topToBottom refFrames →
      alwaysZero = true ∧ refFrames.length < 2147483647

section Sizes

variable {sps : SeqParameterSet}

theorem parses_highProfile {fields : HighFields} (chroma : fields.chromaFormatIdc < 2147483647)
    (noLists : ∀ lists, fields.scalingMatrix = some lists →
      lists.length = 8 ∧ ∀ list, list ∈ lists → list = none) :
    Field.Parses Field.highProfile fields.bits () := by
  have chromaIff : Field.readNumber fields.chromaFormatIdc = 3 ↔ fields.chromaFormatIdc = 3 := by
    rw [Field.readNumber_of_lt chroma]
    omega
  have behind : Field.Parses
      (do
        let _ ← Field.unsigned
        let _ ← Field.unsigned
        let _ ← Field.flag
        let scaling ← Field.flag
        if scaling = true then Field.repeated 8 Field.flag
        else pure ())
      (code fields.bitDepthLumaMinus8 ++ (code fields.bitDepthChromaMinus8 ++
        ([fields.qpprimeYZeroTransformBypass] ++
          HighFields.matrixBits fields.scalingMatrix))) () := by
    refine (Field.parses_unsigned _).bind ((Field.parses_unsigned _).bind
      ((Field.parses_flag _).bind ?_))
    cases matrix : fields.scalingMatrix with
    | none => exact (Field.parses_flag false).bind (Field.parses_pure ())
    | some lists =>
        obtain ⟨eight, allAbsent⟩ := noLists lists matrix
        apply (Field.parses_flag true).bind
        rw [if_pos rfl, ← eight]
        refine Field.parses_repeated lists fun list member => ⟨false, ?_⟩
        rw [allAbsent list member]
        exact Field.parses_flag false
  rw [HighFields.bits, Field.highProfile]
  simp only [List.append_assoc]
  apply (Field.parses_unsigned _).bind
  by_cases isThree : fields.chromaFormatIdc = 3
  · rw [if_pos isThree, if_pos (chromaIff.mpr isThree)]
    exact (Field.parses_flag _).bind behind
  · rw [if_neg isThree, if_neg fun other => isThree (chromaIff.mp other), List.nil_append]
    exact behind

theorem parses_picOrderCnt {picOrderCnt : PicOrderCnt}
    (cycle : ∀ alwaysZero nonRef topToBottom refFrames,
      picOrderCnt = .cycle alwaysZero nonRef topToBottom refFrames →
        alwaysZero = true ∧ refFrames.length < 2147483647) :
    Field.Parses Field.picOrderCnt picOrderCnt.bits () := by
  have typeEq : ∀ {number : Nat}, number < 3 → Field.readNumber number = number :=
    fun small => Field.readNumber_of_lt (by omega)
  rw [Field.picOrderCnt]
  cases picOrderCnt with
  | lsb log2MaxLsb =>
      apply (Field.parses_unsigned 0).bind
      rw [typeEq (by decide), if_pos (by decide)]
      exact (Field.parses_unsigned log2MaxLsb).bind_pure
  | cycle alwaysZero nonRef topToBottom refFrames =>
      obtain ⟨isZero, few⟩ := cycle _ _ _ _ rfl
      obtain ⟨nonRefValue, nonRefParses⟩ := Field.parses_signed nonRef
      obtain ⟨topValue, topParses⟩ := Field.parses_signed topToBottom
      simp only [PicOrderCnt.bits, List.append_assoc, isZero]
      apply (Field.parses_unsigned 1).bind
      rw [typeEq (by decide), if_neg (by decide), if_pos (by decide), Field.cycleThen]
      refine (Field.parses_unsigned 0).bind (nonRefParses.bind (topParses.bind
        ((Field.parses_unsigned refFrames.length).bind ?_)))
      rw [Field.readNumber_of_lt few, Int.toNat_natCast]
      exact Field.parses_repeated refFrames fun offset _ => Field.parses_signed offset
  | display =>
      rw [PicOrderCnt.bits, ← List.append_nil (code 2)]
      apply (Field.parses_unsigned 2).bind
      rw [typeEq (by decide), if_neg (by decide), if_neg (by decide)]
      exact Field.parses_pure ()

/-- The width and the height stand where the parser looks for them. -/
theorem parses_size (asWritten : ReadAsWritten sps) :
    Field.Parses (Field.size (readsHighProfile sps.profileIdc)) sps.sizeBits
      (Field.readNumber sps.picWidthInMbsMinus1,
        Field.readNumber sps.picHeightInMapUnitsMinus1) := by
  have behind : Field.Parses
      (do
        let _ ← Field.unsigned
        let _ ← Field.picOrderCnt
        let _ ← Field.unsigned
        let _ ← Field.flag
        let width ← Field.unsigned
        let height ← Field.unsigned
        pure (width, height))
      (code sps.log2MaxFrameNumMinus4 ++ (sps.picOrderCnt.bits ++ (code sps.maxNumRefFrames ++
        ([sps.gapsInFrameNumValueAllowed] ++ (code sps.picWidthInMbsMinus1 ++
          code sps.picHeightInMapUnitsMinus1)))))
      (Field.readNumber sps.picWidthInMbsMinus1,
        Field.readNumber sps.picHeightInMapUnitsMinus1) := by
    refine (Field.parses_unsigned _).bind ((parses_picOrderCnt asWritten.cycle).bind ?_)
    refine (Field.parses_unsigned _).bind ((Field.parses_flag _).bind ?_)
    exact (Field.parses_unsigned _).bind (Field.parses_unsigned _).bind_pure
  rw [SeqParameterSet.sizeBits, Field.size, Field.sizeThen, asWritten.profile]
  simp only [List.append_assoc]
  apply (Field.parses_unsigned _).bind
  by_cases high : sps.profileIdc ∈ highProfiles
  · rw [if_pos high, if_pos (decide_eq_true high)]
    exact (parses_highProfile asWritten.chroma (asWritten.noLists high)).bind behind
  · rw [if_neg high, if_neg (by rw [decide_eq_true_iff]; exact high), List.nil_append]
    exact behind

end Sizes

/-! ### What is reported -/

def reportFor (sps : SeqParameterSet) : KeyFrameReport :=
  { returned := true
    width := i32 ((Field.readNumber sps.picWidthInMbsMinus1 + 1) * 16)
    height := i32 ((Field.readNumber sps.picHeightInMapUnitsMinus1 + 1) * 16) }

structure HoldsSize (sps : SeqParameterSet) (payload : List UInt8) : Prop where
  profile : payload.head? = some sps.profileIdc
  bits : ∃ rest, rest ≠ [] ∧ ofBytes (payload.drop 3) = sps.sizeBits ++ rest

theorem reportSize_of_sps {memory : Memory} {nSize data : Nat} {header : UInt8}
    {payload : List UInt8} {sps : SeqParameterSet} (startCode : StartCodeAt memory data)
    (window : data + 4 + (header :: payload).length ≤ nSize)
    (held : read memory (data + 4) (header :: payload).length = header :: payload)
    (writable : Writable (header :: payload)) (holdsSize : HoldsSize sps payload)
    (asWritten : ReadAsWritten sps) :
    (reportSize memory nSize data data).value = reportFor sps := by
  rcases holdsSize.bits with ⟨rest, more, bitsEq⟩
  have long : 3 < payload.length := by
    by_contra short
    rw [List.drop_eq_nil_of_le (by omega)] at bitsEq
    exact List.append_ne_nil_of_right_ne_nil _ more bitsEq.symm
  have headEq := isNalHead_of_startCodeAt (by omega : 4 ≤ nSize - data) startCode
  have spec := getNALSize_spec memory data (nSize - data) (by omega)
  rw [headEq] at spec
  rcases spec with ⟨_, _, prefixEq, _⟩
  obtain ⟨left, leftEq⟩ := Nat.exists_eq_add_of_le
    (by omega : (header :: payload).length ≤ nSize - data - 4)
  rw [leftEq, read_append, held, unitPrefix_append writable] at prefixEq
  generalize unitPrefix (read memory (data + 4 + (header :: payload).length) left) = extra
    at prefixEq
  rw [reportSize, value_bind]
  generalize (getNALSize memory data (nSize - data)).value = measured at prefixEq ⊢
  rcases measured with ⟨signLen, size⟩
  dsimp only at prefixEq ⊢
  have sizeEq : size = payload.length + extra.length + 1 := by
    have lengths := congrArg List.length prefixEq
    rw [length_read, List.length_append, List.length_cons] at lengths
    omega
  have behindHeader : read memory (data + 5) (payload.length + extra.length) =
      payload ++ extra := by
    rw [sizeEq, read_succ, List.cons_append, List.cons.injEq] at prefixEq
    exact prefixEq.2.symm
  have profileEq : memory (data + 5) = sps.profileIdc := by
    obtain ⟨profile, others⟩ := List.head?_eq_some_iff.mp holdsSize.profile
    rw [others, List.cons_append, ← others, show payload.length + extra.length =
      payload.length - 1 + extra.length + 1 by omega, read_succ, List.cons.injEq] at behindHeader
    exact behindHeader.1
  have behindProfile : read memory (data + 5 + 3) ((size : Int) - 1 - 3).toNat =
      payload.drop 3 ++ extra := by
    have dropped := drop_read memory (data + 5) (payload.length + extra.length) 3 (by omega)
    rw [behindHeader, List.drop_append_of_le_length (by omega)] at dropped
    rw [dropped]
    congr 1
    omega
  have fields := parses_size asWritten (rest ++ ofBytes extra)
    (List.append_ne_nil_of_left_ne_nil more _)
  rw [← List.append_assoc, ← bitsEq, ← ofBytes_append, ← behindProfile, ← profileEq] at fields
  have picSizeEq := picSize_h264DecodeSPS default (by omega) fields
  rw [SPS.picSize, Prod.mk.injEq] at picSizeEq
  simp only [value_bind, value_pure, picSizeEq.1, picSizeEq.2, reportFor]

/-! ### The first parameter set of a frame -/

section Frames

variable {memory : Memory} {before after : List (Nat × List UInt8)} {zeros : Nat}
  {header : UInt8} {payload : List UInt8}

theorem no_spsAt_before (free : ∀ part, part ∈ before ++ (zeros + 1, header :: payload) :: after →
      ¬ [0, 0, 1] <:+: part.2)
    (others : ∀ part, part ∈ before →
      ∃ first rest, part.2 = first :: rest ∧ first &&& 0x1f ≠ 7)
    (held : read memory 0 (write (before ++ (zeros + 1, header :: payload) :: after)).length =
      write (before ++ (zeros + 1, header :: payload) :: after))
    {data : Nat} (earlier : data < (write before).length + zeros) : ¬ SpsAt memory data := by
  rintro ⟨startCode, isSps⟩
  have lengthEq : (write (before ++ (zeros + 1, header :: payload) :: after)).length =
      (write before).length + (zeros + 4 + (payload.length + 1) + (write after).length) := by
    rw [write_append, write_cons, startCode_succ]
    simp only [List.length_append, List.length_replicate, List.length_cons, List.length_nil]
    omega
  generalize partsEq : before ++ (zeros + 1, header :: payload) :: after = parts
    at free held lengthEq
  obtain ⟨left, leftEq⟩ := Nat.exists_eq_add_of_le
    (by omega : data + 4 + 1 ≤ (write parts).length)
  have here : (write parts).drop (data + 1) =
      [0, 0, 1] ++ read memory (data + 4) (left + 1) := by
    rw [← held, drop_read _ _ _ _ (by omega), Nat.zero_add,
      show (write parts).length - (data + 1) = left + 1 + 1 + 1 + 1 by omega, read_succ,
      read_succ, read_succ, startCode.2.1, startCode.2.2.1, startCode.2.2.2]
    rfl
  obtain ⟨before', zeros', nal, after', partsEq', positionEq, followingEq⟩ :=
    unit_of_startCode free here
  have member : (zeros', nal) ∈ before := by
    rw [← partsEq] at partsEq'
    rcases List.append_eq_append_iff.mp partsEq' with
      ⟨between, beforeEq, behindEq⟩ | ⟨between, beforeEq, behindEq⟩
    · cases between with
      | nil =>
          rw [List.nil_append, List.cons.injEq, Prod.mk.injEq] at behindEq
          rw [beforeEq, List.append_nil] at positionEq
          omega
      | cons part between =>
          rw [List.cons_append, List.cons.injEq] at behindEq
          rw [beforeEq, write_append, ← behindEq.1, write_cons, startCode_succ] at positionEq
          simp only [List.length_append, List.length_replicate, List.length_cons] at positionEq
          omega
    · cases between with
      | nil =>
          rw [List.nil_append, List.cons.injEq, Prod.mk.injEq] at behindEq
          rw [beforeEq, List.append_nil] at earlier
          omega
      | cons part between =>
          rw [List.cons_append, List.cons.injEq] at behindEq
          rw [beforeEq, behindEq.1]
          exact List.mem_append_right before' List.mem_cons_self
  obtain ⟨first, rest, nalEq, otherType⟩ := others _ member
  dsimp only at nalEq
  rw [nalEq, read_succ, List.cons_append, List.cons.injEq] at followingEq
  rw [followingEq.1] at isSps
  exact otherType isSps

theorem startCodeAt_of_write
    (held : read memory 0 (write (before ++ (zeros + 1, header :: payload) :: after)).length =
      write (before ++ (zeros + 1, header :: payload) :: after)) :
    StartCodeAt memory ((write before).length + zeros) ∧
      read memory ((write before).length + zeros + 4) (header :: payload).length =
        header :: payload ∧
      (write before).length + zeros + 4 + (header :: payload).length ≤
        (write (before ++ (zeros + 1, header :: payload) :: after)).length := by
  have frameEq : write (before ++ (zeros + 1, header :: payload) :: after) =
      (write before ++ List.replicate zeros 0) ++
        ([0, 0, 0, 1] ++ ((header :: payload) ++ write after)) := by
    rw [write_append, write_cons, startCode_succ]
    simp only [List.append_assoc]
  have frontLength : (write before ++ List.replicate zeros (0 : UInt8)).length =
      (write before).length + zeros := by
    rw [List.length_append, List.length_replicate]
  rw [frameEq] at held ⊢
  rw [← frontLength]
  generalize write before ++ List.replicate zeros (0 : UInt8) = front at held ⊢
  have behindFront := (split_of_read_eq held).2
  rw [Nat.zero_add] at behindFront
  obtain ⟨codeHeld, behindCode⟩ := split_of_read_eq behindFront
  have codeAt := getElem_of_read_eq codeHeld
  refine ⟨⟨codeAt 0 (by decide), codeAt 1 (by decide), codeAt 2 (by decide),
    codeAt 3 (by decide)⟩, (split_of_read_eq behindCode).1, ?_⟩
  simp only [List.length_append, List.length_cons, List.length_nil]
  omega

/-- The frame is recognized by its first parameter set, and the size is taken from it. -/
theorem isH264KeyFrame_of_write {sps : SeqParameterSet}
    (noneBefore : ∀ data, data < (write before).length + zeros → ¬ SpsAt memory data)
    (held : read memory 0 (write (before ++ (zeros + 1, header :: payload) :: after)).length =
      write (before ++ (zeros + 1, header :: payload) :: after))
    (isSps : header &&& 0x1f = 7)
    (early : (write before).length + zeros + 4 + (header :: payload).length ≤ 1024)
    (writable : Writable (header :: payload)) (holdsSize : HoldsSize sps payload)
    (asWritten : ReadAsWritten sps) :
    (isH264KeyFrame memory 0
        (write (before ++ (zeros + 1, header :: payload) :: after)).length).value =
      reportFor sps := by
  obtain ⟨startCode, nalHeld, inFrame⟩ := startCodeAt_of_write held
  have headerEq := (head_of_read_eq nalHeld).1
  generalize (write (before ++ (zeros + 1, header :: payload) :: after)).length = nSize
    at inFrame ⊢
  generalize (write before).length + zeros = position
    at noneBefore early startCode nalHeld inFrame headerEq
  have window : position + 4 + (header :: payload).length ≤ min nSize 1024 :=
    Nat.le_min.mpr ⟨inFrame, early⟩
  have nonempty : 0 < (header :: payload).length := Nat.zero_lt_succ payload.length
  rw [isH264KeyFrame, if_neg (by omega), keyFrameLoop_of_sps (Nat.zero_le _)
    (by omega : position < min nSize 1024 - 3) ⟨startCode, by rw [headerEq]; exact isSps⟩
    fun data _ => noneBefore data]
  exact reportSize_of_sps startCode window nalHeld writable holdsSize asWritten

theorem writable_rbsp {sps : SeqParameterSet}
    (noPattern : ∀ third, third ≤ 3 → ¬ [0, 0, third] <:+: header :: sps.rbsp) :
    Writable (header :: sps.rbsp) := by
  have last := sps.getLast_rbsp_ne_zero
  have nonempty : sps.rbsp ≠ [] := List.cons_ne_nil _ _
  refine
    { nonempty := List.cons_ne_nil _ _
      noZeros := noPattern 0 (by decide)
      noStartCode := noPattern 1 (by decide)
      lastNonzero := ?_ }
  rw [← List.singleton_append, List.getLast?_append_of_ne_nil _ nonempty]
  exact last

/-- A parameter set without scaling lists and without a picture order count of type one, whose
profile is one of the common ones. -/
structure Common (sps : SeqParameterSet) : Prop where
  profile : sps.profileIdc ∈ ([66, 77, 88, 100, 110, 122] : List UInt8)
  noMatrix : sps.highFields.scalingMatrix = none
  noCycle : ∀ alwaysZero nonRef topToBottom refFrames,
    sps.picOrderCnt ≠ .cycle alwaysZero nonRef topToBottom refFrames
  chroma : sps.highFields.chromaFormatIdc ≤ 65535
  width : sps.picWidthInMbsMinus1 ≤ 65535
  height : sps.picHeightInMapUnitsMinus1 ≤ 65535

theorem Common.asWritten {sps : SeqParameterSet} (common : Common sps) : ReadAsWritten sps := by
  have chroma := common.chroma
  refine { profile := ?_, chroma := by omega, noLists := ?_, cycle := ?_ }
  · have agrees : (([66, 77, 88, 100, 110, 122] : List UInt8).all fun profile =>
        readsHighProfile profile == decide (profile ∈ highProfiles)) = true := by decide
    exact eq_of_beq (List.all_eq_true.mp agrees _ common.profile)
  · intro high lists matrix
    rw [common.noMatrix] at matrix
    cases matrix
  · intro alwaysZero nonRef topToBottom refFrames isCycle
    exact absurd isCycle (common.noCycle _ _ _ _)

theorem reportFor_eq {sps : SeqParameterSet}
    (width : 16 * (sps.picWidthInMbsMinus1 + 1) < 2147483648)
    (height : 16 * (sps.picHeightInMapUnitsMinus1 + 1) < 2147483648) :
    reportFor sps =
      { returned := true
        width := 16 * (sps.picWidthInMbsMinus1 + 1 : Nat)
        height := 16 * (sps.picHeightInMapUnitsMinus1 + 1 : Nat) } := by
  have inRange : ∀ number : Nat, 16 * (number + 1) < 2147483648 →
      i32 ((Field.readNumber number + 1) * 16) = 16 * (number + 1 : Nat) := by
    intro number small
    rw [Field.readNumber_of_lt (by omega)]
    unfold i32
    omega
  rw [reportFor, inRange _ width, inRange _ height]

/-- The size of every parameter set of the common kind is found, wherever it stands within
the first 1024 bytes. -/
theorem isH264KeyFrame_of_common {sps : SeqParameterSet} (common : Common sps)
    (isSps : header &&& 0x1f = 7)
    (noPattern : ∀ third, third ≤ 3 → ¬ [0, 0, third] <:+: header :: sps.rbsp)
    (others : ∀ part, part ∈ before →
      ∃ first rest, part.2 = first :: rest ∧ first &&& 0x1f ≠ 7)
    (free : ∀ part, part ∈ before ++ after → ¬ [0, 0, 1] <:+: part.2)
    (early : (write before).length + (startCode (zeros + 1)).length +
      (header :: sps.rbsp).length ≤ 1024)
    (held : read memory 0 (write (before ++ (zeros + 1, header :: sps.rbsp) :: after)).length =
      write (before ++ (zeros + 1, header :: sps.rbsp) :: after)) :
    (isH264KeyFrame memory 0
        (write (before ++ (zeros + 1, header :: sps.rbsp) :: after)).length).value =
      { returned := true
        width := 16 * (sps.picWidthInMbsMinus1 + 1 : Nat)
        height := 16 * (sps.picHeightInMapUnitsMinus1 + 1 : Nat) } := by
  have width := common.width
  have height := common.height
  have allFree : ∀ part, part ∈ before ++ (zeros + 1, header :: sps.rbsp) :: after →
      ¬ [0, 0, 1] <:+: part.2 := by
    intro part member
    rcases List.mem_append.mp member with isBefore | isHere
    · exact free part (List.mem_append_left after isBefore)
    · rcases List.mem_cons.mp isHere with rfl | isAfter
      · exact noPattern 1 (by decide)
      · exact free part (List.mem_append_right before isAfter)
  have holdsSize : HoldsSize sps sps.rbsp :=
    { profile := rfl
      bits := ⟨_, List.append_ne_nil_of_right_ne_nil _ (List.cons_ne_nil _ _),
        sps.ofBytes_drop_rbsp⟩ }
  rw [startCode_succ, List.length_append, List.length_replicate] at early
  rw [isH264KeyFrame_of_write (fun data => no_spsAt_before allFree others held) held isSps early
    (writable_rbsp noPattern) holdsSize common.asWritten]
  exact reportFor_eq (by omega) (by omega)

end Frames

def cif : SeqParameterSet :=
  { profileIdc := 100
    constraintFlags := 0
    levelIdc := 13
    seqParameterSetId := 0
    highFields :=
      { chromaFormatIdc := 1
        separateColourPlane := false
        bitDepthLumaMinus8 := 0
        bitDepthChromaMinus8 := 0
        qpprimeYZeroTransformBypass := false
        scalingMatrix := none }
    log2MaxFrameNumMinus4 := 0
    picOrderCnt := .display
    maxNumRefFrames := 1
    gapsInFrameNumValueAllowed := false
    picWidthInMbsMinus1 := 21
    picHeightInMapUnitsMinus1 := 17
    frameMbsOnly := true
    mbAdaptiveFrameField := false
    direct8x8Inference := true
    cropping := none
    vui := none }

theorem rbsp_cif : cif.rbsp = [100, 0, 13, 172, 180, 11, 4, 178] := by
  decide +kernel

/-- A delimiter before the parameter set, and a slice behind it. -/
theorem isH264KeyFrame_of_common_cif :
    let frame := write ([(1, [0x09, 0xf0])] ++ (1, 0x67 :: cif.rbsp) :: [(0, [0x65, 0x88])])
    (isH264KeyFrame (ByteMemory.ofBytes frame) 0 frame.length).value =
      { returned := true, width := 16 * (21 + 1 : Nat), height := 16 * (17 + 1 : Nat) } := by
  intro frame
  have common : Common cif :=
    { profile := by decide
      noMatrix := rfl
      noCycle := fun _ _ _ _ isCycle => PicOrderCnt.noConfusion isCycle
      chroma := by decide
      width := by decide
      height := by decide }
  have others : ∀ part, part ∈ [(1, ([0x09, 0xf0] : List UInt8))] →
      ∃ first rest, part.2 = first :: rest ∧ first &&& 0x1f ≠ 7 := by
    intro part member
    rw [List.mem_singleton.mp member]
    exact ⟨0x09, [0xf0], rfl, by decide⟩
  have noPattern : ∀ third, third ≤ 3 → ¬ [0, 0, third] <:+: 0x67 :: cif.rbsp := by
    rw [rbsp_cif]
    exact forall_byte (by decide +kernel)
  have early : (write [(1, [0x09, 0xf0])]).length + (startCode (0 + 1)).length +
      (0x67 :: cif.rbsp).length ≤ 1024 := by
    rw [rbsp_cif]
    decide
  exact isH264KeyFrame_of_common common (by decide) noPattern others (by decide) early
    (read_ofBytes frame)

end DShowCapture
