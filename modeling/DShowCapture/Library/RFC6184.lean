/-
The RTP payload format for H.264: single NAL unit packets, FU-A fragments and STAP-A
aggregates.

A fragment carries the first byte of its NAL unit in two pieces, the upper three bits
in the FU indicator and the type in the FU header, and a slice of the other bytes.
-/
import DShowCapture.Library.Chunks
import DShowCapture.Library.FixedWidth
import Mathlib.Algebra.Order.Floor.Div

namespace RFC6184

open Chunks FixedWidth

def fuIndicator (first : UInt8) : UInt8 := first &&& 0xe0 ||| 28

def fuHeader (first : UInt8) (start last : Bool) : UInt8 :=
  (if start then 0x80 else 0) ||| (first &&& 0x1f) ||| (if last then 0x40 else 0)

def fuPayload (first : UInt8) (start last : Bool) (body : List UInt8) : List UInt8 :=
  fuIndicator first :: fuHeader first start last :: body

def fuRun (first : UInt8) : Bool → List (List UInt8) → List (List UInt8)
  | _, [] => []
  | start, [body] => [fuPayload first start true body]
  | start, body :: next :: rest =>
      fuPayload first start false body :: fuRun first false (next :: rest)

/-- The payloads that carry a NAL unit under a payload size limit. -/
def nalPayloads (limit : Nat) : List UInt8 → List (List UInt8)
  | [] => [[]]
  | first :: rest =>
      if rest.length + 1 ≤ limit then [first :: rest]
      else fuRun first true (chunks (limit - 2) rest)

def sizeField (size : Nat) : List UInt8 := [UInt8.ofNat (size / 256), UInt8.ofNat size]

def stapUnits (nals : List (List UInt8)) : List UInt8 :=
  nals.flatMap fun nal => sizeField nal.length ++ nal

def stapPayload (header : UInt8) (nals : List (List UInt8)) : List UInt8 :=
  header :: stapUnits nals

/-! ### Bits of the fragment headers -/

theorem fuIndicator_type :
    ∀ first : UInt8, fuIndicator first &&& 0x1f = 28 :=
  forall_byte (by decide +kernel)

theorem fuHeader_startBit (start last : Bool) :
    ∀ first : UInt8, (fuHeader first start last &&& 0x80 != 0) = start := by
  cases start <;> cases last <;> exact forall_byte (by decide +kernel)

theorem fuHeader_endBit (start last : Bool) :
    ∀ first : UInt8, (fuHeader first start last &&& 0x40 != 0) = last := by
  cases start <;> cases last <;> exact forall_byte (by decide +kernel)

/-- The two fragment headers determine the first byte of the NAL unit. -/
theorem fu_first_byte (start last : Bool) :
    ∀ first : UInt8,
      fuIndicator first &&& 0xe0 ||| fuHeader first start last &&& 0x1f = first := by
  cases start <;> cases last <;> exact forall_byte (by decide +kernel)

/-! ### Fragment runs -/

@[simp] theorem length_fuRun (first : UInt8) (start : Bool) (bodies : List (List UInt8)) :
    (fuRun first start bodies).length = bodies.length := by
  fun_induction fuRun first start bodies with
  | case1 start => rfl
  | case2 start body => rfl
  | case3 start body next rest ih =>
      simp only [List.length_cons] at ih ⊢
      omega

theorem fuRun_ne_nil (first : UInt8) (start : Bool) {bodies : List (List UInt8)}
    (nonempty : bodies ≠ []) : fuRun first start bodies ≠ [] := by
  apply List.ne_nil_of_length_pos
  rw [length_fuRun]
  exact List.length_pos_iff.mpr nonempty

/-- Fragment `index` of a run: the start bit is on the first only, the end bit on the last
only. -/
theorem getElem?_fuRun (first : UInt8) (start : Bool) (bodies : List (List UInt8))
    (index : Nat) :
    (fuRun first start bodies)[index]? =
      bodies[index]?.map fun body =>
        fuPayload first (start && index == 0) (index + 1 == bodies.length) body := by
  fun_induction fuRun first start bodies generalizing index with
  | case1 start => rfl
  | case2 start body =>
      cases index with
      | zero => simp
      | succ index => simp
  | case3 start body next rest ih =>
      cases index with
      | zero => simp
      | succ index =>
          rw [List.getElem?_cons_succ, ih, List.getElem?_cons_succ]
          simp

theorem fuRun_cons (first : UInt8) (start : Bool) (body : List UInt8)
    {rest : List (List UInt8)} (more : rest ≠ []) :
    fuRun first start (body :: rest) =
      fuPayload first start false body :: fuRun first false rest := by
  cases rest with
  | nil => exact absurd rfl more
  | cons next rest => rfl

theorem bodies_fuRun (first : UInt8) (start : Bool) (bodies : List (List UInt8)) :
    (fuRun first start bodies).map (List.drop 2) = bodies := by
  fun_induction fuRun first start bodies with
  | case1 start => rfl
  | case2 start body => rfl
  | case3 start body next rest ih =>
      rw [List.map_cons, ih]
      rfl

theorem length_le_of_mem_fuRun {first : UInt8} {start : Bool} {bodies : List (List UInt8)}
    {limit : Nat} (short : ∀ body, body ∈ bodies → body.length + 2 ≤ limit)
    {payload : List UInt8} (member : payload ∈ fuRun first start bodies) :
    payload.length ≤ limit := by
  have bodyMember : payload.drop 2 ∈ bodies := by
    rw [← bodies_fuRun first start bodies]
    exact List.mem_map_of_mem member
  have bodyShort := short _ bodyMember
  rw [List.length_drop] at bodyShort
  omega

/-! ### The packets of a NAL unit, as the format describes them -/

structure IsFragmentRun (limit : Nat) (nal : List UInt8) (payloads : List (List UInt8)) :
    Prop where
  count : payloads.length = (nal.length - 1) ⌈/⌉ (limit - 2)
  headers : ∀ index payload, payloads[index]? = some payload →
    payload.take 2 =
      [nal.headD 0 &&& 0xe0 ||| 28,
        (if index = 0 then 0x80 else 0) ||| (nal.headD 0 &&& 0x1f) |||
          (if index + 1 = payloads.length then 0x40 else 0)]
  bodies : (payloads.map (List.drop 2)).flatten = nal.tail

structure IsPacketisation (limit : Nat) (nal : List UInt8) (payloads : List (List UInt8)) :
    Prop where
  single : nal.length ≤ limit → payloads = [nal]
  fragments : limit < nal.length → IsFragmentRun limit nal payloads
  bounded : ∀ payload, payload ∈ payloads → payload.length ≤ limit

theorem nalPayloads_of_le {limit : Nat} {nal : List UInt8} (short : nal.length ≤ limit) :
    nalPayloads limit nal = [nal] := by
  cases nal with
  | nil => rfl
  | cons first rest =>
      simp only [List.length_cons] at short
      rw [nalPayloads, if_pos short]

theorem nalPayloads_of_lt {limit : Nat} {first : UInt8} {rest : List UInt8}
    (long : limit < rest.length + 1) :
    nalPayloads limit (first :: rest) = fuRun first true (chunks (limit - 2) rest) := by
  rw [nalPayloads, if_neg (by omega)]

theorem nalPayloads_of_long {limit : Nat} {nal : List UInt8} (long : limit < nal.length) :
    nalPayloads limit nal = fuRun (nal.headD 0) true (chunks (limit - 2) (nal.drop 1)) := by
  cases nal with
  | nil => exact absurd long (Nat.not_lt_zero limit)
  | cons first rest => exact nalPayloads_of_lt long

private theorem isFragmentRun_fuRun {limit : Nat} (atLeastThree : 3 ≤ limit) (first : UInt8)
    {rest : List UInt8} (nonempty : rest ≠ []) :
    IsFragmentRun limit (first :: rest) (fuRun first true (chunks (limit - 2) rest)) := by
  have positive : 0 < limit - 2 := by omega
  refine
    { count := ?_
      headers := ?_
      bodies := ?_ }
  · rw [length_fuRun, length_chunks _ positive rest nonempty, Nat.ceilDiv_eq_add_pred_div,
      List.length_cons, Nat.add_sub_cancel]
  · intro index payload found
    rw [getElem?_fuRun] at found
    rcases Option.map_eq_some_iff.mp found with ⟨body, _, payloadEq⟩
    rw [← payloadEq, length_fuRun]
    simp [fuPayload, fuIndicator, fuHeader]
  · rw [bodies_fuRun, flatten_chunks _ positive, List.tail_cons]

/-- The payloads of a NAL unit are what the format prescribes. -/
theorem isPacketisation_nalPayloads {limit : Nat} (atLeastThree : 3 ≤ limit)
    {nal : List UInt8} (nonempty : nal ≠ []) :
    IsPacketisation limit nal (nalPayloads limit nal) := by
  have positive : 0 < limit - 2 := by omega
  cases nal with
  | nil => exact absurd rfl nonempty
  | cons first rest =>
      refine
        { single := nalPayloads_of_le
          fragments := ?_
          bounded := ?_ }
      · intro long
        rw [List.length_cons] at long
        rw [nalPayloads_of_lt long]
        apply isFragmentRun_fuRun atLeastThree
        apply List.ne_nil_of_length_pos
        omega
      · intro payload member
        by_cases short : (first :: rest).length ≤ limit
        · rw [nalPayloads_of_le short, List.mem_singleton] at member
          rw [member]
          exact short
        · rw [List.length_cons] at short
          rw [nalPayloads_of_lt (by omega)] at member
          refine length_le_of_mem_fuRun ?_ member
          intro body bodyMember
          have bodyShort := length_le_of_mem_chunks positive bodyMember
          omega

theorem nalPayloads_ne_nil {limit : Nat} (atLeastThree : 3 ≤ limit) (nal : List UInt8) :
    nalPayloads limit nal ≠ [] := by
  cases nal with
  | nil => exact List.cons_ne_nil [] []
  | cons first rest =>
      by_cases short : (first :: rest).length ≤ limit
      · rw [nalPayloads_of_le short]
        exact List.cons_ne_nil _ _
      · rw [List.length_cons] at short
        rw [nalPayloads_of_lt (by omega)]
        apply List.ne_nil_of_length_pos
        rw [length_fuRun]
        have long : limit - 2 < rest.length := by omega
        have pieces := two_le_length_chunks (by omega) long
        omega

/-! ### The grammar of aggregates -/

def Aggregable (nals : List (List UInt8)) : Prop :=
  ∀ nal, nal ∈ nals → nal ≠ [] ∧ nal.length < 65536

theorem stapUnits_cons (nal : List UInt8) (rest : List (List UInt8)) :
    stapUnits (nal :: rest) =
      UInt8.ofNat (nal.length / 256) :: UInt8.ofNat nal.length :: (nal ++ stapUnits rest) := by
  simp [stapUnits, sizeField]

theorem stapUnits_append (first second : List (List UInt8)) :
    stapUnits (first ++ second) = stapUnits first ++ stapUnits second :=
  List.flatMap_append

theorem stapUnits_singleton (nal : List UInt8) :
    stapUnits [nal] = sizeField nal.length ++ nal := by
  rw [stapUnits, List.flatMap_singleton]

theorem length_stapUnits_cons (nal : List UInt8) (rest : List (List UInt8)) :
    (stapUnits (nal :: rest)).length = nal.length + 2 + (stapUnits rest).length := by
  rw [stapUnits_cons, List.length_cons, List.length_cons, List.length_append]
  omega

theorem bigEndian16_sizeField {size : Nat} (inRange : size < 65536) :
    bigEndian16 (UInt8.ofNat (size / 256)) (UInt8.ofNat size) = size := by
  rw [bigEndian16_eq, UInt8.toNat_ofNat', UInt8.toNat_ofNat']
  omega

/-- An aggregate names its NAL units. -/
theorem stapUnits_injective {nals others : List (List UInt8)} (formed : Aggregable nals)
    (formedOthers : Aggregable others) (same : stapUnits nals = stapUnits others) :
    nals = others := by
  induction nals generalizing others with
  | nil =>
      cases others with
      | nil => rfl
      | cons other others =>
          rw [stapUnits_cons] at same
          exact absurd same.symm (List.cons_ne_nil _ _)
  | cons nal nals ih =>
      cases others with
      | nil =>
          rw [stapUnits_cons] at same
          exact absurd same (List.cons_ne_nil _ _)
      | cons other others =>
          have small := (formed nal List.mem_cons_self).2
          have smallOther := (formedOthers other List.mem_cons_self).2
          rw [stapUnits_cons, stapUnits_cons] at same
          obtain ⟨highEq, behindHigh⟩ := List.cons.inj same
          obtain ⟨lowEq, behind⟩ := List.cons.inj behindHigh
          have lengthEq : nal.length = other.length := by
            rw [← bigEndian16_sizeField small, highEq, lowEq, bigEndian16_sizeField smallOther]
          obtain ⟨here, later⟩ := List.append_inj behind lengthEq
          rw [here, ih (fun nal member => formed nal (List.mem_cons_of_mem _ member))
            (fun nal member => formedOthers nal (List.mem_cons_of_mem _ member)) later]
end RFC6184
