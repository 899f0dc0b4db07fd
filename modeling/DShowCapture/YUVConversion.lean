/-
The two conversions of a YUY2 picture to I420 at the head of `src/SampleGrabberCB.cpp`.

Both step through their buffers with running pointers.  A picture has two bytes a pixel, so
wherever it fits the address space the number of pixels is an `int`, and sizes are natural
numbers here.  The two buffers are two memories, and a buffer that is `NULL` is absent.
-/
import DShowCapture.Library.Averages
import DShowCapture.Library.ByteMemory
import DShowCapture.Library.Painting
import Mathlib.Tactic.Ring

namespace DShowCapture

open ByteMemory

/-! ### Two rows at a time -/

/-- The inner loop of `YUY2toI420`, with `pairs` rounds to go: the pointers into `pDest`, then
those into `pSrc`.  The result has the pointers that the next two rows start with. -/
def pairLoop (pSrc : Memory) : Nat → Memory → (u v y_l1 y_l2 src_l1 src_l2 : Nat) →
    Memory × Nat × Nat
  | 0, pDest, u, v, _, _, _, _ => (pDest, u, v)
  | pairs + 1, pDest, u, v, y_l1, y_l2, src_l1, src_l2 =>
      let pDest := Function.update pDest y_l1 (pSrc src_l1)
      let pDest := Function.update pDest u (pSrc (src_l1 + 1))
      let pDest := Function.update pDest (y_l1 + 1) (pSrc (src_l1 + 2))
      let pDest := Function.update pDest v (pSrc (src_l1 + 3))
      let pDest := Function.update pDest y_l2 (pSrc src_l2)
      let pDest := Function.update pDest (y_l2 + 1) (pSrc (src_l2 + 2))
      pairLoop pSrc pairs pDest (u + 1) (v + 1) (y_l1 + 2) (y_l2 + 2) (src_l1 + 4) (src_l2 + 4)

def rowLoop (pSrc : Memory) (inWidth : Nat) : Nat → Nat → Memory → Nat → Nat → Memory
  | 0, _, pDest, _, _ => pDest
  | rows + 1, i, pDest, u, v =>
      let src_l1 := inWidth * 2 * 2 * i
      let src_l2 := src_l1 + inWidth * 2
      let y_l1 := inWidth * 2 * i
      let y_l2 := y_l1 + inWidth
      let (pDest, u, v) := pairLoop pSrc (inWidth / 2) pDest u v y_l1 y_l2 src_l1 src_l2
      rowLoop pSrc inWidth rows (i + 1) pDest u v

def yuy2toI420 (inWidth inHeight : Nat) (pSrc pDest : Option Memory) : Int × Option Memory :=
  match pSrc, pDest with
  | some pSrc, some pDest =>
      let u := inWidth * inHeight
      let v := u + inWidth * inHeight / 4
      (0, some (rowLoop pSrc inWidth (inHeight / 2) 0 pDest u v))
  | _, pDest => (-1, pDest)

/-! ### The whole picture as one row -/

/-- The loops of `YUV422toYUV420`: the target moves on by one byte, the source by `step`. -/
def sampleLoop (sample : Nat → UInt8) (step : Nat) : Nat → Memory → Nat → Nat → Memory
  | 0, yuv420, _, _ => yuv420
  | count + 1, yuv420, p420, p422 =>
      sampleLoop sample step count (Function.update yuv420 p420 (sample p422)) (p420 + 1)
        (p422 + step)

def average (yuv422 : Memory) (p : Nat) : UInt8 :=
  UInt8.ofNat (((yuv422 p).toNat + (yuv422 (p + 4)).toNat) / 2)

def yuv422toYUV420 (yuv420 yuv422 : Option Memory) (Y_width Y_height : Nat) :
    Int × Option Memory :=
  match yuv420, yuv422 with
  | some yuv420, some yuv422 =>
      let len := Y_width * Y_height
      let pU420 := len
      let pV420 := pU420 + len / 4
      let yuv420 := sampleLoop yuv422 2 len yuv420 0 0
      let yuv420 := sampleLoop (average yuv422) 8 (len / 4) yuv420 pU420 1
      let yuv420 := sampleLoop (average yuv422) 8 (len / 4) yuv420 pV420 3
      (0, some yuv420)
  | yuv420, _ => (-1, yuv420)

/-! ### What they are for -/

/-- Sample `component` (1 for U, 3 for V) of a pixel pair of a YUY2 picture of width `w`. -/
def chroma (w : Nat) (yuy2 : Memory) (component row pair : Nat) : UInt8 :=
  yuy2 (2 * w * row + 4 * pair + component)

/-- The I420 picture of a YUY2 picture: the luma of every pixel and the chroma of the even
rows. -/
structure IsI420 (w h : Nat) (yuy2 before after : Memory) : Prop where
  y : ∀ pixel, pixel < w * h → after pixel = yuy2 (2 * pixel)
  u : ∀ r c, r < h / 2 → c < w / 2 →
    after (w * h + r * (w / 2) + c) = chroma w yuy2 1 (2 * r) c
  v : ∀ r c, r < h / 2 → c < w / 2 →
    after (w * h + w * h / 4 + r * (w / 2) + c) = chroma w yuy2 3 (2 * r) c
  behind : ∀ address, w * h * 3 / 2 ≤ address → after address = before address

/-- Rows `2r` and `2r + 1` carry the same chroma. -/
def PairedChroma (w h : Nat) (yuy2 : Memory) : Prop :=
  ∀ r c, r < h / 2 → c < w / 2 →
    chroma w yuy2 1 (2 * r + 1) c = chroma w yuy2 1 (2 * r) c ∧
      chroma w yuy2 3 (2 * r + 1) c = chroma w yuy2 3 (2 * r) c

/-- All pixel pairs of an even row carry the same U and the same V. -/
def UniformRows (w h : Nat) (yuy2 : Memory) : Prop :=
  ∀ r c, r < h / 2 → c < w / 2 →
    chroma w yuy2 1 (2 * r) c = chroma w yuy2 1 (2 * r) 0 ∧
      chroma w yuy2 3 (2 * r) c = chroma w yuy2 3 (2 * r) 0

/-- Both succeed and write the same bytes, the I420 picture. -/
def Agree (w h : Nat) (yuy2 before : Memory) : Prop :=
  ∃ first second : Memory,
    yuv422toYUV420 (some before) (some yuy2) w h = (0, some first) ∧
      yuy2toI420 w h (some yuy2) (some before) = (0, some second) ∧
      IsI420 w h yuy2 before first ∧ IsI420 w h yuy2 before second ∧ first = second

/-! ### The stores of a loop -/

theorem sampleLoop_painted {image : Memory} {sample : Nat → UInt8} {step count : Nat}
    (yuv420 : Memory) {p420 p422 : Nat}
    (shown : ∀ index, index < count → sample (p422 + step * index) = image (p420 + index)) :
    Painted image yuv420 (sampleLoop sample step count yuv420 p420 p422)
      {address | p420 ≤ address ∧ address < p420 + count} := by
  induction count generalizing yuv420 p420 p422 with
  | zero =>
      apply (Painted.blank image yuv420).region_congr
      intro address
      simp only [Set.mem_empty_iff_false, Set.mem_ofPred_eq, false_iff]
      omega
  | succ count ih =>
      have head := Painted.update yuv420 (shown 0 (Nat.succ_pos count))
      rw [Nat.mul_zero, Nat.add_zero, Nat.add_zero] at head
      have shownBehind : ∀ index, index < count →
          sample (p422 + step + step * index) = image (p420 + 1 + index) := by
        intro index inRange
        have later := shown (index + 1) (Nat.succ_lt_succ inRange)
        rwa [Nat.mul_succ, Nat.add_comm (step * index), ← Nat.add_assoc,
          Nat.add_comm index, ← Nat.add_assoc] at later
      have rest := ih (Function.update yuv420 p420 (sample p422)) shownBehind
      apply (head.trans rest).region_congr
      intro address
      simp only [Set.mem_union, Set.mem_singleton_iff, Set.mem_ofPred_eq]
      omega

structure PairShown (pSrc image : Memory) (u v y_l1 y_l2 src_l1 src_l2 : Nat) : Prop where
  left1 : pSrc src_l1 = image y_l1
  right1 : pSrc (src_l1 + 2) = image (y_l1 + 1)
  left2 : pSrc src_l2 = image y_l2
  right2 : pSrc (src_l2 + 2) = image (y_l2 + 1)
  u : pSrc (src_l1 + 1) = image u
  v : pSrc (src_l1 + 3) = image v

theorem pairLoop_painted {pSrc image : Memory} {pairs : Nat} (pDest : Memory)
    {u v y_l1 y_l2 src_l1 src_l2 : Nat}
    (shown : ∀ pair, pair < pairs →
      PairShown pSrc image (u + pair) (v + pair) (y_l1 + 2 * pair) (y_l2 + 2 * pair)
        (src_l1 + 4 * pair) (src_l2 + 4 * pair)) :
    Painted image pDest (pairLoop pSrc pairs pDest u v y_l1 y_l2 src_l1 src_l2).1
        {address | (y_l1 ≤ address ∧ address < y_l1 + 2 * pairs) ∨
          (y_l2 ≤ address ∧ address < y_l2 + 2 * pairs) ∨
          (u ≤ address ∧ address < u + pairs) ∨ (v ≤ address ∧ address < v + pairs)} ∧
      (pairLoop pSrc pairs pDest u v y_l1 y_l2 src_l1 src_l2).2 = (u + pairs, v + pairs) := by
  induction pairs generalizing pDest u v y_l1 y_l2 src_l1 src_l2 with
  | zero =>
      constructor
      · apply (Painted.blank image pDest).region_congr
        intro address
        simp only [Set.mem_empty_iff_false, Set.mem_ofPred_eq, false_iff]
        omega
      · rfl
  | succ pairs ih =>
      have first := shown 0 (Nat.succ_pos pairs)
      simp only [Nat.mul_zero, Nat.add_zero] at first
      have round := (((((Painted.update pDest first.left1).trans
        (Painted.update _ first.u)).trans (Painted.update _ first.right1)).trans
        (Painted.update _ first.v)).trans (Painted.update _ first.left2)).trans
        (Painted.update _ first.right2)
      obtain ⟨rest, ends⟩ := ih _ (by
        intro pair inRange
        have later := shown (pair + 1) (Nat.succ_lt_succ inRange)
        rwa [Nat.mul_succ, Nat.mul_succ, Nat.add_comm pair 1, Nat.add_comm (2 * pair) 2,
          Nat.add_comm (4 * pair) 4, ← Nat.add_assoc, ← Nat.add_assoc, ← Nat.add_assoc,
          ← Nat.add_assoc, ← Nat.add_assoc, ← Nat.add_assoc] at later)
      constructor
      · apply (round.trans rest).region_congr
        intro address
        simp only [Set.mem_union, Set.mem_singleton_iff, Set.mem_ofPred_eq]
        omega
      · rw [pairLoop, ends, Nat.add_right_comm u, Nat.add_right_comm v]
        rfl

/-! ### The two images -/

section Images

variable {m k : Nat} {yuy2 : Memory}

def i420 (m k : Nat) (yuy2 : Memory) : Memory := fun address =>
  if address < 4 * (m * k) then yuy2 (2 * address)
  else if address < 5 * (m * k) then
    chroma (2 * m) yuy2 1 (2 * ((address - 4 * (m * k)) / m)) ((address - 4 * (m * k)) % m)
  else chroma (2 * m) yuy2 3 (2 * ((address - 5 * (m * k)) / m)) ((address - 5 * (m * k)) % m)

def flat (m k : Nat) (yuy2 : Memory) : Memory := fun address =>
  if address < 4 * (m * k) then yuy2 (2 * address)
  else if address < 5 * (m * k) then average yuy2 (8 * (address - 4 * (m * k)) + 1)
  else average yuy2 (8 * (address - 5 * (m * k)) + 3)

theorem cell_lt {r c : Nat} (rowInRange : r < k) (columnInRange : c < m) :
    r * m + c < m * k := by
  have whole := Nat.mul_le_mul_right m (Nat.succ_le_of_lt rowInRange)
  rw [Nat.succ_mul, Nat.mul_comm k m] at whole
  omega

theorem cell_div {r c : Nat} (columnInRange : c < m) : (r * m + c) / m = r := by
  rw [Nat.mul_comm, Nat.mul_add_div (Nat.zero_lt_of_lt columnInRange),
    Nat.div_eq_of_lt columnInRange, Nat.add_zero]

theorem cell_mod {r c : Nat} (columnInRange : c < m) : (r * m + c) % m = c := by
  rw [Nat.mul_comm, Nat.mul_add_mod, Nat.mod_eq_of_lt columnInRange]

theorem exists_cell (positive : 0 < m) {index : Nat} (inPlane : index < m * k) :
    ∃ r c, r < k ∧ c < m ∧ index = r * m + c :=
  ⟨index / m, index % m, (Nat.div_lt_iff_lt_mul positive).mpr (by rwa [Nat.mul_comm k]),
    Nat.mod_lt index positive, (Nat.div_add_mod' index m).symm⟩

theorem i420_y {pixel : Nat} (inRange : pixel < 4 * (m * k)) :
    i420 m k yuy2 pixel = yuy2 (2 * pixel) :=
  if_pos inRange

theorem i420_u {r c : Nat} (rowInRange : r < k) (columnInRange : c < m) :
    i420 m k yuy2 (4 * (m * k) + (r * m + c)) = chroma (2 * m) yuy2 1 (2 * r) c := by
  have inPlane := cell_lt rowInRange columnInRange
  rw [i420, if_neg (by omega), if_pos (by omega), Nat.add_sub_cancel_left,
    cell_div columnInRange, cell_mod columnInRange]

theorem i420_v {r c : Nat} (columnInRange : c < m) :
    i420 m k yuy2 (5 * (m * k) + (r * m + c)) = chroma (2 * m) yuy2 3 (2 * r) c := by
  rw [i420, if_neg (by omega), if_neg (by omega), Nat.add_sub_cancel_left,
    cell_div columnInRange, cell_mod columnInRange]

theorem flat_y {pixel : Nat} (inRange : pixel < 4 * (m * k)) :
    flat m k yuy2 pixel = yuy2 (2 * pixel) :=
  if_pos inRange

theorem flat_u {index : Nat} (inPlane : index < m * k) :
    flat m k yuy2 (4 * (m * k) + index) = average yuy2 (8 * index + 1) := by
  rw [flat, if_neg (by omega), if_pos (by omega), Nat.add_sub_cancel_left]

theorem flat_v (index : Nat) :
    flat m k yuy2 (5 * (m * k) + index) = average yuy2 (8 * index + 3) := by
  rw [flat, if_neg (by omega), if_neg (by omega), Nat.add_sub_cancel_left]

/-- A byte of the picture is a luma byte or stands in a cell of a chroma plane. -/
theorem forall_picture {property : Nat → Prop} (positive : 0 < m)
    (y : ∀ pixel, pixel < 4 * (m * k) → property pixel)
    (u : ∀ r c, r < k → c < m → property (4 * (m * k) + (r * m + c)))
    (v : ∀ r c, r < k → c < m → property (5 * (m * k) + (r * m + c))) :
    ∀ address, address < 6 * (m * k) → property address := by
  intro address inPicture
  by_cases inY : address < 4 * (m * k)
  · exact y address inY
  by_cases inU : address < 5 * (m * k)
  · obtain ⟨r, c, row, inRow, index⟩ :=
      exists_cell positive (by omega : address - 4 * (m * k) < m * k)
    have position : address = 4 * (m * k) + (r * m + c) := by omega
    rw [position]
    exact u r c row inRow
  · obtain ⟨r, c, row, inRow, index⟩ :=
      exists_cell positive (by omega : address - 5 * (m * k) < m * k)
    have position : address = 5 * (m * k) + (r * m + c) := by omega
    rw [position]
    exact v r c row inRow

/-- Rows `2i` and `2i + 1` with the chroma of the former. -/
theorem rowPair_shown {i : Nat} (rowInRange : i < k) (pair : Nat) (inRange : pair < m) :
    PairShown yuy2 (i420 m k yuy2) (4 * (m * k) + i * m + pair) (5 * (m * k) + i * m + pair)
      (4 * (i * m) + 2 * pair) (4 * (i * m) + 2 * m + 2 * pair) (8 * (i * m) + 4 * pair)
      (8 * (i * m) + 2 * m * 2 + 4 * pair) := by
  have inPlane := cell_lt rowInRange inRange
  have lastPair := cell_lt rowInRange (Nat.sub_lt (Nat.zero_lt_of_lt inRange) Nat.one_pos)
  have row : 2 * (2 * m) * (2 * i) = 8 * (i * m) := by ring
  constructor
  · rw [i420_y (by omega)]
    congr 1
    ring
  · rw [i420_y (by omega)]
    congr 1
    ring
  · rw [i420_y (by omega)]
    congr 1
    ring
  · rw [i420_y (by omega)]
    congr 1
    ring
  · rw [Nat.add_assoc (4 * (m * k)), i420_u rowInRange inRange, chroma, row]
  · rw [Nat.add_assoc (5 * (m * k)), i420_v inRange, chroma, row]

theorem rowLoop_painted {rows i : Nat} (pDest : Memory) (within : i + rows ≤ k) :
    Painted (i420 m k yuy2) pDest
      (rowLoop yuy2 (2 * m) rows i pDest (4 * (m * k) + i * m) (5 * (m * k) + i * m))
      {address | (4 * (i * m) ≤ address ∧ address < 4 * (i * m) + 4 * (rows * m)) ∨
        (4 * (m * k) + i * m ≤ address ∧ address < 4 * (m * k) + i * m + rows * m) ∨
        (5 * (m * k) + i * m ≤ address ∧ address < 5 * (m * k) + i * m + rows * m)} := by
  induction rows generalizing i pDest with
  | zero =>
      apply (Painted.blank (i420 m k yuy2) pDest).region_congr
      intro address
      simp only [Set.mem_empty_iff_false, Set.mem_ofPred_eq, false_iff]
      omega
  | succ rows ih =>
      have half : 2 * m / 2 = m := by omega
      have target : 2 * m * 2 * i = 4 * (i * m) := by ring
      have origin : 2 * m * 2 * 2 * i = 8 * (i * m) := by ring
      have following : (i + 1) * m = i * m + m := Nat.succ_mul i m
      have covered : (rows + 1) * m = rows * m + m := Nat.succ_mul rows m
      obtain ⟨round, ends⟩ :=
        pairLoop_painted pDest (@rowPair_shown m k yuy2 i (by omega))
      have rest := ih (pairLoop yuy2 m pDest (4 * (m * k) + i * m) (5 * (m * k) + i * m)
        (4 * (i * m)) (4 * (i * m) + 2 * m) (8 * (i * m)) (8 * (i * m) + 2 * m * 2)).1
        (i := i + 1) (by omega)
      rw [rowLoop, half, target, origin]
      simp only [ends]
      rw [following, ← Nat.add_assoc (4 * (m * k)), ← Nat.add_assoc (5 * (m * k))] at rest
      apply (round.trans rest).region_congr
      intro address
      simp only [Set.mem_union, Set.mem_ofPred_eq, covered]
      omega

theorem area_eq (m k : Nat) : 2 * m * (2 * k) = 4 * (m * k) := by
  ring

theorem quarter_eq (m k : Nat) : 4 * (m * k) / 4 = m * k := by
  omega

theorem yuy2toI420_painted (before : Memory) :
    ∃ after, yuy2toI420 (2 * m) (2 * k) (some yuy2) (some before) = (0, some after) ∧
      Painted (i420 m k yuy2) before after {address | address < 6 * (m * k)} := by
  have half : 2 * k / 2 = k := by omega
  have planes : 4 * (m * k) + m * k = 5 * (m * k) := by omega
  refine ⟨_, rfl, ?_⟩
  rw [area_eq, quarter_eq, half, planes]
  have painted := @rowLoop_painted m k yuy2 k 0 before (by omega)
  rw [Nat.zero_mul, Nat.add_zero, Nat.add_zero, Nat.mul_comm k m] at painted
  apply painted.region_congr
  intro address
  simp only [Set.mem_ofPred_eq]
  omega

theorem yuv422toYUV420_painted (before : Memory) :
    ∃ after, yuv422toYUV420 (some before) (some yuy2) (2 * m) (2 * k) = (0, some after) ∧
      Painted (flat m k yuy2) before after {address | address < 6 * (m * k)} := by
  have planes : 4 * (m * k) + m * k = 5 * (m * k) := by omega
  refine ⟨_, rfl, ?_⟩
  rw [area_eq, quarter_eq, planes]
  have luma : ∀ index, index < 4 * (m * k) →
      yuy2 (0 + 2 * index) = flat m k yuy2 (0 + index) := by
    intro index inRange
    rw [Nat.zero_add, Nat.zero_add, flat_y inRange]
  have planeU : ∀ index, index < m * k →
      average yuy2 (1 + 8 * index) = flat m k yuy2 (4 * (m * k) + index) := by
    intro index inRange
    rw [flat_u inRange, Nat.add_comm]
  have planeV : ∀ index, index < m * k →
      average yuy2 (3 + 8 * index) = flat m k yuy2 (5 * (m * k) + index) := by
    intro index inRange
    rw [flat_v, Nat.add_comm]
  have filled := ((sampleLoop_painted before luma).trans (sampleLoop_painted _ planeU)).trans
    (sampleLoop_painted _ planeV)
  apply filled.region_congr
  intro address
  simp only [Set.mem_union, Set.mem_ofPred_eq]
  omega

/-- The I420 picture, position by position or address by address. -/
theorem isI420_iff_painted (positive : 0 < m) (before after : Memory) :
    IsI420 (2 * m) (2 * k) yuy2 before after ↔
      Painted (i420 m k yuy2) before after {address | address < 6 * (m * k)} := by
  have halfWidth : 2 * m / 2 = m := by omega
  have halfHeight : 2 * k / 2 = k := by omega
  have planes : 4 * (m * k) + m * k = 5 * (m * k) := by omega
  constructor
  · intro shows
    rcases shows with ⟨y, u, v, behind⟩
    simp only [area_eq, quarter_eq, halfWidth, halfHeight, planes] at y u v behind
    constructor
    · refine forall_picture positive ?_ ?_ ?_
      · intro pixel inRange
        rw [y pixel inRange, i420_y inRange]
      · intro r c row inRow
        rw [i420_u row inRow, ← Nat.add_assoc]
        exact u r c row inRow
      · intro r c row inRow
        rw [i420_v inRow, ← Nat.add_assoc]
        exact v r c row inRow
    · intro address outside
      rw [Set.mem_ofPred_eq] at outside
      exact behind address (by omega)
  · intro painted
    constructor
    · intro pixel inRange
      rw [area_eq] at inRange
      rw [painted.inside pixel (by rw [Set.mem_ofPred_eq]; omega), i420_y inRange]
    · intro r c rowInRange columnInRange
      rw [halfHeight] at rowInRange
      rw [halfWidth] at columnInRange
      have inPlane := cell_lt rowInRange columnInRange
      rw [area_eq, halfWidth, Nat.add_assoc,
        painted.inside _ (by rw [Set.mem_ofPred_eq]; omega), i420_u rowInRange columnInRange]
    · intro r c rowInRange columnInRange
      rw [halfHeight] at rowInRange
      rw [halfWidth] at columnInRange
      have inPlane := cell_lt rowInRange columnInRange
      rw [area_eq, quarter_eq, planes, halfWidth, Nat.add_assoc,
        painted.inside _ (by rw [Set.mem_ofPred_eq]; omega), i420_v columnInRange]
    · intro address behind
      rw [area_eq] at behind
      exact painted.outside address (by rw [Set.mem_ofPred_eq]; omega)

/-! ### When the flat walk finds the right pixel pairs -/

theorem chroma_next (component row pair : Nat) :
    chroma (2 * m) yuy2 component row (m + pair) =
      chroma (2 * m) yuy2 component (row + 1) pair := by
  unfold chroma
  congr 1
  ring

theorem average_chroma (component r c : Nat) :
    (average yuy2 (8 * (r * m + c) + component)).toNat =
      ((chroma (2 * m) yuy2 component (2 * r) (2 * c)).toNat +
        (chroma (2 * m) yuy2 component (2 * r) (2 * c + 1)).toNat) / 2 := by
  have first : 8 * (r * m + c) + component = 2 * (2 * m) * (2 * r) + 4 * (2 * c) + component := by
    ring
  have second : 8 * (r * m + c) + component + 4 =
      2 * (2 * m) * (2 * r) + 4 * (2 * c + 1) + component := by
    ring
  rw [average, second, first]
  have left := (chroma (2 * m) yuy2 component (2 * r) (2 * c)).toNat_lt
  have right := (chroma (2 * m) yuy2 component (2 * r) (2 * c + 1)).toNat_lt
  unfold chroma at left right ⊢
  rw [UInt8.toNat_ofNat']
  omega

/-- A pair of rows comes out right if and only if the first carries one value only. -/
theorem average_eq_chroma_iff {component r : Nat}
    (paired : ∀ c, c < m → chroma (2 * m) yuy2 component (2 * r + 1) c =
      chroma (2 * m) yuy2 component (2 * r) c) :
    (∀ c, c < m → average yuy2 (8 * (r * m + c) + component) =
        chroma (2 * m) yuy2 component (2 * r) c) ↔
      ∀ c, c < m → chroma (2 * m) yuy2 component (2 * r) c =
        chroma (2 * m) yuy2 component (2 * r) 0 := by
  have wraps : ∀ c, c < m → (chroma (2 * m) yuy2 component (2 * r) (m + c)).toNat =
      (chroma (2 * m) yuy2 component (2 * r) c).toNat := by
    intro c inRange
    rw [chroma_next, paired c inRange]
  have constant := @Averages.averages_iff_constant
    (fun i => (chroma (2 * m) yuy2 component (2 * r) i).toNat) m wraps
  simp only [← average_chroma, UInt8.toNat_inj] at constant
  rw [← constant]
  constructor
  · intro right c inRange
    exact (right c inRange).symm
  · intro right c inRange
    exact (right c inRange).symm

theorem flat_eq_i420_iff (positive : 0 < m) :
    (∀ address, address < 6 * (m * k) → flat m k yuy2 address = i420 m k yuy2 address) ↔
      ∀ r, r < k →
        (∀ c, c < m → average yuy2 (8 * (r * m + c) + 1) = chroma (2 * m) yuy2 1 (2 * r) c) ∧
          ∀ c, c < m → average yuy2 (8 * (r * m + c) + 3) = chroma (2 * m) yuy2 3 (2 * r) c := by
  constructor
  · intro same r rowInRange
    constructor
    · intro c columnInRange
      have inPlane := cell_lt rowInRange columnInRange
      have atCell := same (4 * (m * k) + (r * m + c)) (by omega)
      rwa [i420_u rowInRange columnInRange, flat_u inPlane] at atCell
    · intro c columnInRange
      have inPlane := cell_lt rowInRange columnInRange
      have atCell := same (5 * (m * k) + (r * m + c)) (by omega)
      rwa [i420_v columnInRange, flat_v] at atCell
  · intro same
    refine forall_picture positive ?_ ?_ ?_
    · intro pixel inRange
      rw [flat_y inRange, i420_y inRange]
    · intro r c row inRow
      rw [flat_u (cell_lt row inRow), i420_u row inRow]
      exact (same r row).1 c inRow
    · intro r c row inRow
      rw [flat_v, i420_v inRow]
      exact (same r row).2 c inRow

theorem agree_iff_images (positive : 0 < m) (before : Memory) :
    Agree (2 * m) (2 * k) yuy2 before ↔
      ∀ address, address < 6 * (m * k) → flat m k yuy2 address = i420 m k yuy2 address := by
  obtain ⟨averaged, ranFirst, paintedFirst⟩ := @yuv422toYUV420_painted m k yuy2 before
  obtain ⟨stepped, ranSecond, paintedSecond⟩ := @yuy2toI420_painted m k yuy2 before
  constructor
  · rintro ⟨first, second, ran, -, shows, -, -⟩
    rw [ranFirst] at ran
    cases ran
    rw [isI420_iff_painted positive] at shows
    exact paintedFirst.shows_iff.mp shows
  · intro same
    have shows := paintedFirst.shows_iff.mpr same
    have equal : averaged = stepped := by
      funext address
      by_cases inPicture : address < 6 * (m * k)
      · rw [shows.inside address inPicture, paintedSecond.inside address inPicture]
      · rw [shows.outside address inPicture, paintedSecond.outside address inPicture]
    exact ⟨averaged, stepped, ranFirst, ranSecond, (isI420_iff_painted positive _ _).mpr shows,
      (isI420_iff_painted positive _ _).mpr paintedSecond, equal⟩

end Images

theorem converters_agree_iff {w h : Nat} (widthPositive : 0 < w) (widthEven : w % 2 = 0)
    (heightEven : h % 2 = 0) {yuy2 : Memory} (paired : PairedChroma w h yuy2)
    (before : Memory) : Agree w h yuy2 before ↔ UniformRows w h yuy2 := by
  obtain ⟨m, rfl⟩ : ∃ m, w = 2 * m := ⟨w / 2, by omega⟩
  obtain ⟨k, rfl⟩ : ∃ k, h = 2 * k := ⟨h / 2, by omega⟩
  have halfWidth : 2 * m / 2 = m := by omega
  have halfHeight : 2 * k / 2 = k := by omega
  rw [agree_iff_images (by omega), flat_eq_i420_iff (by omega)]
  unfold PairedChroma at paired
  unfold UniformRows
  rw [halfWidth, halfHeight] at paired ⊢
  constructor
  · intro right r c rowInRange columnInRange
    obtain ⟨planeU, planeV⟩ := right r rowInRange
    rw [average_eq_chroma_iff fun c inRow => (paired r c rowInRange inRow).1] at planeU
    rw [average_eq_chroma_iff fun c inRow => (paired r c rowInRange inRow).2] at planeV
    exact ⟨planeU c columnInRange, planeV c columnInRange⟩
  · intro uniform r rowInRange
    rw [average_eq_chroma_iff fun c inRow => (paired r c rowInRange inRow).1,
      average_eq_chroma_iff fun c inRow => (paired r c rowInRange inRow).2]
    constructor
    · intro c columnInRange
      exact (uniform r c rowInRange columnInRange).1
    · intro c columnInRange
      exact (uniform r c rowInRange columnInRange).2

private theorem forall_fourByTwo {property : Nat → Nat → Prop} (left : property 0 0)
    (right : property 0 1) : ∀ r c, r < 2 / 2 → c < 4 / 2 → property r c := by
  intro r c rowInRange columnInRange
  obtain rfl : r = 0 := by omega
  obtain rfl | rfl : c = 0 ∨ c = 1 := by omega
  · exact left
  · exact right

/-- Four by two pixels of different luma and one colour. -/
theorem converters_agree_oneColour :
    Agree 4 2 (ofBytes [16, 90, 17, 240, 18, 90, 19, 240, 20, 90, 21, 240, 22, 90, 23, 240])
      (fun _ => 0) :=
  (converters_agree_iff (by decide) rfl rfl
    (forall_fourByTwo ⟨rfl, rfl⟩ ⟨rfl, rfl⟩) _).mpr (forall_fourByTwo ⟨rfl, rfl⟩ ⟨rfl, rfl⟩)

/-- Two pixel pairs of different colour in equal rows: the flat walk mixes them. -/
theorem converters_disagree_twoColours :
    PairedChroma 4 2
        (ofBytes [16, 90, 16, 128, 16, 100, 16, 128, 16, 90, 16, 128, 16, 100, 16, 128]) ∧
      ¬ Agree 4 2
        (ofBytes [16, 90, 16, 128, 16, 100, 16, 128, 16, 90, 16, 128, 16, 100, 16, 128])
        (fun _ => 0) := by
  constructor
  · exact forall_fourByTwo ⟨rfl, rfl⟩ ⟨rfl, rfl⟩
  · intro agree
    have same := (@agree_iff_images 2 1 _ (by decide) _).mp agree 8 (by decide)
    exact absurd same (by decide)

end DShowCapture
