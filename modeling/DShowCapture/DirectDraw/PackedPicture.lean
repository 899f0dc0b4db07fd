/-
`CopyToDDraw` as a conversion: a packed I420 picture becomes a YV12 picture with the rows of
the surface, and nothing else of the surface changes.

The two offsets of the chroma planes are products of `int`; the larger one is right as long as
five times the number of pixels is an `int`.
-/
import DShowCapture.DirectDraw
import Mathlib.Tactic.Ring

namespace DShowCapture

open ByteMemory FixedWidth Logged

namespace CDirectDraw

structure EvenSize (draw : CDirectDraw) (w h : Nat) : Prop where
  bitmapWidth : draw.bitmapWidth = w
  bitmapHeight : draw.bitmapHeight = h
  dwWidth : draw.dwWidth = w
  dwHeight : draw.dwHeight = h
  widthPositive : 0 < w
  heightPositive : 0 < h
  widthEven : w % 2 = 0
  heightEven : h % 2 = 0
  pitchEven : draw.lPitch % 2 = 0
  fits : w ≤ draw.lPitch

/-- Reads of the picture and writes of the surface that stay in the buffers. -/
def Inside (w h lPitch : Nat) : SurfaceAccess → Prop
  | .source start count => start + count ≤ w * h * 3 / 2
  | .surface start count => start + count ≤ h * lPitch * 3 / 2

/-- The surface holds the three planes of the packed picture, V before U, and keeps every byte
between the end of a row and its pitch. -/
structure HoldsYV12 (w h lPitch : Nat) (source before surface : Memory) : Prop where
  y : ∀ y x, y < h → x < w → surface (y * lPitch + x) = source (y * w + x)
  v : ∀ y x, y < h / 2 → x < w / 2 →
    surface (h * lPitch + y * (lPitch / 2) + x) = source (w * h * 5 / 4 + y * (w / 2) + x)
  u : ∀ y x, y < h / 2 → x < w / 2 →
    surface (h * lPitch + h / 2 * (lPitch / 2) + y * (lPitch / 2) + x) =
      source (w * h + y * (w / 2) + x)
  paddingY : ∀ y x, y < h → w ≤ x → x < lPitch →
    surface (y * lPitch + x) = before (y * lPitch + x)
  paddingV : ∀ y x, y < h / 2 → w / 2 ≤ x → x < lPitch / 2 →
    surface (h * lPitch + y * (lPitch / 2) + x) = before (h * lPitch + y * (lPitch / 2) + x)
  paddingU : ∀ y x, y < h / 2 → w / 2 ≤ x → x < lPitch / 2 →
    surface (h * lPitch + h / 2 * (lPitch / 2) + y * (lPitch / 2) + x) =
      before (h * lPitch + h / 2 * (lPitch / 2) + y * (lPitch / 2) + x)

/-- Whatever the picture and the surface hold, the surface receives the picture, and every
access stays in the two buffers. -/
def Converts (draw : CDirectDraw) (w h : Nat) : Prop :=
  ∀ surface source : Memory,
    HoldsYV12 w h draw.lPitch source surface (draw.copyToDDraw surface source).value ∧
      Safe (Inside w h draw.lPitch) (draw.copyToDDraw surface source)

/-! ### The rows that a loop leaves alone -/

theorem copyRows_padding (source : Memory) {len stride pitch rows : Nat} (surface : Memory)
    (lpSurf lp : Nat) {row column : Nat} (rowInRange : row < rows) (padding : len ≤ column)
    (columnInRange : column < pitch) :
    (copyRows source len stride pitch rows surface lpSurf lp).value.1
      (lpSurf + row * pitch + column) = surface (lpSurf + row * pitch + column) := by
  have fits : len ≤ pitch := Nat.le_trans padding (Nat.le_of_lt columnInRange)
  rw [copyRows_row source fits surface lpSurf lp rowInRange columnInRange,
    if_neg (Nat.not_lt.mpr padding)]

theorem copyRows_behind (source : Memory) {len stride pitch rows : Nat} (fits : len ≤ pitch)
    (surface : Memory) {lpSurf lp address : Nat} (behind : lpSurf + rows * pitch ≤ address) :
    (copyRows source len stride pitch rows surface lpSurf lp).value.1 address =
      surface address := by
  induction rows generalizing surface lpSurf lp with
  | zero => rfl
  | succ rows ih =>
      rw [Nat.succ_mul] at behind
      simp only [copyRows, value_bind]
      rw [ih _ (by omega)]
      exact copy_of_ge surface lpSurf source lp len address (by omega)

theorem safe_copyRows {allowed : SurfaceAccess → Prop} (source : Memory)
    {len stride pitch rows : Nat} (surface : Memory) (lpSurf lp : Nat)
    (reads : ∀ row, row < rows → allowed (.source (lp + row * stride) len))
    (writes : ∀ row, row < rows → allowed (.surface (lpSurf + row * pitch) len)) :
    Safe allowed (copyRows source len stride pitch rows surface lpSurf lp) := by
  induction rows generalizing surface lpSurf lp with
  | zero => exact safe_pure allowed _
  | succ rows ih =>
      have firstRead := reads 0 (Nat.succ_pos rows)
      have firstWrite := writes 0 (Nat.succ_pos rows)
      rw [Nat.zero_mul, Nat.add_zero] at firstRead firstWrite
      simp only [copyRows, safe_bind, safe_emit]
      apply And.intro firstRead
      apply And.intro firstWrite
      apply ih
      · intro row rowInRange
        have later := reads (row + 1) (Nat.succ_lt_succ rowInRange)
        rwa [Nat.succ_mul, Nat.add_comm (row * stride), ← Nat.add_assoc] at later
      · intro row rowInRange
        have later := writes (row + 1) (Nat.succ_lt_succ rowInRange)
        rwa [Nat.succ_mul, Nat.add_comm (row * pitch), ← Nat.add_assoc] at later

private theorem row_within {row rows len pitch : Nat} (rowInRange : row < rows)
    (fits : len ≤ pitch) : row * pitch + len ≤ rows * pitch := by
  have whole := Nat.mul_le_mul_right pitch (Nat.succ_le_of_lt rowInRange)
  rw [Nat.succ_mul] at whole
  omega

/-- A loop over whole rows stays where these rows are. -/
theorem safe_copyRows_inside {w h lPitch : Nat} (source : Memory) {len stride pitch rows : Nat}
    (surface : Memory) {lpSurf lp : Nat} (strideFits : len ≤ stride) (pitchFits : len ≤ pitch)
    (sourceRows : lp + rows * stride ≤ w * h * 3 / 2)
    (surfaceRows : lpSurf + rows * pitch ≤ h * lPitch * 3 / 2) :
    Safe (Inside w h lPitch) (copyRows source len stride pitch rows surface lpSurf lp) := by
  apply safe_copyRows
  · intro row rowInRange
    have reads := row_within rowInRange strideFits
    change lp + row * stride + len ≤ w * h * 3 / 2
    omega
  · intro row rowInRange
    have writes := row_within rowInRange pitchFits
    change lpSurf + row * pitch + len ≤ h * lPitch * 3 / 2
    omega

/-! ### The offsets of the chroma planes -/

/-- Five times the number of pixels is an `int`, or it wraps around all four quarters of the
address space. -/
def OffsetRight (w h : Nat) : Prop :=
  5 * (w * h) < 2147483648 ∨ 15032385536 ≤ 5 * (w * h) ∧ 5 * (w * h) < 17179869184

instance (w h : Nat) : Decidable (OffsetRight w h) :=
  inferInstanceAs (Decidable (_ ∨ _))

section Offsets

variable {draw : CDirectDraw} {w h : Nat}

theorem EvenSize.blocks (sized : draw.EvenSize w h) :
    ∃ m k, w = 2 * m ∧ h = 2 * k ∧ w * h = 4 * (m * k) := by
  have widthEven := sized.widthEven
  have heightEven := sized.heightEven
  obtain ⟨m, rfl⟩ : ∃ m, w = 2 * m := ⟨w / 2, by omega⟩
  obtain ⟨k, rfl⟩ : ∃ k, h = 2 * k := ⟨h / 2, by omega⟩
  exact ⟨m, k, rfl, rfl, by ring⟩

private theorem i32_wraps (value : Int) :
    ∃ wraps : Int, i32 value = value - 4294967296 * wraps := by
  refine ⟨(value + 2147483648) / 4294967296, ?_⟩
  unfold i32
  omega

private theorem i32_mul_five (value : Int) : i32 (i32 value * 5) = i32 (value * 5) := by
  obtain ⟨wraps, wrapped⟩ := i32_wraps value
  rw [wrapped]
  unfold i32
  omega

/-- A quarter of the wrapped product is the offset after no turn, or after four. -/
private theorem u32_quarter_iff {blocks : Nat} {quarter wraps : Int}
    (low : -536870912 ≤ quarter) (high : quarter < 536870912)
    (quarterEq : quarter = 5 * blocks - 1073741824 * wraps) :
    u32 quarter = 5 * blocks ↔ wraps = 0 ∨ wraps = 4 ∧ 5 * blocks < 4294967296 := by
  constructor
  · intro same
    unfold u32 at same
    have upper : wraps < 5 := by omega
    have lower : 0 ≤ wraps := by omega
    omega
  · intro turns
    have reduced : quarter % 4294967296 = ((5 * blocks : Nat) : Int) := by
      rcases turns with none | four
      · rw [none] at quarterEq
        omega
      · rw [four.1] at quarterEq
        omega
    rw [u32, reduced, Int.toNat_natCast]

theorem lpV_eq_iff (sized : draw.EvenSize w h) :
    draw.lpV = w * h * 5 / 4 ↔ OffsetRight w h := by
  obtain ⟨m, k, -, -, area⟩ := sized.blocks
  have areaInt : ((w : Int) * h) = 4 * ((m * k : Nat) : Int) := by
    rw [← Int.natCast_mul, area]
    exact Int.natCast_mul 4 (m * k)
  rw [lpV, sized.bitmapWidth, sized.bitmapHeight, OffsetRight, areaInt, area, i32_mul_five]
  generalize m * k = blocks
  have offsetEq : 4 * blocks * 5 / 4 = 5 * blocks := by omega
  obtain ⟨wraps, wrapped⟩ := i32_wraps (4 * (blocks : Int) * 5)
  obtain ⟨quarter, quarterEq⟩ : ∃ quarter : Int, i32 (4 * (blocks : Int) * 5) = 4 * quarter :=
    ⟨5 * blocks - 1073741824 * wraps, by omega⟩
  have inRange : -2147483648 ≤ 4 * quarter ∧ 4 * quarter < 2147483648 := by
    rw [← quarterEq]
    unfold i32
    omega
  rw [quarterEq, Int.mul_tdiv_cancel_left quarter (by decide), offsetEq,
    u32_quarter_iff (by omega) (by omega) (by omega : quarter = 5 * blocks - 1073741824 * wraps)]
  omega

theorem lpU_of_offsetRight (sized : draw.EvenSize w h) (right : OffsetRight w h) :
    draw.lpU = w * h := by
  rw [lpU, sized.bitmapWidth, sized.bitmapHeight, ← Int.natCast_mul]
  unfold OffsetRight at right
  generalize w * h = area at right ⊢
  unfold i32 u32
  omega

end Offsets

/-! ### The conversion -/

section Conversion

variable {draw : CDirectDraw} {w h : Nat}

theorem holdsYV12_copyToDDraw (sized : draw.EvenSize w h) (right : OffsetRight w h)
    (surface source : Memory) :
    HoldsYV12 w h draw.lPitch source surface (draw.copyToDDraw surface source).value := by
  have startU := lpU_of_offsetRight sized right
  have startV := (lpV_eq_iff sized).mpr right
  have fits : draw.dwWidth ≤ draw.lPitch := sized.dwWidth ▸ sized.fits
  have halfFits : draw.dwWidth / 2 ≤ draw.lPitch / 2 := Nat.div_le_div_right fits
  constructor
  case y =>
    intro y x rowInRange columnInRange
    rw [copyToDDraw_y fits surface source (sized.dwHeight.symm ▸ rowInRange)
      (sized.dwWidth.symm ▸ columnInRange), sized.bitmapWidth]
  case v =>
    intro y x rowInRange columnInRange
    have atCell := copyToDDraw_v halfFits surface source (sized.dwHeight.symm ▸ rowInRange)
      (sized.dwWidth.symm ▸ columnInRange)
    rwa [startV, sized.bitmapWidth, sized.dwHeight] at atCell
  case u =>
    intro y x rowInRange columnInRange
    have atCell := copyToDDraw_u halfFits surface source (sized.dwHeight.symm ▸ rowInRange)
      (sized.dwWidth.symm ▸ columnInRange)
    rwa [startU, sized.bitmapWidth, sized.dwHeight] at atCell
  all_goals
    rw [sized.dwWidth] at fits halfFits
    simp only [copyToDDraw, value_bind, value_pure, copyRows_end, Nat.zero_add, sized.dwHeight,
      sized.dwWidth]
  case paddingY =>
    intro y x rowInRange padding columnInRange
    have inRows := cell_before rowInRange columnInRange
    have kept := @copyRows_padding source w draw.bitmapWidth draw.lPitch h surface 0 0 y x
      rowInRange padding columnInRange
    rw [Nat.zero_add] at kept
    rw [copyRows_before _ _ _ _ _ _ (by omega), copyRows_before _ _ _ _ _ _ inRows, kept]
  case paddingV =>
    intro y x rowInRange padding columnInRange
    have inRows := cell_before rowInRange columnInRange
    rw [copyRows_before _ _ _ _ _ _ (by omega),
      copyRows_padding source _ _ _ rowInRange padding columnInRange]
    exact copyRows_behind source fits surface (by omega)
  case paddingU =>
    intro y x rowInRange padding columnInRange
    rw [copyRows_padding source _ _ _ rowInRange padding columnInRange,
      copyRows_behind source halfFits _ (by omega)]
    exact copyRows_behind source fits surface (by omega)

theorem safe_copyToDDraw (sized : draw.EvenSize w h) (right : OffsetRight w h)
    (surface source : Memory) :
    Safe (Inside w h draw.lPitch) (draw.copyToDDraw surface source) := by
  have startU := lpU_of_offsetRight sized right
  have startV := (lpV_eq_iff sized).mpr right
  have pitchEven := sized.pitchEven
  have fits := sized.fits
  obtain ⟨m, k, widthEq, heightEq, area⟩ := sized.blocks
  obtain ⟨q, pitchEq⟩ : ∃ q, draw.lPitch = 2 * q := ⟨draw.lPitch / 2, by omega⟩
  have halfWidth : w / 2 = m := by omega
  have halfHeight : h / 2 = k := by omega
  have halfPitch : draw.lPitch / 2 = q := by omega
  have halfFits : m ≤ q := by omega
  have cells : h * draw.lPitch = 4 * (k * q) := by
    rw [heightEq, pitchEq]
    ring
  have swapped : h * w = w * h := Nat.mul_comm h w
  have blocksEq : k * m = m * k := Nat.mul_comm k m
  simp only [copyToDDraw, safe_bind, safe_pure, and_true, copyRows_end, Nat.zero_add,
    sized.dwHeight, sized.dwWidth, sized.bitmapWidth, startU, startV, halfWidth,
    halfHeight, halfPitch]
  constructor
  · apply safe_copyRows_inside source surface (Nat.le_refl w) fits
    · omega
    · omega
  constructor
  · apply safe_copyRows_inside source _ (Nat.le_refl m) halfFits
    · omega
    · omega
  · apply safe_copyRows_inside source _ (Nat.le_refl m) halfFits
    · omega
    · omega

/-- A picture of one bright sample, the first of its V plane, shows from where V is taken. -/
theorem offsetRight_of_converts (sized : draw.EvenSize w h) (converts : draw.Converts w h) :
    OffsetRight w h := by
  obtain ⟨bright, atV, elsewhere⟩ : ∃ bright : Memory, bright (w * h * 5 / 4) = 1 ∧
      ∀ address, address ≠ w * h * 5 / 4 → bright address = 0 :=
    ⟨fun address => if address = w * h * 5 / 4 then 1 else 0, if_pos rfl,
      fun _ different => if_neg different⟩
  have widthPositive := sized.widthPositive
  have heightPositive := sized.heightPositive
  have widthEven := sized.widthEven
  have heightEven := sized.heightEven
  have halfFits : draw.dwWidth / 2 ≤ draw.lPitch / 2 :=
    Nat.div_le_div_right (sized.dwWidth ▸ sized.fits)
  have firstRow : 0 < draw.dwHeight / 2 := by
    rw [sized.dwHeight]
    omega
  have firstColumn : 0 < draw.dwWidth / 2 := by
    rw [sized.dwWidth]
    omega
  have shown := (converts bright bright).1.v 0 0 (by omega) (by omega)
  have taken := copyToDDraw_v halfFits bright bright firstRow firstColumn
  rw [Nat.zero_mul, Nat.add_zero, Nat.add_zero, Nat.zero_mul, Nat.add_zero] at shown taken
  rw [sized.dwHeight, shown, atV] at taken
  rw [← lpV_eq_iff sized]
  by_contra different
  rw [elsewhere _ different] at taken
  exact absurd taken (by decide)

end Conversion

theorem copyToDDraw_converts_iff {draw : CDirectDraw} {w h : Nat} (sized : draw.EvenSize w h) :
    draw.Converts w h ↔ OffsetRight w h := by
  constructor
  · exact offsetRight_of_converts sized
  · intro right surface source
    exact ⟨holdsYV12_copyToDDraw sized right surface source,
      safe_copyToDDraw sized right surface source⟩

theorem copyToDDraw_converts_cif :
    CDirectDraw.Converts
        { bitmapWidth := 352, bitmapHeight := 288, dwWidth := 352, dwHeight := 288,
          lPitch := 384 } 352 288 :=
  (copyToDDraw_converts_iff
    { bitmapWidth := rfl
      bitmapHeight := rfl
      dwWidth := rfl
      dwHeight := rfl
      widthPositive := by decide
      heightPositive := by decide
      widthEven := rfl
      heightEven := rfl
      pitchEven := rfl
      fits := by decide }).mpr (by decide)

/-- The V plane of 32768 by 16384 pixels is taken from in front of the picture. -/
theorem not_copyToDDraw_converts_large :
    ¬ CDirectDraw.Converts
        { bitmapWidth := 32768, bitmapHeight := 16384, dwWidth := 32768, dwHeight := 16384,
          lPitch := 32768 } 32768 16384 := by
  intro converts
  have right := offsetRight_of_converts
    { bitmapWidth := rfl
      bitmapHeight := rfl
      dwWidth := rfl
      dwHeight := rfl
      widthPositive := by decide
      heightPositive := by decide
      widthEven := rfl
      heightEven := rfl
      pitchEven := rfl
      fits := by decide } converts
  exact absurd right (by decide)

end CDirectDraw

end DShowCapture
