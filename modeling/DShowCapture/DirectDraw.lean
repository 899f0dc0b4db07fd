/-
The renderer: `CDirectDraw::CopyToDDraw` of `src/DirectDraw.cpp`.

It takes a packed planar picture to the rows of the off-screen surface, luma first, then V
and U.  Addresses are offsets from the two buffers it is given; the offsets of the chroma
planes are computed in `int`.
-/
import DShowCapture.Library.ByteMemory
import DShowCapture.Library.FixedWidth
import DShowCapture.Library.Logged

namespace DShowCapture

open ByteMemory FixedWidth Logged

/-- The sizes that `InitDirectDraw` stores, and the fields of `ddsd` that describe the locked
surface. -/
structure CDirectDraw where
  bitmapWidth : Nat
  bitmapHeight : Nat
  dwWidth : Nat
  dwHeight : Nat
  lPitch : Nat

inductive SurfaceAccess
  /-- A read of `count` bytes of the picture from `start` on. -/
  | source (start count : Nat)
  /-- A write of `count` bytes of the surface from `start` on. -/
  | surface (start count : Nat)
  deriving DecidableEq, Repr

namespace CDirectDraw

def lpU (self : CDirectDraw) : Nat := u32 (i32 (self.bitmapWidth * self.bitmapHeight))

def lpV (self : CDirectDraw) : Nat :=
  u32 ((i32 (i32 (self.bitmapWidth * self.bitmapHeight) * 5)).tdiv 4)

/-- One of the three loops: rows of `len` bytes, the picture's `stride` and the surface's
`pitch` apart.  The result is the surface and the address behind its last row. -/
def copyRows (source : Memory) (len stride pitch : Nat) :
    Nat → Memory → Nat → Nat → Logged SurfaceAccess (Memory × Nat)
  | 0, surface, lpSurf, _ => pure (surface, lpSurf)
  | rows + 1, surface, lpSurf, lp => do
      emit (.source lp len)
      emit (.surface lpSurf len)
      copyRows source len stride pitch rows (copy surface lpSurf source lp len)
        (lpSurf + pitch) (lp + stride)

/-- `CopyToDDraw`, with buffers that are there. -/
def copyToDDraw (self : CDirectDraw) (surface source : Memory) :
    Logged SurfaceAccess Memory := do
  let (surface, lpSurf) ←
    copyRows source self.dwWidth self.bitmapWidth self.lPitch self.dwHeight surface 0 0
  let (surface, lpSurf) ←
    copyRows source (self.dwWidth / 2) (self.bitmapWidth / 2) (self.lPitch / 2)
      (self.dwHeight / 2) surface lpSurf self.lpV
  let (surface, _) ←
    copyRows source (self.dwWidth / 2) (self.bitmapWidth / 2) (self.lPitch / 2)
      (self.dwHeight / 2) surface lpSurf self.lpU
  pure surface

theorem lpU_eq {self : CDirectDraw}
    (inRange : self.bitmapWidth * self.bitmapHeight < 2147483648) :
    self.lpU = self.bitmapWidth * self.bitmapHeight := by
  have sizeEq := i32_natCast _ inRange
  rw [Int.natCast_mul] at sizeEq
  rw [lpU, sizeEq]
  have small := u32_natCast (self.bitmapWidth * self.bitmapHeight) (by omega)
  rwa [Int.natCast_mul] at small

theorem lpV_eq {self : CDirectDraw}
    (inRange : self.bitmapWidth * self.bitmapHeight * 5 < 2147483648) :
    self.lpV = self.bitmapWidth * self.bitmapHeight * 5 / 4 := by
  have sizeEq := i32_natCast (self.bitmapWidth * self.bitmapHeight) (by omega)
  rw [Int.natCast_mul] at sizeEq
  rw [lpV, sizeEq]
  have productEq : (self.bitmapWidth : Int) * self.bitmapHeight * 5 =
      ((self.bitmapWidth * self.bitmapHeight * 5 : Nat) : Int) := by
    rw [Int.natCast_mul, Int.natCast_mul]
    rfl
  rw [productEq, i32_natCast _ inRange, Int.tdiv_eq_ediv_of_nonneg (Int.natCast_nonneg _)]
  unfold u32
  omega

/-! ### The pictures it reads -/

structure Shows (draw : CDirectDraw) (source : Memory) (data : Nat → Memory)
    (linesize : Nat → Nat) : Prop where
  y : ∀ row column, row < draw.dwHeight → column < draw.dwWidth →
    source (row * draw.bitmapWidth + column) = data 0 (row * linesize 0 + column)
  u : ∀ row column, row < draw.dwHeight / 2 → column < draw.dwWidth / 2 →
    source (draw.lpU + row * (draw.bitmapWidth / 2) + column) =
      data 1 (row * linesize 1 + column)
  v : ∀ row column, row < draw.dwHeight / 2 → column < draw.dwWidth / 2 →
    source (draw.lpV + row * (draw.bitmapWidth / 2) + column) =
      data 2 (row * linesize 2 + column)

/-! ### The surface -/

structure Displays (draw : CDirectDraw) (surface : Memory) (data : Nat → Memory)
    (linesize : Nat → Nat) : Prop where
  y : ∀ row column, row < draw.dwHeight → column < draw.dwWidth →
    surface (row * draw.lPitch + column) = data 0 (row * linesize 0 + column)
  v : ∀ row column, row < draw.dwHeight / 2 → column < draw.dwWidth / 2 →
    surface (draw.dwHeight * draw.lPitch + row * (draw.lPitch / 2) + column) =
      data 2 (row * linesize 2 + column)
  u : ∀ row column, row < draw.dwHeight / 2 → column < draw.dwWidth / 2 →
    surface (draw.dwHeight * draw.lPitch + draw.dwHeight / 2 * (draw.lPitch / 2) +
      row * (draw.lPitch / 2) + column) = data 1 (row * linesize 1 + column)

theorem copyRows_end (source : Memory) (len stride pitch rows : Nat) (surface : Memory)
    (lpSurf lp : Nat) :
    (copyRows source len stride pitch rows surface lpSurf lp).value.2 = lpSurf + rows * pitch := by
  induction rows generalizing surface lpSurf lp with
  | zero => exact (Nat.zero_mul pitch).symm ▸ rfl
  | succ rows ih =>
      simp only [copyRows, value_bind, ih]
      rw [Nat.succ_mul]
      omega

theorem copyRows_before (source : Memory) (len stride pitch rows : Nat) (surface : Memory)
    {lpSurf lp address : Nat} (before : address < lpSurf) :
    (copyRows source len stride pitch rows surface lpSurf lp).value.1 address =
      surface address := by
  induction rows generalizing surface lpSurf lp with
  | zero => rfl
  | succ rows ih =>
      simp only [copyRows, value_bind]
      rw [ih _ (by omega)]
      exact copy_of_lt surface lpSurf source lp len address before

/-- A row of the surface is as if it alone had been copied. -/
theorem copyRows_row (source : Memory) {len stride pitch rows : Nat} (fits : len ≤ pitch)
    (surface : Memory) (lpSurf lp : Nat) {row column : Nat} (rowInRange : row < rows)
    (columnInRange : column < pitch) :
    (copyRows source len stride pitch rows surface lpSurf lp).value.1
        (lpSurf + row * pitch + column) =
      if column < len then source (lp + row * stride + column)
      else surface (lpSurf + row * pitch + column) := by
  induction rows generalizing surface lpSurf lp row with
  | zero => exact absurd rowInRange (Nat.not_lt_zero row)
  | succ rows ih =>
      simp only [copyRows, value_bind]
      cases row with
      | zero =>
          rw [Nat.zero_mul, Nat.zero_mul, Nat.add_zero, Nat.add_zero,
            copyRows_before _ _ _ _ _ _ (by omega)]
          by_cases inRow : column < len
          · rw [if_pos inRow, copy, if_pos ⟨by omega, by omega⟩, Nat.add_sub_cancel_left]
          · rw [if_neg inRow, copy_of_ge surface lpSurf source lp len _ (by omega)]
      | succ row =>
          have later := ih (copy surface lpSurf source lp len) (lpSurf + pitch) (lp + stride)
            (Nat.lt_of_succ_lt_succ rowInRange)
          rw [copy_of_ge surface lpSurf source lp len _ (by omega)] at later
          rw [Nat.succ_mul, Nat.succ_mul, Nat.add_comm (row * pitch), Nat.add_comm (row * stride),
            ← Nat.add_assoc, ← Nat.add_assoc]
          exact later

theorem copyRows_at (source : Memory) {len stride pitch rows : Nat} (fits : len ≤ pitch)
    (surface : Memory) (lpSurf lp : Nat) {row column : Nat} (rowInRange : row < rows)
    (columnInRange : column < len) :
    (copyRows source len stride pitch rows surface lpSurf lp).value.1
      (lpSurf + row * pitch + column) = source (lp + row * stride + column) := by
  rw [copyRows_row source fits surface lpSurf lp rowInRange (Nat.lt_of_lt_of_le columnInRange fits),
    if_pos columnInRange]

theorem cell_before {row rows column pitch : Nat} (rowInRange : row < rows)
    (columnInRange : column < pitch) : row * pitch + column < rows * pitch := by
  have whole := Nat.mul_le_mul_right pitch (Nat.succ_le_of_lt rowInRange)
  rw [Nat.succ_mul] at whole
  omega

section Rows

variable {draw : CDirectDraw} {row column : Nat}

theorem copyToDDraw_y (fits : draw.dwWidth ≤ draw.lPitch) (surface source : Memory)
    (rowInRange : row < draw.dwHeight) (columnInRange : column < draw.dwWidth) :
    (draw.copyToDDraw surface source).value (row * draw.lPitch + column) =
      source (row * draw.bitmapWidth + column) := by
  have inRows := cell_before rowInRange (Nat.lt_of_lt_of_le columnInRange fits)
  have inPlane := @copyRows_at source _ draw.bitmapWidth _ _ fits surface 0 0 _ _ rowInRange
    columnInRange
  simp only [copyToDDraw, value_bind, value_pure, copyRows_end, Nat.zero_add] at inPlane ⊢
  rw [copyRows_before _ _ _ _ _ _ (by omega), copyRows_before _ _ _ _ _ _ inRows]
  exact inPlane

theorem copyToDDraw_v (fits : draw.dwWidth / 2 ≤ draw.lPitch / 2) (surface source : Memory)
    (rowInRange : row < draw.dwHeight / 2) (columnInRange : column < draw.dwWidth / 2) :
    (draw.copyToDDraw surface source).value
        (draw.dwHeight * draw.lPitch + row * (draw.lPitch / 2) + column) =
      source (draw.lpV + row * (draw.bitmapWidth / 2) + column) := by
  have inRows := cell_before rowInRange (Nat.lt_of_lt_of_le columnInRange fits)
  simp only [copyToDDraw, value_bind, value_pure, copyRows_end, Nat.zero_add]
  rw [copyRows_before _ _ _ _ _ _ (by omega)]
  exact copyRows_at source fits _ _ _ rowInRange columnInRange

theorem copyToDDraw_u (fits : draw.dwWidth / 2 ≤ draw.lPitch / 2) (surface source : Memory)
    (rowInRange : row < draw.dwHeight / 2) (columnInRange : column < draw.dwWidth / 2) :
    (draw.copyToDDraw surface source).value
        (draw.dwHeight * draw.lPitch + draw.dwHeight / 2 * (draw.lPitch / 2) +
          row * (draw.lPitch / 2) + column) =
      source (draw.lpU + row * (draw.bitmapWidth / 2) + column) := by
  simp only [copyToDDraw, value_bind, value_pure, copyRows_end, Nat.zero_add]
  exact copyRows_at source fits _ _ _ rowInRange columnInRange

/-- The renderer displays what the planes of the picture show. -/
theorem displays_copyToDDraw_iff (fits : draw.dwWidth ≤ draw.lPitch) (surface source : Memory)
    (data : Nat → Memory) (linesize : Nat → Nat) :
    draw.Displays (draw.copyToDDraw surface source).value data linesize ↔
      draw.Shows source data linesize := by
  have halfFits : draw.dwWidth / 2 ≤ draw.lPitch / 2 := Nat.div_le_div_right fits
  constructor
  · rintro ⟨y, v, u⟩
    refine { y := ?_, u := ?_, v := ?_ }
    · intro row column rowInRange columnInRange
      rw [← copyToDDraw_y fits surface source rowInRange columnInRange]
      exact y row column rowInRange columnInRange
    · intro row column rowInRange columnInRange
      rw [← copyToDDraw_u halfFits surface source rowInRange columnInRange]
      exact u row column rowInRange columnInRange
    · intro row column rowInRange columnInRange
      rw [← copyToDDraw_v halfFits surface source rowInRange columnInRange]
      exact v row column rowInRange columnInRange
  · rintro ⟨y, u, v⟩
    refine { y := ?_, v := ?_, u := ?_ }
    · intro row column rowInRange columnInRange
      rw [copyToDDraw_y fits surface source rowInRange columnInRange]
      exact y row column rowInRange columnInRange
    · intro row column rowInRange columnInRange
      rw [copyToDDraw_v halfFits surface source rowInRange columnInRange]
      exact v row column rowInRange columnInRange
    · intro row column rowInRange columnInRange
      rw [copyToDDraw_u halfFits surface source rowInRange columnInRange]
      exact u row column rowInRange columnInRange

end Rows

end CDirectDraw

end DShowCapture
