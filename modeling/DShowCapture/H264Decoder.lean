/-
The decoder of `codec/h264_codec.cpp`, as far as it hands pictures on.

The codec library is outside of the repository: what `avcodec_decode_video2` makes of the
input, a picture or none, is an argument.  Its rows are `linesize` bytes apart, which is at
least the width of the plane.
-/
import DShowCapture.DirectDraw
import Mathlib.Tactic.Ring

namespace DShowCapture

open ByteMemory FixedWidth Logged

structure AVFrame where
  data : Nat → Memory
  linesize : Nat → Nat

structure DstAccess where
  start : Nat
  count : Nat
  deriving DecidableEq, Repr

namespace H264Decoder

/-- `Decode`.  The picture comes with `pCodecCtx->height`. -/
def decode (picture : Option (AVFrame × Nat)) (src_buf : Option (List UInt8))
    (dst_buf : Memory) : Logged DstAccess (Int × Memory) :=
  match src_buf with
  | none => pure (-1, dst_buf)
  | some [] => pure (-1, dst_buf)
  | some (_ :: _) =>
      match picture with
      | none => pure (-1, dst_buf)
      | some (pFrameYUV, height) => do
          let size_y := i32 (pFrameYUV.linesize 0 * height)
          let size_u := (i32 (pFrameYUV.linesize 1 * height)).tdiv 2
          let size_v := (i32 (pFrameYUV.linesize 2 * height)).tdiv 2
          emit { start := 0, count := u32 size_y }
          let dst_buf := copy dst_buf 0 (pFrameYUV.data 0) 0 (u32 size_y)
          emit { start := u32 size_y, count := u32 size_u }
          let dst_buf := copy dst_buf (u32 size_y) (pFrameYUV.data 1) 0 (u32 size_u)
          emit { start := u32 (size_y + size_v), count := u32 size_v }
          let dst_buf := copy dst_buf (u32 (size_y + size_v)) (pFrameYUV.data 2) 0 (u32 size_v)
          pure (i32 (i32 (size_y + size_u) + size_v), dst_buf)

/-- `dst_buf` after the three copies, with planes of `k` chroma rows. -/
def copied (picture : AVFrame) (k : Nat) (dst_buf : Memory) : Memory :=
  let size_y := picture.linesize 0 * (2 * k)
  copy
    (copy (copy dst_buf 0 (picture.data 0) 0 size_y) size_y (picture.data 1) 0
      (picture.linesize 1 * k))
    (size_y + picture.linesize 2 * k) (picture.data 2) 0 (picture.linesize 2 * k)

private theorem plane_size {linesize k : Nat} (small : linesize * (2 * k) < 2147483648) :
    i32 (linesize * (2 * k : Nat)) = ((linesize * (2 * k) : Nat) : Int) ∧
      (i32 (linesize * (2 * k : Nat))).tdiv 2 = ((linesize * k : Nat) : Int) := by
  have sizeEq := i32_natCast _ small
  have half : ((linesize * (2 * k) : Nat) : Int) = 2 * ((linesize * k : Nat) : Int) := by
    rw [Nat.mul_left_comm linesize 2 k, Int.natCast_mul]
    rfl
  rw [← Int.natCast_mul]
  refine ⟨sizeEq, ?_⟩
  rw [sizeEq, half, Int.mul_tdiv_cancel_left _ (by decide)]

/-- What `Decode` does with a picture whose sizes are in the range of `int`. -/
theorem decode_eq (picture : AVFrame) {k : Nat}
    (small : ∀ plane, plane < 3 → picture.linesize plane * (2 * k) < 2147483648)
    {src_buf : List UInt8} (someData : src_buf ≠ []) (dst_buf : Memory) :
    let decoded := decode (some (picture, 2 * k)) (some src_buf) dst_buf
    let size_y := picture.linesize 0 * (2 * k)
    decoded.value.2 = copied picture k dst_buf ∧
      decoded.log =
        [{ start := 0, count := size_y },
          { start := size_y, count := picture.linesize 1 * k },
          { start := size_y + picture.linesize 2 * k, count := picture.linesize 2 * k }] := by
  have smallY := small 0 (by decide)
  have smallU := small 1 (by decide)
  have smallV := small 2 (by decide)
  have sizeY := (plane_size smallY).1
  have sizeU := (plane_size smallU).2
  have sizeV := (plane_size smallV).2
  have halfU : picture.linesize 1 * (2 * k) = 2 * (picture.linesize 1 * k) :=
    Nat.mul_left_comm _ 2 k
  have halfV : picture.linesize 2 * (2 * k) = 2 * (picture.linesize 2 * k) :=
    Nat.mul_left_comm _ 2 k
  have countY := u32_natCast (picture.linesize 0 * (2 * k)) (by omega)
  have countU := u32_natCast (picture.linesize 1 * k) (by omega)
  have countV := u32_natCast (picture.linesize 2 * k) (by omega)
  have startV := u32_natCast (picture.linesize 0 * (2 * k) + picture.linesize 2 * k) (by omega)
  rw [Int.natCast_add] at startV
  cases src_buf with
  | nil => exact absurd rfl someData
  | cons byte rest =>
      simp only [decode, sizeY, sizeU, sizeV, countY, countU, countV, startV]
      exact ⟨rfl, rfl⟩

/-! ### The layout that the renderer reads -/

def renderer (w h pitch : Nat) : CDirectDraw :=
  { bitmapWidth := w, bitmapHeight := h, dwWidth := w, dwHeight := h, lPitch := pitch }

/-- Whatever the decoder makes of the input, the renderer finds its samples in the buffer,
and nothing was written behind the bytes that were allocated. -/
def HandsOver (w h pitch : Nat) (linesize : Nat → Nat) : Prop :=
  ∀ (data : Nat → Memory) (src_buf : List UInt8) (dst_buf : Memory), src_buf ≠ [] →
    let decoded :=
      decode (some ({ data := data, linesize := linesize }, h)) (some src_buf) dst_buf
    (renderer w h pitch).Shows decoded.value.2 data linesize ∧
      Safe (fun write => write.start + write.count ≤ w * h * 3 / 2) decoded

/-- A picture that is handed over is displayed, on a surface that is wide enough. -/
theorem HandsOver.displays {w h pitch : Nat} {linesize : Nat → Nat}
    (handsOver : HandsOver w h pitch linesize) (fits : w ≤ pitch) (data : Nat → Memory)
    {src_buf : List UInt8} (someData : src_buf ≠ []) (dst_buf surface : Memory) :
    let decoded :=
      decode (some ({ data := data, linesize := linesize }, h)) (some src_buf) dst_buf
    (renderer w h pitch).Displays
      ((renderer w h pitch).copyToDDraw surface decoded.value.2).value data linesize := by
  intro decoded
  rw [CDirectDraw.displays_copyToDDraw_iff fits]
  exact (handsOver data src_buf dst_buf someData).1

structure Packs (m k : Nat) (linesize : Nat → Nat) (data : Nat → Memory) (dst : Memory) :
    Prop where
  y : ∀ row column, row < 2 * k → column < 2 * m →
    dst (row * (2 * m) + column) = data 0 (row * linesize 0 + column)
  u : ∀ row column, row < k → column < m →
    dst (4 * (m * k) + (row * m + column)) = data 1 (row * linesize 1 + column)
  v : ∀ row column, row < k → column < m →
    dst (5 * (m * k) + (row * m + column)) = data 2 (row * linesize 2 + column)

theorem shows_iff_packs {m k pitch : Nat} (size : 2 * m * (2 * k) * 5 < 2147483648)
    (dst : Memory) (data : Nat → Memory) (linesize : Nat → Nat) :
    (renderer (2 * m) (2 * k) pitch).Shows dst data linesize ↔
      Packs m k linesize data dst := by
  have area : 2 * m * (2 * k) = 4 * (m * k) := by ring
  have startU : (renderer (2 * m) (2 * k) pitch).lpU = 4 * (m * k) := by
    rw [CDirectDraw.lpU_eq (by simp only [renderer]; omega)]
    exact area
  have startV : (renderer (2 * m) (2 * k) pitch).lpV = 5 * (m * k) := by
    rw [CDirectDraw.lpV_eq size]
    simp only [renderer]
    omega
  have halfM : 2 * m / 2 = m := by omega
  have halfK : 2 * k / 2 = k := by omega
  constructor
  · intro shows
    rcases shows with ⟨y, u, v⟩
    rw [startU] at u
    rw [startV] at v
    simp only [renderer, halfM, halfK, Nat.add_assoc] at y u v
    exact { y := y, u := u, v := v }
  · intro packs
    refine { y := packs.y, u := ?_, v := ?_ }
    · rw [startU]
      simp only [renderer, halfM, halfK, Nat.add_assoc]
      exact packs.u
    · rw [startV]
      simp only [renderer, halfM, halfK, Nat.add_assoc]
      exact packs.v

theorem safe_decode_iff (picture : AVFrame) {k : Nat}
    (small : ∀ plane, plane < 3 → picture.linesize plane * (2 * k) < 2147483648)
    {src_buf : List UInt8} (someData : src_buf ≠ []) (dst_buf : Memory) (limit : Nat) :
    Safe (fun write => write.start + write.count ≤ limit)
        (decode (some (picture, 2 * k)) (some src_buf) dst_buf) ↔
      picture.linesize 0 * (2 * k) + picture.linesize 1 * k ≤ limit ∧
        picture.linesize 0 * (2 * k) + 2 * (picture.linesize 2 * k) ≤ limit := by
  rw [Safe, (decode_eq picture small someData dst_buf).2]
  simp only [List.mem_cons, List.not_mem_nil, or_false, forall_eq_or_imp, forall_eq]
  omega

private theorem cell_lt {row column rows columns : Nat} (rowInRange : row < rows)
    (columnInRange : column < columns) : row * columns + column < columns * rows := by
  rw [Nat.mul_comm columns rows]
  exact CDirectDraw.cell_before rowInRange columnInRange

section Copied

variable {picture : AVFrame} {k index : Nat} {dst_buf : Memory}

theorem copied_y (inPlane : index < picture.linesize 0 * (2 * k)) :
    copied picture k dst_buf index = picture.data 0 index := by
  have atIndex := copy_add dst_buf 0 (picture.data 0) 0 inPlane
  rw [Nat.zero_add] at atIndex
  rw [copied, copy_of_lt _ _ _ _ _ _ (by omega), copy_of_lt _ _ _ _ _ _ inPlane, atIndex]

theorem copied_u (inPlane : index < picture.linesize 1 * k)
    (beforeV : index < picture.linesize 2 * k) :
    copied picture k dst_buf (picture.linesize 0 * (2 * k) + index) = picture.data 1 index := by
  have atIndex := copy_add (copy dst_buf 0 (picture.data 0) 0 (picture.linesize 0 * (2 * k)))
    (picture.linesize 0 * (2 * k)) (picture.data 1) 0 inPlane
  rw [Nat.zero_add] at atIndex
  rw [copied, copy_of_lt _ _ _ _ _ _ (by omega), atIndex]

theorem copied_v (inPlane : index < picture.linesize 2 * k) :
    copied picture k dst_buf (picture.linesize 0 * (2 * k) + picture.linesize 2 * k + index) =
      picture.data 2 index := by
  rw [copied, copy_add _ _ _ _ inPlane, Nat.zero_add]

/-- Before the start of V, no byte of it is found. -/
theorem copied_beforeV (beforeV : index < picture.linesize 2 * k) :
    copied picture k dst_buf (picture.linesize 0 * (2 * k) + index) = picture.data 1 index ∨
      copied picture k dst_buf (picture.linesize 0 * (2 * k) + index) =
        dst_buf (picture.linesize 0 * (2 * k) + index) := by
  by_cases inPlane : index < picture.linesize 1 * k
  · exact Or.inl (copied_u inPlane beforeV)
  · right
    rw [copied, copy_of_lt _ _ _ _ _ _ (by omega), copy_of_ge _ _ _ _ _ _ (by omega),
      copy_of_ge _ _ _ _ _ _ (by omega)]

end Copied

def Packed (m k : Nat) (linesize : Nat → Nat) : Prop :=
  k = 0 ∨ linesize 0 = 2 * m ∧ linesize 2 = m ∧
    (linesize 1 = m ∨ k = 1 ∧ linesize 1 ≤ 2 * m)

theorem packs_of_packed {m k : Nat} (picture : AVFrame)
    (packed : Packed m k picture.linesize) (wide : m ≤ picture.linesize 1) (dst_buf : Memory) :
    Packs m k picture.linesize picture.data (copied picture k dst_buf) := by
  rcases packed with rfl | ⟨lineY, lineV, lineU⟩
  · exact
      { y := fun row _ inRange => absurd inRange (Nat.not_lt_zero row)
        u := fun row _ inRange => absurd inRange (Nat.not_lt_zero row)
        v := fun row _ inRange => absurd inRange (Nat.not_lt_zero row) }
  · have planeY : picture.linesize 0 * (2 * k) = 4 * (m * k) := by rw [lineY]; ring
    have planeV : picture.linesize 2 * k = m * k := by rw [lineV]
    have planeU : m * k ≤ picture.linesize 1 * k := Nat.mul_le_mul_right k wide
    refine { y := ?_, u := ?_, v := ?_ }
    · intro row column rowInRange columnInRange
      have inPlane := cell_lt rowInRange columnInRange
      rw [← lineY] at inPlane ⊢
      exact copied_y inPlane
    · intro row column rowInRange columnInRange
      have inPlane := cell_lt rowInRange columnInRange
      rw [← planeY, copied_u (by omega) (by omega)]
      rcases lineU with lineU | ⟨rfl, _⟩
      · rw [lineU]
      · have firstRow : row = 0 := by omega
        rw [firstRow, Nat.zero_mul, Nat.zero_mul]
    · intro row column rowInRange columnInRange
      have inPlane := cell_lt rowInRange columnInRange
      have startV : 5 * (m * k) = picture.linesize 0 * (2 * k) + picture.linesize 2 * k := by
        omega
      rw [startV, copied_v (by omega), lineV]

/-- Row lengths that pack every picture. -/
theorem packed_of_packs {m k : Nat} {linesize : Nat → Nat} (positive : 0 < m)
    (wideY : 2 * m ≤ linesize 0) (wideU : m ≤ linesize 1) (wideV : m ≤ linesize 2)
    (shortU : linesize 0 * (2 * k) + linesize 1 * k ≤ 6 * (m * k))
    (packs : ∀ data dst_buf,
      Packs m k linesize data (copied { data := data, linesize := linesize } k dst_buf)) :
    Packed m k linesize := by
  by_cases noRows : k = 0
  · exact Or.inl noRows
  right
  have lineY : linesize 0 = 2 * m := by
    by_contra longer
    let data : Nat → Memory := fun _ address => if address = linesize 0 then 1 else 0
    have sample := (packs data (fun _ => 0)).y 1 0 (by omega) (by omega)
    have inPlane : 2 * m < linesize 0 * (2 * k) :=
      Nat.lt_of_lt_of_le (by omega : 2 * m < linesize 0) (Nat.le_mul_of_pos_right _ (by omega))
    simp only [Nat.one_mul, Nat.add_zero] at sample
    rw [copied_y inPlane] at sample
    have differs : ¬ 2 * m = linesize 0 := fun same => longer same.symm
    simp [data, differs] at sample
  have planeY : linesize 0 * (2 * k) = 4 * (m * k) := by rw [lineY]; ring
  have rowsPositive : 0 < m * k := Nat.mul_pos positive (by omega)
  have lineV : linesize 2 = m := by
    by_contra longer
    let data : Nat → Memory := fun plane _ => if plane = 2 then 1 else 0
    have sample := (packs data (fun _ => 0)).v 0 0 (by omega) positive
    have beforeV : m * k < linesize 2 * k :=
      Nat.mul_lt_mul_of_pos_right (by omega) (by omega)
    have place : 5 * (m * k) + (0 * m + 0) = linesize 0 * (2 * k) + m * k := by omega
    rw [place] at sample
    have zero : copied { data := data, linesize := linesize } k (fun _ => 0)
        (linesize 0 * (2 * k) + m * k) = 0 := (copied_beforeV beforeV).elim id id
    rw [zero] at sample
    simp [data] at sample
  refine ⟨lineY, lineV, ?_⟩
  by_cases oneRow : k = 1
  · subst oneRow
    exact Or.inr ⟨rfl, by omega⟩
  · left
    by_contra longer
    let data : Nat → Memory := fun _ address => if address = linesize 1 then 1 else 0
    have sample := (packs data (fun _ => 0)).u 1 0 (by omega) positive
    have inV : m < linesize 2 * k := by
      rw [lineV]
      exact (Nat.lt_mul_iff_one_lt_right positive).mpr (by omega)
    have inU : m < linesize 1 * k :=
      Nat.lt_of_lt_of_le (by omega : m < linesize 1) (Nat.le_mul_of_pos_right _ (by omega))
    have place : 4 * (m * k) + (1 * m + 0) = linesize 0 * (2 * k) + m := by omega
    rw [place, copied_u inU inV] at sample
    have differs : ¬ m = linesize 1 := fun same => longer same.symm
    simp [data, differs] at sample

/-- The picture reaches the renderer as it reads it, within the bytes that were allocated, if
and only if it has no rows, or the rows of Y and V are as long as the picture is wide and
those of U too, except that a single row of U may have padding up to the width. -/
theorem handsOver_iff {w h pitch : Nat} {linesize : Nat → Nat} (evenWidth : w % 2 = 0)
    (evenHeight : h % 2 = 0) (wideY : w ≤ linesize 0) (wideU : w / 2 ≤ linesize 1)
    (wideV : w / 2 ≤ linesize 2)
    (planeSizes : ∀ plane, plane < 3 → linesize plane * h < 2147483648)
    (size : w * h * 5 < 2147483648) :
    HandsOver w h pitch linesize ↔
      h = 0 ∨ linesize 0 = w ∧ linesize 2 = w / 2 ∧
        (linesize 1 = w / 2 ∨ h = 2 ∧ linesize 1 ≤ w) := by
  obtain ⟨m, rfl⟩ : ∃ m, w = 2 * m := ⟨w / 2, by omega⟩
  obtain ⟨k, rfl⟩ : ∃ k, h = 2 * k := ⟨h / 2, by omega⟩
  have halfM : 2 * m / 2 = m := by omega
  have area : 2 * m * (2 * k) * 3 / 2 = 6 * (m * k) := by
    have product : 2 * m * (2 * k) * 3 = 2 * (6 * (m * k)) := by ring
    rw [product, Nat.mul_div_cancel_left _ (by decide)]
  rw [halfM] at wideU wideV ⊢
  have condition : (2 * k = 0 ∨ linesize 0 = 2 * m ∧ linesize 2 = m ∧
      (linesize 1 = m ∨ 2 * k = 2 ∧ linesize 1 ≤ 2 * m)) ↔ Packed m k linesize := by
    have noRows : 2 * k = 0 ↔ k = 0 := by omega
    have oneRow : 2 * k = 2 ↔ k = 1 := by omega
    rw [noRows, oneRow, Packed]
  rw [condition]
  constructor
  · intro handsOver
    have inside := (handsOver (fun _ _ => 0) [0] (fun _ => 0) (by decide)).2
    rw [safe_decode_iff _ planeSizes (by decide), area] at inside
    rcases inside with ⟨insideU, insideV⟩
    dsimp only at insideU insideV
    by_cases noColumns : m = 0
    · subst noColumns
      by_cases noRows : k = 0
      · exact Or.inl noRows
      · have noneY : linesize 0 * (2 * k) = 0 := by omega
        have noneU : linesize 1 * k = 0 := by omega
        have noneV : linesize 2 * k = 0 := by omega
        rw [Nat.mul_eq_zero] at noneY noneU noneV
        exact Or.inr ⟨by omega, by omega, Or.inl (by omega)⟩
    · apply packed_of_packs (by omega) wideY wideU wideV insideU
      intro data dst_buf
      have shows := (handsOver data [0] dst_buf (by decide)).1
      rw [(decode_eq _ planeSizes (by decide) dst_buf).1] at shows
      exact (shows_iff_packs size _ data linesize).mp shows
  · intro packed data src_buf dst_buf someData
    let picture : AVFrame := { data := data, linesize := linesize }
    constructor
    · rw [(decode_eq picture planeSizes someData dst_buf).1]
      exact (shows_iff_packs size _ data linesize).mpr
        (packs_of_packed picture packed wideU dst_buf)
    · rw [area]
      apply (safe_decode_iff picture planeSizes someData dst_buf (6 * (m * k))).mpr
      dsimp only [picture]
      rcases packed with rfl | ⟨lineY, lineV, lineU⟩
      · simp
      · have planeY : linesize 0 * (2 * k) = 4 * (m * k) := by rw [lineY]; ring
        have planeV : linesize 2 * k = m * k := by rw [lineV]
        have planeU : linesize 1 * k ≤ 2 * (m * k) := by
          rcases lineU with lineU | ⟨rfl, short⟩
          · rw [lineU]
            omega
          · omega
        exact ⟨by omega, by omega⟩

/-- Pictures of 352 by 288 pixels without padding, one of them with rows of its own values. -/
theorem handsOver_cif :
    let linesize : Nat → Nat := fun plane => if plane = 0 then 352 else 176
    let rows : Nat → Memory := fun plane address => UInt8.ofNat (address / linesize plane)
    let decoded :=
      decode (some ({ data := rows, linesize := linesize }, 288)) (some [0]) (fun _ => 0)
    HandsOver 352 288 384 linesize ∧
      (renderer 352 288 384).Shows decoded.value.2 rows linesize := by
  intro linesize rows decoded
  have planeSizes : ∀ plane, plane < 3 → linesize plane * 288 < 2147483648 := by decide
  have handsOver : HandsOver 352 288 384 linesize :=
    (handsOver_iff rfl rfl (by decide) (by decide) (by decide) planeSizes (by decide)).mpr
      (Or.inr ⟨rfl, rfl, Or.inl rfl⟩)
  exact ⟨handsOver, (handsOver rows [0] (fun _ => 0) (by decide)).1⟩

/-- Luma rows with two bytes of padding: the second row of the picture shows them. -/
theorem not_handsOver_paddedRows :
    let linesize : Nat → Nat := fun plane => if plane = 0 then 4 else 1
    ¬ HandsOver 2 2 2 linesize := by
  intro linesize handsOver
  let data : Nat → Memory := fun _ address => if address = 4 then 1 else 0
  have shown := (handsOver data [0] (fun _ => 0) (by decide)).1.y 1 0 (by decide) (by decide)
  revert shown
  decide

end H264Decoder

end DShowCapture
