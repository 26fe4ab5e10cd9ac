/-
  SequenceDiagram.Proofs.Layout.Boxes — boxes on the plane, read exactly.

  A box is upright when its corners are in order; every box of a layout is. Shifting and
  moving sideways keep width, height and order. On upright boxes growing moves each edge
  outward and joining takes the outer edge of each two, so that two boxes lie within what
  they are joined to.
-/

import SequenceDiagram.Box
import SequenceDiagram.Proofs.Numeric.Exact

namespace SequenceDiagram

structure Size.NonNegative (s : Size ℚ) : Prop where
  width : 0 ≤ s.width
  height : 0 ≤ s.height

namespace Box

structure Upright (b : Box ℚ) : Prop where
  horizontal : b.left ≤ b.right
  vertical : b.top ≤ b.bottom

/-- Inside another box, edges included. -/
structure Within (b c : Box ℚ) : Prop where
  left : c.left ≤ b.left
  top : c.top ≤ b.top
  right : b.right ≤ c.right
  bottom : b.bottom ≤ c.bottom

variable {b c e : Box ℚ} {a x dx : ℚ}

theorem Within.refl (b : Box ℚ) : b.Within b := ⟨le_rfl, le_rfl, le_rfl, le_rfl⟩

theorem Within.trans (h : b.Within c) (h' : c.Within e) : b.Within e :=
  ⟨h'.left.trans h.left, h'.top.trans h.top, h.right.trans h'.right, h.bottom.trans h'.bottom⟩

theorem Upright.width_nonneg (h : b.Upright) : 0 ≤ b.width := sub_nonneg.mpr h.horizontal

/-! ## Corners and sizes -/

theorem ofCorners_eq {x0 y0 x1 y1 : ℚ} (hx : x0 ≤ x1) (hy : y0 ≤ y1) :
    ofCorners x0 y0 x1 y1 = ⟨x0, y0, x1, y1⟩ := by
  unfold ofCorners
  rw [if_neg (not_lt.mpr hx), if_neg (not_lt.mpr hy)]

theorem ofSize_eq {s : Size ℚ} (h : s.NonNegative) : ofSize s = ⟨0, 0, s.width, s.height⟩ :=
  ofCorners_eq h.width h.height

theorem upright_ofSize {s : Size ℚ} (h : s.NonNegative) : (ofSize s).Upright := by
  rw [ofSize_eq h]
  constructor
  · exact h.width
  · exact h.height

theorem width_eq (b : Box ℚ) : b.width = b.right - b.left := rfl

theorem height_eq (b : Box ℚ) : b.height = b.bottom - b.top := rfl

theorem midX_eq (b : Box ℚ) : b.midX = (b.left + b.right) / 2 := by
  show b.left + (b.right - b.left) / 2 = (b.left + b.right) / 2
  ring

theorem midY_eq (b : Box ℚ) : b.midY = (b.top + b.bottom) / 2 := by
  show b.top + (b.bottom - b.top) / 2 = (b.top + b.bottom) / 2
  ring

theorem Upright.top_le_midY (h : b.Upright) : b.top ≤ b.midY := by
  have hy := h.vertical
  rw [midY_eq]
  linarith

theorem Upright.midY_le_bottom (h : b.Upright) : b.midY ≤ b.bottom := by
  have hy := h.vertical
  rw [midY_eq]
  linarith

theorem midX_zero : (zero : Box ℚ).midX = 0 := by
  rw [midX_eq]
  show ((0 : ℚ) + 0) / 2 = 0
  ring

/-! ## Shifting and moving -/

@[simp] theorem shift_left (b : Box ℚ) (dx dy : ℚ) : (b.shift dx dy).left = b.left + dx := rfl

@[simp] theorem shift_top (b : Box ℚ) (dx dy : ℚ) : (b.shift dx dy).top = b.top + dy := rfl

@[simp] theorem shift_right (b : Box ℚ) (dx dy : ℚ) : (b.shift dx dy).right = b.right + dx := rfl

@[simp] theorem shift_bottom (b : Box ℚ) (dx dy : ℚ) : (b.shift dx dy).bottom = b.bottom + dy := rfl

@[simp] theorem shift_width (b : Box ℚ) (dx dy : ℚ) : (b.shift dx dy).width = b.width :=
  add_sub_add_right_eq_sub ..

@[simp] theorem shift_midX (b : Box ℚ) (dx dy : ℚ) : (b.shift dx dy).midX = b.midX + dx := by
  rw [midX_eq, midX_eq, shift_left, shift_right]
  ring

@[simp] theorem shift_midY (b : Box ℚ) (dx dy : ℚ) : (b.shift dx dy).midY = b.midY + dy := by
  rw [midY_eq, midY_eq, shift_top, shift_bottom]
  ring

theorem shift_zero (b : Box ℚ) : b.shift 0 0 = b := by
  show (⟨b.left + 0, b.top + 0, b.right + 0, b.bottom + 0⟩ : Box ℚ) = b
  simp only [add_zero]

theorem Upright.shift (h : b.Upright) (dx dy : ℚ) : (b.shift dx dy).Upright :=
  ⟨add_le_add_left h.horizontal dx, add_le_add_left h.vertical dy⟩

@[simp] theorem moveTo_left (b : Box ℚ) (x : ℚ) : (b.moveTo x).left = x := by
  show b.left + (x - b.left) = x
  ring

@[simp] theorem moveTo_right (b : Box ℚ) (x : ℚ) : (b.moveTo x).right = x + b.width := by
  show b.right + (x - b.left) = x + (b.right - b.left)
  ring

@[simp] theorem moveTo_top (b : Box ℚ) (x : ℚ) : (b.moveTo x).top = b.top := add_zero b.top

@[simp] theorem moveTo_bottom (b : Box ℚ) (x : ℚ) : (b.moveTo x).bottom = b.bottom := add_zero b.bottom

@[simp] theorem moveTo_width (b : Box ℚ) (x : ℚ) : (b.moveTo x).width = b.width := shift_width ..

theorem moveTo_midX (b : Box ℚ) (x : ℚ) : (b.moveTo x).midX = x + b.width / 2 := by
  rw [midX_eq, moveTo_left, moveTo_right]
  ring

theorem Upright.moveTo (h : b.Upright) (x : ℚ) : (b.moveTo x).Upright := h.shift _ _

/-! ## Growing and joining -/

theorem Upright.grow_eq (h : b.Upright) (ha : 0 ≤ a) :
    b.grow a = ⟨b.left - a, b.top - a, b.right + a, b.bottom + a⟩ := by
  have hx := h.horizontal
  have hy := h.vertical
  exact ofCorners_eq (by linarith) (by linarith)

theorem Upright.join_eq (h : b.Upright) (c : Box ℚ) :
    b.join c = ⟨min b.left c.left, min b.top c.top, max b.right c.right, max b.bottom c.bottom⟩ := by
  have hx : min b.left c.left ≤ max b.right c.right := (min_le_left _ _).trans (h.horizontal.trans (le_max_left _ _))
  have hy : min b.top c.top ≤ max b.bottom c.bottom := (min_le_left _ _).trans (h.vertical.trans (le_max_left _ _))
  unfold join
  simp only [Scalar.smaller_exact, Scalar.larger_exact]
  exact ofCorners_eq hx hy

theorem Upright.within_join_left (h : b.Upright) (c : Box ℚ) : b.Within (b.join c) := by
  rw [h.join_eq c]
  exact ⟨min_le_left _ _, min_le_left _ _, le_max_left _ _, le_max_left _ _⟩

theorem Upright.within_join_right (h : b.Upright) (c : Box ℚ) : c.Within (b.join c) := by
  rw [h.join_eq c]
  exact ⟨min_le_right _ _, min_le_right _ _, le_max_right _ _, le_max_right _ _⟩

theorem Upright.of_within (h : b.Upright) (hbc : b.Within c) : c.Upright :=
  ⟨hbc.left.trans (h.horizontal.trans hbc.right), hbc.top.trans (h.vertical.trans hbc.bottom)⟩

/-- Shifting moves the grown box along. -/
theorem Upright.shift_grow (h : b.Upright) (ha : 0 ≤ a) (dx dy : ℚ) :
    (b.shift dx dy).grow a = (b.grow a).shift dx dy := by
  rw [(h.shift dx dy).grow_eq ha, h.grow_eq ha]
  show (⟨_, _, _, _⟩ : Box ℚ) = ⟨_, _, _, _⟩
  simp only [shift_left, shift_top, shift_right, shift_bottom, mk.injEq]
  refine ⟨?_, ?_, ?_, ?_⟩ <;> ring

theorem Within.shift (h : b.Within c) (dx dy : ℚ) : (b.shift dx dy).Within (c.shift dx dy) :=
  ⟨add_le_add_left h.left dx, add_le_add_left h.top dy, add_le_add_left h.right dx, add_le_add_left h.bottom dy⟩

end Box

end SequenceDiagram
