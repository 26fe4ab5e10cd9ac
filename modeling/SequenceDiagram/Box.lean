/-
  SequenceDiagram.Box — points, sizes and upright boxes.

  y grows downward, so a box has its top above its bottom by `top ≤ bottom`. Building a
  box from two corners puts the coordinates of each axis in order; growing and joining
  build from corners. Shifting and moving keep the size and change nothing else, and
  moving adds zero to the vertical coordinates.
-/

import SequenceDiagram.Numeric.Scalar

namespace SequenceDiagram

structure Point (α : Type) where
  x : α
  y : α
  deriving DecidableEq, Repr

structure Size (α : Type) where
  width : α
  height : α
  deriving DecidableEq, Repr

structure Box (α : Type) where
  left : α
  top : α
  right : α
  bottom : α
  deriving DecidableEq, Repr

namespace Box

variable {α : Type} [Scalar α]

open Scalar (ofNat half larger smaller)

/-- The box with the given opposite corners. -/
def ofCorners (x0 y0 x1 y1 : α) : Box α :=
  let (left, right) := if x1 < x0 then (x1, x0) else (x0, x1)
  let (top, bottom) := if y1 < y0 then (y1, y0) else (y0, y1)
  ⟨left, top, right, bottom⟩

/-- The box of a size with its corner at the origin. -/
def ofSize (s : Size α) : Box α := ofCorners (ofNat 0) (ofNat 0) s.width s.height

def zero : Box α := ⟨ofNat 0, ofNat 0, ofNat 0, ofNat 0⟩

def width (b : Box α) : α := b.right - b.left

def height (b : Box α) : α := b.bottom - b.top

def midX (b : Box α) : α := b.left + half b.width

def midY (b : Box α) : α := b.top + half b.height

def shift (b : Box α) (dx dy : α) : Box α := ⟨b.left + dx, b.top + dy, b.right + dx, b.bottom + dy⟩

/-- Moved sideways so that its left edge is at `x`. -/
def moveTo (b : Box α) (x : α) : Box α := b.shift (x - b.left) (ofNat 0)

/-- Grown by an amount on every side. -/
def grow (b : Box α) (a : α) : Box α := ofCorners (b.left - a) (b.top - a) (b.right + a) (b.bottom + a)

/-- The smallest box around two. -/
def join (b c : Box α) : Box α :=
  ofCorners (smaller b.left c.left) (smaller b.top c.top) (larger b.right c.right) (larger b.bottom c.bottom)

end Box

end SequenceDiagram
