/-
  SequenceDiagram.Drawing.Shape — what a picture is drawn with.

  Lines, boxes, closed polygons, arcs of circles and lines of text. A text is centred
  vertically on its spot and starts there or is centred there. Angles of an arc are in
  degrees, clockwise from the right.
-/

import SequenceDiagram.Box

namespace SequenceDiagram

structure Stroke (α : Type) where
  color : String
  width : α
  /-- Lengths of dashes and of the gaps between them. -/
  dash : Option (α × α)
  deriving DecidableEq, Repr

inductive TextAnchor where
  | start
  | middle
  deriving DecidableEq, Repr

structure TextStyle (α : Type) where
  fontSize : α
  color : String
  anchor : TextAnchor
  bold : Bool
  deriving DecidableEq, Repr

inductive Shape (α : Type) where
  | line (first last : Point α) (stroke : Stroke α)
  | box (box : Box α) (stroke : Stroke α) (fill : Option String)
  | polygon (points : List (Point α)) (stroke : Option (Stroke α)) (fill : Option String)
  | arc (center : Point α) (radius startDegrees endDegrees : α) (stroke : Stroke α)
  | text (content : String) (spot : Point α) (style : TextStyle α)
  deriving DecidableEq, Repr

/-- The text a shape draws. -/
def Shape.text? {α : Type} : Shape α → Option String
  | .text content _ _ => some content
  | _ => none

end SequenceDiagram
