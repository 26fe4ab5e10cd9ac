/-
  SequenceDiagram.Drawing.Svg — shapes as an SVG document.

  Each shape is one element, with attributes fixed by its kind; a polygon without points
  is none. The document is as large as the canvas, begins with a rectangle that fills it,
  and holds the elements in drawing order.
-/

import SequenceDiagram.Drawing.Shape
import SequenceDiagram.Markup.Element
import SequenceDiagram.Numeric.Numeral

namespace SequenceDiagram.Drawing

open Markup (Attribute Element Document)

variable {α : Type} [Numeral α]

open Numeral (text cosDegrees sinDegrees)
open Scalar (ofNat magnitude)

/-! ## Attributes -/

def number (name : String) (a : α) : Attribute := (name, text a)

def strokeAttributes (s : Stroke α) : List Attribute :=
  [("stroke", s.color), number "stroke-width" s.width] ++
    match s.dash with
    | none => []
    | some (dash, gap) => [("stroke-dasharray", text dash ++ "," ++ text gap)]

def fillAttribute (fill : Option String) : Attribute := ("fill", fill.getD "none")

def pointText (p : Point α) : String := text p.x ++ " " ++ text p.y

/-- Straight lines through all points and back to the first. -/
def closedPath (first : Point α) (rest : List (Point α)) : String :=
  "M " ++ pointText first ++ String.join (rest.map fun p => " L " ++ pointText p) ++ " Z"

/-- The point of a circle at an angle. -/
def onCircle (center : Point α) (radius degrees : α) : Point α :=
  ⟨center.x + radius * cosDegrees degrees, center.y + radius * sinDegrees degrees⟩

def flag (b : Bool) : String := if b then "1" else "0"

def arcPath (center : Point α) (radius startDegrees endDegrees : α) : String :=
  let large : Bool := decide (ofNat 180 < magnitude (endDegrees - startDegrees))
  let clockwise : Bool := decide (startDegrees < endDegrees)
  "M " ++ pointText (onCircle center radius startDegrees) ++ " A " ++ text radius ++ " " ++ text radius ++ " 0 " ++
    flag large ++ " " ++ flag clockwise ++ " " ++ pointText (onCircle center radius endDegrees)

def anchorKeyword : TextAnchor → String
  | .start => "start"
  | .middle => "middle"

/-! ## Elements -/

def element? (fontFamily : String) : Shape α → Option Element
  | .line first last stroke =>
    some ⟨"line", [number "x1" first.x, number "y1" first.y, number "x2" last.x, number "y2" last.y] ++
      strokeAttributes stroke, none⟩
  | .box b stroke fill =>
    some ⟨"rect", [number "x" b.left, number "y" b.top, number "width" b.width, number "height" b.height,
      fillAttribute fill] ++ strokeAttributes stroke, none⟩
  | .polygon [] _ _ => none
  | .polygon (first :: rest) stroke fill =>
    some ⟨"path", [("d", closedPath first rest), fillAttribute fill] ++
      (match stroke with
        | none => [("stroke", "none")]
        | some s => strokeAttributes s), none⟩
  | .arc center radius startDegrees endDegrees stroke =>
    some ⟨"path", [("d", arcPath center radius startDegrees endDegrees), ("fill", "none")] ++
      strokeAttributes stroke, none⟩
  | .text content spot style =>
    some ⟨"text", [number "x" spot.x, number "y" spot.y, ("font-family", fontFamily),
      number "font-size" style.fontSize, ("fill", style.color), ("text-anchor", anchorKeyword style.anchor),
      ("dominant-baseline", "central")] ++ (if style.bold then [("font-weight", "bold")] else []), some content⟩

def background (size : Size α) (color : String) : Element :=
  ⟨"rect", [("x", "0"), ("y", "0"), number "width" size.width, number "height" size.height, ("fill", color)], none⟩

/-- The document of some shapes on a canvas. -/
def document (size : Size α) (color fontFamily : String) (shapes : List (Shape α)) : Document where
  name := "svg"
  attributes :=
    [("xmlns", "http://www.w3.org/2000/svg"),
     ("viewBox", "0 0 " ++ text size.width ++ " " ++ text size.height),
     number "width" size.width, number "height" size.height]
  elements := background size color :: shapes.filterMap (element? fontFamily)

def svg (size : Size α) (color fontFamily : String) (shapes : List (Shape α)) : String :=
  (document size color fontFamily shapes).write

end SequenceDiagram.Drawing
