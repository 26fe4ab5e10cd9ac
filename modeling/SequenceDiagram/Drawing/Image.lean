/-
  SequenceDiagram.Drawing.Image — the size of the image a drawing gives.

  A drawing is turned into pixels at its own size, read in single precision; a length
  that is not finite has no numeral in markup, and the default stands in for it. That
  fails when the document holds a character markup does not admit or a size that is not
  positive, and when a row of the image, at four bytes a pixel, would pass 2^31 - 1 bytes.
-/

import SequenceDiagram.Box
import SequenceDiagram.Failure
import SequenceDiagram.Markup.Character

namespace SequenceDiagram

/-- Whole pixels. -/
structure ImageSize where
  width : Nat
  height : Nat
  deriving DecidableEq, Repr

namespace ImageSize

/-- The pixels of a side that the document gives no length for. -/
def defaultSide : Nat := 100

/-- The pixels that cover a length, if it is positive and finite in single precision. -/
def pixels? (length : Float) : Option Nat :=
  if length.isFinite then
    let single := length.toFloat32
    if single.isFinite && decide (0 < single) then some single.ceil.toUInt32.toNat else none
  else some defaultSide

def bytesPerPixel : Nat := 4

def longestRow : Nat := 0x7fffffff

def ofDrawing (svg : String) (canvas : Size Float) : Except Failure ImageSize :=
  if Markup.isWellFormedText svg then
    match pixels? canvas.width, pixels? canvas.height with
    | some width, some height =>
      if longestRow < bytesPerPixel * width then .error .oversizedImage else .ok ⟨width, height⟩
    | _, _ => .error .malformedDrawing
  else .error .malformedDrawing

end ImageSize

end SequenceDiagram
