/-
  SequenceDiagram.Metrics.Basic — how much room text takes.

  Layout measures no glyphs. It asks a `TextMetrics` for the size of a line of text and
  for the height of a line, both at a font size, and any pair of functions will do. Two
  are at hand: `fixed` counts characters of one width, and `estimated` adds up a weight
  per character for a proportional face and rounds up to whole units.
-/

import SequenceDiagram.Box

namespace SequenceDiagram

structure TextMetrics (α : Type) where
  measure : String → α → Size α
  lineHeight : α → α

namespace TextMetrics

variable {α : Type} [Scalar α]

open Scalar (ofNat decimal ceil sum)

/-- Every character equally wide and every line equally high, at any font size. -/
def fixed (charWidth lineHeight : α) : TextMetrics α where
  measure text _ := ⟨ofNat text.length * charWidth, lineHeight⟩
  lineHeight _ := lineHeight

/-- The width of a character in font sizes: capitals are wide, spaces narrow, and all
    that is not ASCII is a full square. -/
def weight (c : Char) : α :=
  if 128 ≤ c.toNat then ofNat 1
  else if c.isUpper then decimal 7 1
  else if c = ' ' then decimal 3 1
  else decimal 55 2

def estimatedHeight (fontSize : α) : α := ceil (fontSize * decimal 12 1)

/-- The sum of the weights, and a line of 1.2 font sizes. -/
def estimated : TextMetrics α where
  measure text fontSize := ⟨ceil (sum (text.toList.map weight) * fontSize), estimatedHeight fontSize⟩
  lineHeight := estimatedHeight

end TextMetrics

end SequenceDiagram
