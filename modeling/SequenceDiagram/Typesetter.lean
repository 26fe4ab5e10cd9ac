/-
  SequenceDiagram.Typesetter — from a document to a picture.

  A typesetter holds the style and the text metrics that pictures are made with. It reads
  and links a document, lays it out, draws it, and writes the drawing as SVG or takes the
  size of its image. The first stage that fails gives the failure. With something that
  paints drawings and encodes the pixels it makes an image (`imageBy`).
-/

import SequenceDiagram.Diagram.Draft
import SequenceDiagram.Drawing.Image
import SequenceDiagram.Drawing.Scene
import SequenceDiagram.Drawing.Svg
import SequenceDiagram.Layout.Phases

namespace SequenceDiagram

structure Typesetter (α : Type) where
  style : Style α
  metrics : TextMetrics α

namespace Typesetter

variable {α : Type}

/-- The default style and estimated metrics. -/
def default [Scalar α] : Typesetter α := ⟨.default, .estimated⟩

/-- A linked document and its layout. -/
def layout [Scalar α] (t : Typesetter α) (text : String) : Except Failure (Diagram × Placement α) := do
  let d ← Diagram.read text
  return (d, d.place t.style t.metrics)

/-- The drawing of a placed diagram. -/
def draw [Numeral α] (style : Style α) (d : Diagram) (p : Placement α) : String :=
  Drawing.svg p.canvas style.palette.background style.fontFamily (Drawing.scene style d p)

def svg [Numeral α] (t : Typesetter α) (text : String) : Except Failure String := do
  let (d, p) ← t.layout text
  return draw t.style d p

def image (t : Typesetter Float) (text : String) : Except Failure ImageSize := do
  let (d, p) ← t.layout text
  ImageSize.ofDrawing (draw t.style d p) p.canvas

/-- The image that a painter of drawings makes of a document. -/
def imageBy {ι : Type} [Numeral α] (paint : String → Size α → Except ImageFailure ι) (t : Typesetter α)
    (text : String) : Except ImageFailure ι := do
  let (d, p) ← (t.layout text).mapError .unpainted
  paint (draw t.style d p) p.canvas

end Typesetter

end SequenceDiagram
