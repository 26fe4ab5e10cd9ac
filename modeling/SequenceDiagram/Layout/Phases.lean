/-
  SequenceDiagram.Layout.Phases — laying a diagram out.

  Layout is six phases over the whole diagram, each a function from placement to
  placement: label sizes, rows, columns, bars, frames, canvas. Any phase may run on any
  placement. Run in order they read nothing of the placement they start from.
-/

import SequenceDiagram.Layout.Bars
import SequenceDiagram.Layout.Canvas
import SequenceDiagram.Layout.Columns
import SequenceDiagram.Layout.Frames
import SequenceDiagram.Layout.Rows

namespace SequenceDiagram

inductive Phase where
  | sizeActors
  | placeEvents
  | placeActors
  | placeBars
  | frameBlocks
  | sizeCanvas
  deriving DecidableEq, Repr

namespace Layout

variable {α : Type} [Scalar α]

def run (style : Style α) (m : TextMetrics α) (d : Diagram) (p : Placement α) : Phase → Placement α
  | .sizeActors => sizeActors style m d p
  | .placeEvents => placeEvents style m d p
  | .placeActors => placeActors style d p
  | .placeBars => placeBars style d p
  | .frameBlocks => frameBlocks style m d p
  | .sizeCanvas => sizeCanvas style p

def runAll (style : Style α) (m : TextMetrics α) (d : Diagram) (p : Placement α) (phases : List Phase) :
    Placement α :=
  phases.foldl (run style m d) p

/-- The phases of a full layout, in order. -/
def phases : List Phase := [.sizeActors, .placeEvents, .placeActors, .placeBars, .frameBlocks, .sizeCanvas]

def arrange (style : Style α) (m : TextMetrics α) (d : Diagram) (p : Placement α) : Placement α :=
  runAll style m d p phases

end Layout

/-- The layout of a diagram. -/
def Diagram.place {α : Type} [Scalar α] (style : Style α) (m : TextMetrics α) (d : Diagram) : Placement α :=
  Layout.arrange style m d (.unplaced d)

end SequenceDiagram
