/-
  SequenceDiagram.Layout.Bars — activation bars beside their lifelines.

  A bar runs from the middle of the event that starts its activation to the middle of the
  one that ends it, or to the end of the lifelines. It is centred on its lifeline, or
  half a bar to the right of its parent's. Parents start before their children, so their
  bars are placed by then.
-/

import SequenceDiagram.Layout.Placement
import SequenceDiagram.Style

namespace SequenceDiagram.Layout

variable {α : Type} [Scalar α]

open Scalar (half)

/-- The bar of an activation, given those placed before it. -/
def bar (style : Style α) (p : Placement α) (placed : List (Box α)) (a : Activation) : Box α :=
  let width := style.activationWidth
  let left :=
    match a.parent with
    | some parent => (placed.getD parent .zero).left + half width
    | none => (p.labelBox a.actor).midX - half width
  let bottom :=
    match a.finish with
    | some event => (p.eventBox event).midY
    | none => p.terminalY
  Box.ofCorners left (p.eventBox a.start).midY (left + width) bottom

def placeBars (style : Style α) (d : Diagram) (p : Placement α) : Placement α :=
  { p with bars := d.activations.foldl (fun placed a => placed ++ [bar style p placed a]) [] }

end SequenceDiagram.Layout
