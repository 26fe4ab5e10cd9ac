/-
  SequenceDiagram.Layout.Rows — labels and events from top to bottom.

  The labels are sized and the deltas set back to the least gap, the first to zero. Then
  the events are stacked below the tallest label in document order, with the vertical
  padding before each and after the last, and every message asks for the room it takes
  between its lifelines. Stacking and widening do not depend on each other.
-/

import SequenceDiagram.Layout.Placement
import SequenceDiagram.Layout.Sizing
import SequenceDiagram.Layout.Widen

namespace SequenceDiagram.Layout

variable {α : Type} [Scalar α]

open Scalar (ofNat larger)

def sizeActors (style : Style α) (m : TextMetrics α) (d : Diagram) (p : Placement α) : Placement α :=
  let labels := d.actors.map fun a => Box.ofSize (labelSize style m a.name)
  { p with
    labels
    deltas := labels.mapIdx fun i _ => if i = 0 then ofNat 0 else style.minPaddingX
    headerHeight := (labels.map Box.height).foldl larger (ofNat 0) }

/-- The boxes of events stacked from `y` down, and where the next would stand. -/
def stackEvents (style : Style α) (m : TextMetrics α) (y : α) : List Event → List (Box α) × α
  | [] => ([], y)
  | e :: es =>
    let size := eventSize style m e.action
    let (boxes, bottom) := stackEvents style m (y + (size.height + style.minPaddingY)) es
    ((Box.ofSize size).shift (ofNat 0) y :: boxes, bottom)

/-- The deltas after one event's request. -/
def widenFor (style : Style α) (m : TextMetrics α) (deltas : List α) (e : Event) : List α :=
  match gap? deltas.length e.action with
  | some (lo, hi) => widen deltas lo hi (eventSize style m e.action).width
  | none => deltas

def placeEvents (style : Style α) (m : TextMetrics α) (d : Diagram) (p : Placement α) : Placement α :=
  let (events, bottom) := stackEvents style m (p.headerHeight + style.minPaddingY) d.events
  { p with events, terminalY := bottom, deltas := d.events.foldl (widenFor style m) p.deltas }

end SequenceDiagram.Layout
