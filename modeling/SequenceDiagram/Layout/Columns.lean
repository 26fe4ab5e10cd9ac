/-
  SequenceDiagram.Layout.Columns — labels and events from left to right.

  The labels are placed one after the other, each lifeline at least its delta from the
  one before and each label at least the horizontal padding from the label before. Then
  every event is moved sideways to its lifelines: a message between its two, a message
  to oneself and the side notes at theirs, a note over several from the first to the
  last or wider, centred, and block markers at the margin.
-/

import SequenceDiagram.Layout.Placement
import SequenceDiagram.Style

namespace SequenceDiagram.Layout

variable {α : Type} [Scalar α]

open Scalar (ofNat half larger range?)

/-- Where the left edge of a label goes, given the label before it. -/
def labelLeft (style : Style α) (before : Option (Box α)) (width delta : α) : α :=
  match before with
  | none => style.minPaddingX
  | some b =>
    let gap := larger delta (half b.width + half width + style.minPaddingX)
    b.midX + gap - half width

def lineUp (style : Style α) (before : Option (Box α)) : List (Box α) → List α → List (Box α)
  | b :: bs, delta :: deltas =>
    let placed := b.moveTo (labelLeft style before b.width delta)
    placed :: lineUp style (some placed) bs deltas
  | _, _ => []

def lifeline (lifelines : List α) (actor : Nat) : α := lifelines.getD actor (ofNat 0)

/-- Where a side note stands; without an actor, as if its lifeline were the left edge. -/
def noteLifeline (lifelines : List α) (actors : List Nat) : α :=
  (actors.head?.map (lifeline lifelines)).getD (ofNat 0)

def anchor (style : Style α) (lifelines : List α) (e : Event) (b : Box α) : Box α :=
  match e.action with
  | .message _ source destination _ _ =>
    if source = destination then b.moveTo (lifeline lifelines source)
    else b.moveTo (half (lifeline lifelines source + lifeline lifelines destination) - half b.width)
  | .note .over actors _ =>
    match range? (actors.map (lifeline lifelines)) with
    | none => b.moveTo style.minPaddingX
    | some (first, last) =>
      let mid := half (first + last)
      let reach := half (larger b.width (last - first))
      Box.ofCorners (mid - reach) b.top (mid + reach) b.bottom
  | .note .left actors _ => b.moveTo (noteLifeline lifelines actors - style.noteGap - b.width)
  | .note .right actors _ => b.moveTo (noteLifeline lifelines actors + style.noteGap)
  | .blockStart .. | .blockEnd => b.moveTo style.minPaddingX

def placeActors (style : Style α) (d : Diagram) (p : Placement α) : Placement α :=
  let labels := lineUp style none p.labels p.deltas
  let lifelines := labels.map Box.midX
  { p with labels, events := List.zipWith (anchor style lifelines) d.events p.events }

end SequenceDiagram.Layout
