/-
  SequenceDiagram.Layout.Frames — the frames of blocks, inner before outer.

  A frame goes around the events from its first marker up to its last, padded. Sideways
  it takes in the messages and notes among them and the labels of the actors they
  mention, or of all actors when they mention none; the markers count for the height
  only. Then it takes in the frames nested in it with a margin, and at last grows down
  and to the right until its header fits.
-/

import SequenceDiagram.Layout.Placement
import SequenceDiagram.Layout.Sizing

namespace SequenceDiagram.Layout

variable {α : Type} [Scalar α]

open Scalar (smaller larger)

/-! ## What a block holds -/

/-- A range widened by another; the first is taken as it is. -/
def stretch (range : Option (α × α)) (lo hi : α) : Option (α × α) :=
  match range with
  | none => some (lo, hi)
  | some (a, b) => some (smaller a lo, larger b hi)

/-- The events of a block with their boxes, from the first marker to before the last. -/
def held (d : Diagram) (p : Placement α) (b : Block) : List (Event × Box α) :=
  ((d.events.zip p.events).drop b.start).take (b.finish - b.start)

/-- The first and the last of some actors. -/
def actorRange? : List Nat → Option (Nat × Nat)
  | [] => none
  | a :: rest => some (rest.foldl min a, rest.foldl max a)

/-- The actors whose labels a frame covers. -/
def coveredActors? (actors : Nat) (events : List (Event × Box α)) : Option (Nat × Nat) :=
  match actorRange? (events.flatMap fun (e, _) => e.action.referenced) with
  | some range => some range
  | none => if actors = 0 then none else some (0, actors - 1)

def horizontal? (d : Diagram) (p : Placement α) (events : List (Event × Box α)) : Option (α × α) :=
  let boxes := (events.filter fun (e, _) => !e.action.isBlockMarker).map (·.2)
  let range := boxes.foldl (fun r b => stretch r b.left b.right) none
  match coveredActors? d.actors.length events with
  | some (first, last) => stretch range (p.labelBox first).left (p.labelBox last).right
  | none => range

def vertical? (events : List (Event × Box α)) : Option (α × α) :=
  (events.map (·.2)).foldl (fun r b => stretch r b.top b.bottom) none

/-! ## Frames -/

/-- The padded box around what a block holds. -/
def contentBox (style : Style α) (d : Diagram) (p : Placement α) (b : Block) : Box α :=
  let events := held d p b
  let marker := p.eventBox b.start
  let (x0, x1) := (horizontal? d p events).getD (marker.left, marker.right)
  let (y0, y1) := (vertical? events).getD (marker.top, marker.bottom)
  let pad := style.groupPadding
  Box.ofCorners (x0 - pad) (y0 - pad) (x1 + pad) (y1 + pad)

/-- Whether a block lies strictly inside another. -/
def Inside (inner outer : Block) : Prop := outer.start < inner.start ∧ inner.finish < outer.finish

instance (inner outer : Block) : Decidable (Inside inner outer) := inferInstanceAs (Decidable (_ ∧ _))

def takeIn (style : Style α) (outer : Block) (box : Box α) (inner : Block × Frame α) : Box α :=
  if Inside inner.1 outer then box.join (inner.2.box.grow style.blockMargin) else box

/-- Grown down and to the right until the header fits. -/
def fitHeader (style : Style α) (label : BlockLabel α) (box : Box α) : Box α :=
  let bottom :=
    if box.height < label.headerHeight + style.groupPadding
    then box.top + label.headerHeight + style.groupPadding else box.bottom
  let right := if box.width < label.width then box.left + label.width else box.right
  { box with right, bottom }

/-- The frame of a block, given those of the blocks that end before it. -/
def frame (style : Style α) (m : TextMetrics α) (d : Diagram) (p : Placement α)
    (before : List (Block × Frame α)) (b : Block) : Frame α :=
  let label := blockLabel style m b.kind b.text
  { box := fitHeader style label (before.foldl (takeIn style b) (contentBox style d p b))
    headerHeight := label.headerHeight
    tabWidth := label.tabWidth
    labelLines := label.lines }

def frameBlocks (style : Style α) (m : TextMetrics α) (d : Diagram) (p : Placement α) : Placement α :=
  let frames := d.blocks.foldl (fun before b => before ++ [(b, frame style m d p before b)]) []
  { p with frames := frames.map (·.2) }

end SequenceDiagram.Layout
