/-
  SequenceDiagram.Layout.Canvas — the size of the picture.

  Left notes and deeply nested frames can start left of the first label. When one does,
  everything is moved to the right until nothing is nearer to the left edge than the
  group padding. The canvas then reaches past the last label by the horizontal padding,
  past every event and frame by the group padding, and down over two rows of labels
  below the lifelines, in whole units.
-/

import SequenceDiagram.Layout.Placement
import SequenceDiagram.Style

namespace SequenceDiagram.Layout

variable {α : Type} [Scalar α]

open Scalar (ofNat twice larger ceil range?)

def shiftRight (dx : α) (p : Placement α) : Placement α :=
  { p with
    labels := p.labels.map (·.shift dx (ofNat 0))
    events := p.events.map (·.shift dx (ofNat 0))
    bars := p.bars.map (·.shift dx (ofNat 0))
    frames := p.frames.map fun f => { f with box := f.box.shift dx (ofNat 0) } }

/-- The left edge of what stands farthest left. -/
def leftEdge? (p : Placement α) : Option α :=
  (range? (p.labels.map Box.left ++ p.events.map Box.left ++ p.frames.map (·.box.left))).map (·.1)

def clearLeft (style : Style α) (p : Placement α) : Placement α :=
  match leftEdge? p with
  | some left => if left < style.groupPadding then shiftRight (style.groupPadding - left) p else p
  | none => p

def canvasSize (style : Style α) (p : Placement α) : Size α :=
  let (width, labelHeight) :=
    match p.labels.getLast? with
    | some b => (b.right + style.minPaddingX, b.height)
    | none => (twice style.minPaddingX, p.headerHeight)
  let overhang := p.frames.map Frame.box ++ p.events
  let width := overhang.foldl (fun w b => larger w (b.right + style.groupPadding)) width
  let height :=
    overhang.foldl (fun h b => larger h (b.bottom + style.groupPadding)) (p.terminalY + twice labelHeight)
  ⟨ceil width, ceil height⟩

def sizeCanvas (style : Style α) (p : Placement α) : Placement α :=
  let p := clearLeft style p
  { p with canvas := canvasSize style p }

end SequenceDiagram.Layout
