/-
  SequenceDiagram.Layout.Placement — where everything of a diagram stands.

  A placement holds the boxes of a diagram's parts, each list in the diagram's order:
  the actors' labels in the top row, the events, the activation bars and the block
  frames. Beside each label stands its delta, the least distance between its lifeline
  and the one before. Lifelines run down to `terminalY`, where the labels are repeated.
-/

import SequenceDiagram.Box
import SequenceDiagram.Diagram.Basic

namespace SequenceDiagram

/-- The frame of a block, with its tab and label. -/
structure Frame (α : Type) where
  box : Box α
  /-- Height of the band that holds the tab and the label. -/
  headerHeight : α
  tabWidth : α
  labelLines : List String
  deriving DecidableEq, Repr

structure Placement (α : Type) where
  labels : List (Box α)
  deltas : List α
  events : List (Box α)
  bars : List (Box α)
  frames : List (Frame α)
  /-- Height of the tallest label. -/
  headerHeight : α
  terminalY : α
  canvas : Size α
  deriving DecidableEq, Repr

namespace Placement

variable {α : Type} [Scalar α]

open Scalar (ofNat)

/-- Everything at the origin and without size. -/
def unplaced (d : Diagram) : Placement α where
  labels := d.actors.map fun _ => .zero
  deltas := d.actors.map fun _ => ofNat 0
  events := d.events.map fun _ => .zero
  bars := d.activations.map fun _ => .zero
  frames := d.blocks.map fun _ => ⟨.zero, ofNat 0, ofNat 0, []⟩
  headerHeight := ofNat 0
  terminalY := ofNat 0
  canvas := ⟨ofNat 0, ofNat 0⟩

/-- Lifelines run through the middle of the labels. -/
def lifelines (p : Placement α) : List α := p.labels.map Box.midX

def labelBox (p : Placement α) (actor : Nat) : Box α := p.labels.getD actor .zero

def eventBox (p : Placement α) (event : Nat) : Box α := p.events.getD event .zero

def barBox (p : Placement α) (activation : Nat) : Box α := p.bars.getD activation .zero

end Placement

end SequenceDiagram
