/-
  SequenceDiagram.Layout.Widen — making room between lifelines.

  `deltas[i]` is the least distance between lifelines i - 1 and i. A request asks that the
  deltas after `lo` up to `hi` add up to a width. When they do not, every one of them
  below the even share is raised to it. Deltas never shrink, so what one request got no
  later one takes away.
-/

import SequenceDiagram.Diagram.Basic
import SequenceDiagram.Numeric.Scalar

namespace SequenceDiagram.Layout

variable {α : Type} [Scalar α]

open Scalar (ofNat sum)

/-- The deltas between lifelines `lo` and `hi`. -/
def between (deltas : List α) (lo hi : Nat) : List α := (deltas.drop (lo + 1)).take (hi - lo)

def raise (share delta : α) : α := if delta < share then share else delta

def widen (deltas : List α) (lo hi : Nat) (width : α) : List α :=
  if hi ≤ lo ∨ deltas.length ≤ hi then deltas
  else if width ≤ sum (between deltas lo hi) then deltas
  else
    let share := width / ofNat (hi - lo)
    deltas.mapIdx fun i delta => if lo < i ∧ i ≤ hi then raise share delta else delta

/-- The lifelines a message must fit between: those of its two actors, or of its one
    actor and the next, if there is a next. -/
def gap? (actors : Nat) : Action → Option (Nat × Nat)
  | .message _ source destination _ _ =>
    if source = destination then
      if source + 1 < actors then some (source, source + 1) else none
    else some (min source destination, max source destination)
  | _ => none

end SequenceDiagram.Layout
