/-
  SequenceDiagram.Diagram.Basic — the linked diagram.

  Actors, events and activations are named by their position: actors in the order they
  are first mentioned, events in document order, activations in the order they start.
  Blocks stand in the order they end, so a block comes before every block around it.

  A message knows the activation it started or ended. An activation knows its actor, the
  event that started it, the one that ended it, and its parent: the activation that was
  innermost on the same actor when it started. An actor keeps the activations that are
  still open, innermost on top, and all it ever had.
-/

import SequenceDiagram.Diagram.Stack
import SequenceDiagram.Statement.Basic

namespace SequenceDiagram

structure Actor where
  name : String
  opened : Stack Nat
  activations : List Nat
  deriving DecidableEq, Repr

inductive Action where
  | message (arrow : Arrow) (source destination : Nat) (text : String) (activation : Option Nat)
  | note (side : Side) (actors : List Nat) (text : String)
  | blockStart (kind : BlockKind) (text : String)
  | blockEnd
  deriving DecidableEq, Repr

structure Event where
  line : Nat
  action : Action
  deriving DecidableEq, Repr

structure Activation where
  actor : Nat
  start : Nat
  finish : Option Nat
  parent : Option Nat
  deriving DecidableEq, Repr

structure Block where
  kind : BlockKind
  text : String
  start : Nat
  finish : Nat
  deriving DecidableEq, Repr

structure Diagram where
  actors : List Actor
  events : List Event
  activations : List Activation
  blocks : List Block
  deriving DecidableEq, Repr

/-! ## What an event says -/

namespace Action

def text : Action → String
  | .message _ _ _ text _ | .note _ _ text | .blockStart _ text => text
  | .blockEnd => ""

/-- The sender of a message; the first actor of a note. -/
def source? : Action → Option Nat
  | .message _ source _ _ _ => some source
  | .note _ actors _ => actors.head?
  | _ => none

def destination? : Action → Option Nat
  | .message _ _ destination _ _ => some destination
  | _ => none

def noteActors : Action → List Nat
  | .note _ actors _ => actors
  | _ => []

def activation? : Action → Option Nat
  | .message _ _ _ _ activation => activation
  | _ => none

def isMessage : Action → Bool
  | .message .. => true
  | _ => false

def isNote : Action → Bool
  | .note .. => true
  | _ => false

def isBlockMarker : Action → Bool
  | .blockStart .. | .blockEnd => true
  | _ => false

def style : Action → LineStyle
  | .message arrow .. => arrow.style
  | _ => .solid

def mark? : Action → Option Mark
  | .message arrow .. => arrow.mark
  | _ => none

/-- A message from an actor to itself. -/
def isSelfMessage : Action → Bool
  | .message _ source destination _ _ => source == destination
  | _ => false

/-- Both ends of a message between different actors. -/
def actorPair? : Action → Option (Nat × Nat)
  | .message _ source destination _ _ => if source = destination then none else some (source, destination)
  | _ => none

/-- Every actor an event mentions: the sender or first, the receiver, the note's actors. -/
def referenced (a : Action) : List Nat := a.source?.toList ++ a.destination?.toList ++ a.noteActors

end Action

/-! ## Looking things up -/

namespace Diagram

def empty : Diagram := ⟨[], [], [], []⟩

def actorId? (d : Diagram) (name : String) : Option Nat := d.actors.findIdx? (·.name == name)

/-- Whether an activation is open during an event, both of its own ends included. An
    activation that never ends stays open to the last event. -/
def covers (d : Diagram) (event : Nat) (a : Activation) : Bool :=
  a.start ≤ event && event ≤ a.finish.getD d.events.length

/-- The innermost activation of an actor during an event: of those that cover it, the
    one that started last. -/
def activationAt? (d : Diagram) (actor event : Nat) : Option Nat :=
  match d.actors[actor]? with
  | none => none
  | some a => a.activations.reverse.find? fun id => (d.activations[id]?).any (d.covers event)

end Diagram

end SequenceDiagram
