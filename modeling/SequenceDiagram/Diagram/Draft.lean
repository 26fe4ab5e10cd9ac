/-
  SequenceDiagram.Diagram.Draft — linking statements into a diagram.

  A draft is the diagram so far and the blocks still open. Statements are added one at a
  time. A name is resolved to its actor, or registered as the next one. A start mark puts
  a new activation on the receiver's stack; an end mark takes the top off the sender's,
  and does nothing when that is empty. A block marker is an event like any other; `end`
  takes the innermost open block off and lists it, and fails when none is open. A failed
  statement leaves the draft as it was. Blocks never closed keep their first event and
  are not listed.
-/

import SequenceDiagram.Diagram.Basic
import SequenceDiagram.Statement.Document

namespace SequenceDiagram

/-! ## Steps on a diagram -/

namespace Diagram

/-- The actor of a name, registered when it is new. -/
def register (d : Diagram) (name : String) : Diagram × Nat :=
  match d.actorId? name with
  | some id => (d, id)
  | none => ({ d with actors := d.actors ++ [⟨name, .empty, []⟩] }, d.actors.length)

def registerAll (d : Diagram) : List String → Diagram × List Nat
  | [] => (d, [])
  | name :: names =>
    let (d, id) := d.register name
    let (d, ids) := d.registerAll names
    (d, id :: ids)

def addEvent (d : Diagram) (line : Nat) (action : Action) : Diagram :=
  { d with events := d.events ++ [⟨line, action⟩] }

/-- Opens an activation of an actor at the next event. -/
def startActivation (d : Diagram) (actor : Nat) : Diagram × Option Nat :=
  let id := d.activations.length
  let parent := (d.actors[actor]?).bind (·.opened.peek?)
  ({ d with
      actors := d.actors.modify actor fun a =>
        { a with opened := a.opened.push id, activations := a.activations ++ [id] }
      activations := d.activations ++ [⟨actor, d.events.length, none, parent⟩] }, some id)

/-- Closes the innermost open activation of an actor at the next event, if there is one. -/
def finishActivation (d : Diagram) (actor : Nat) : Diagram × Option Nat :=
  match (d.actors[actor]?).bind (·.opened.pop?) with
  | none => (d, none)
  | some (id, rest) =>
    ({ d with
        actors := d.actors.modify actor fun a => { a with opened := rest }
        activations := d.activations.modify id fun a => { a with finish := some d.events.length } }, some id)

/-- What an arrow's mark does at the next event, and the activation it does it to. -/
def applyMark (d : Diagram) (source destination : Nat) : Option Mark → Diagram × Option Nat
  | none => (d, none)
  | some .start => d.startActivation destination
  | some .finish => d.finishActivation source

end Diagram

/-! ## Drafts -/

/-- A block whose `end` has not come yet. -/
structure OpenBlock where
  kind : BlockKind
  text : String
  start : Nat
  deriving DecidableEq, Repr

structure Draft where
  diagram : Diagram
  openBlocks : Stack OpenBlock
  deriving DecidableEq, Repr

namespace Draft

def empty : Draft := ⟨.empty, .empty⟩

def add (d : Draft) (s : Numbered) : Except Failure Draft :=
  match s.statement with
  | .message source arrow destination text =>
    let (g, source) := d.diagram.register source
    let (g, destination) := g.register destination
    let (g, activation) := g.applyMark source destination arrow.mark
    .ok { d with diagram := g.addEvent s.line (.message arrow source destination text activation) }
  | .note side names text =>
    let (g, actors) := d.diagram.registerAll names
    .ok { d with diagram := g.addEvent s.line (.note side actors text) }
  | .blockStart kind text =>
    .ok { diagram := d.diagram.addEvent s.line (.blockStart kind text)
          openBlocks := d.openBlocks.push ⟨kind, text, d.diagram.events.length⟩ }
  | .blockEnd =>
    match d.openBlocks.pop? with
    | none => .error (.unmatchedEnd s.line)
    | some (b, rest) =>
      let block : Block := ⟨b.kind, b.text, b.start, d.diagram.events.length⟩
      let g := d.diagram.addEvent s.line .blockEnd
      .ok { diagram := { g with blocks := g.blocks ++ [block] }, openBlocks := rest }
  | .otherwise _ => .ok d

/-- The draft after a failed statement is the draft before it. -/
def addOrKeep (d : Draft) (s : Numbered) : Draft :=
  match d.add s with
  | .ok e => e
  | .error _ => d

def finish (d : Draft) : Diagram := d.diagram

end Draft

namespace Diagram

/-- Links statements, up to the first that fails. -/
def build (statements : List Numbered) : Except Failure Diagram := do
  let draft ← statements.foldlM Draft.add .empty
  return draft.finish

/-- Reads and links a document. -/
def read (text : String) : Except Failure Diagram := do
  build (← Document.read text)

end Diagram

end SequenceDiagram
