/-
  SequenceDiagram.Summary — what a document holds, as one JSON object.

  The names of the actors, how many events, blocks and activations there are, and the
  size of the canvas, always written with a decimal point.
-/

import SequenceDiagram.Text.JsonString
import SequenceDiagram.Typesetter

namespace SequenceDiagram

/-- The version of this library. -/
def version : String := "0.1.0"

structure Summary (α : Type) where
  actors : List String
  events : Nat
  blocks : Nat
  activations : Nat
  canvas : Size α
  deriving DecidableEq, Repr

namespace Summary

variable {α : Type}

def ofLayout (d : Diagram) (p : Placement α) : Summary α :=
  ⟨d.actors.map (·.name), d.events.length, d.blocks.length, d.activations.length, p.canvas⟩

/-- A number with a decimal point. -/
def pointed (text : String) : String := if text.toList.contains '.' then text else text ++ ".0"

def write [Numeral α] (s : Summary α) : String :=
  "\x7b\"actors\":[" ++ String.intercalate "," (s.actors.map Text.jsonString) ++
    "],\"eventCount\":" ++ toString s.events ++
    ",\"blockCount\":" ++ toString s.blocks ++
    ",\"activationCount\":" ++ toString s.activations ++
    ",\"width\":" ++ pointed (Numeral.text s.canvas.width) ++
    ",\"height\":" ++ pointed (Numeral.text s.canvas.height) ++ "\x7d"

end Summary

/-- The summary of a document. -/
def Typesetter.summary {α : Type} [Numeral α] (t : Typesetter α) (text : String) : Except Failure String := do
  let (d, p) ← t.layout text
  return (Summary.ofLayout d p).write

end SequenceDiagram
