/-
  SequenceDiagram.Statement.Basic — what one line of a document says.

  A message runs along an arrow, which has a line style and may carry a mark: `+` starts
  an activation of the receiver, `-` ends one of the sender. A note stands to the left
  or right of one actor or over several. `alt` and `loop` open a block and `end` closes
  the innermost one. `else` is read and has no further effect.
-/

namespace SequenceDiagram

inductive LineStyle where
  | solid
  | dashed
  deriving DecidableEq, Repr

inductive Mark where
  | start
  | finish
  deriving DecidableEq, Repr

structure Arrow where
  style : LineStyle
  mark : Option Mark
  deriving DecidableEq, Repr

/-- How an arrow is written. -/
def Arrow.token : Arrow → List Char
  | ⟨style, mark⟩ =>
    (match style with
      | .solid => ['-', '>']
      | .dashed => ['-', '-', '>']) ++
    match mark with
      | none => []
      | some .start => ['+']
      | some .finish => ['-']

inductive Side where
  | left
  | right
  | over
  deriving DecidableEq, Repr

inductive BlockKind where
  | alt
  | loop
  deriving DecidableEq, Repr

def BlockKind.keyword : BlockKind → String
  | .alt => "alt"
  | .loop => "loop"

inductive Statement where
  | message (source : String) (arrow : Arrow) (destination text : String)
  | note (side : Side) (names : List String) (text : String)
  | blockStart (kind : BlockKind) (text : String)
  | otherwise (text : String)
  | blockEnd
  deriving DecidableEq, Repr

end SequenceDiagram
