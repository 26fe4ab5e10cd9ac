/-
  SequenceDiagram.Statement.Document — reading a whole document.

  A document is read line by line. Blank lines and lines that begin with `#` are
  comments; they count for the numbering, which starts at one, and say nothing. The
  first line that is no statement fails the document, as does a document of comments.
-/

import SequenceDiagram.Statement.Line

namespace SequenceDiagram

/-- A statement and the line it stands on. -/
structure Numbered where
  line : Nat
  statement : Statement
  deriving DecidableEq, Repr

namespace Document

/-- Whether a line says nothing: blank, or with `#` as its first other character. -/
def isComment (s : List Char) : Bool :=
  match Text.trim s with
  | [] => true
  | c :: _ => c == '#'

/-- The lines that say something, each with its number. -/
def numberedLines (text : List Char) : List (Nat × List Char) :=
  ((Text.lines text).mapIdx fun i l => (i + 1, l)).filter fun (_, l) => !isComment l

def readLine (numbered : Nat × List Char) : Except Failure Numbered := do
  let statement ← Statement.read numbered.1 (String.ofList numbered.2)
  return ⟨numbered.1, statement⟩

/-- The statements of a document, in order. -/
def read (text : String) : Except Failure (List Numbered) :=
  match numberedLines text.toList with
  | [] => .error .emptyInput
  | ls => ls.mapM readLine

end Document

end SequenceDiagram
