/-
  SequenceDiagram.Proofs.Line.Form — the forms a line may have.

  A form is a line taken apart into the pieces the grammar names, each with what the
  grammar asks of it. It is written out by putting the pieces together (`chars`) and
  says one statement (`statement`). Nothing here reads a line.

      message    name gap arrow gap name gap : rest
      note       note space place space names gap : rest
      opening    keyword, alone or before a space and any rest
-/

import SequenceDiagram.Statement.Line

namespace SequenceDiagram.Line

open Text (trim)

/-! ## Pieces -/

/-- Spaces and tabs, or nothing. -/
@[ext] structure Gap where
  chars : List Char
  isGap : ∀ c ∈ chars, Text.isGap c = true

/-- At least one space or tab. -/
@[ext] structure Space where
  chars : List Char
  ne_nil : chars ≠ []
  isGap : ∀ c ∈ chars, Text.isGap c = true

def Space.gap (b : Space) : Gap := ⟨b.chars, b.isGap⟩

/-- At least one letter or digit. -/
@[ext] structure Name where
  chars : List Char
  ne_nil : chars ≠ []
  isAlphanumeric : ∀ c ∈ chars, Text.isAlphanumeric c = true

/-- A keyword, in any mixture of cases. -/
@[ext] structure Word (keyword : String) where
  chars : List Char
  lower : chars.map Char.toLower = keyword.toList

/-! ## Messages -/

@[ext] structure MessageForm where
  source : Name
  beforeArrow : Gap
  arrow : Arrow
  afterArrow : Gap
  destination : Name
  beforeColon : Gap
  rest : List Char

namespace MessageForm

def chars (m : MessageForm) : List Char :=
  m.source.chars ++ (m.beforeArrow.chars ++ (m.arrow.token ++ (m.afterArrow.chars ++
    (m.destination.chars ++ (m.beforeColon.chars ++ ':' :: m.rest)))))

def statement (m : MessageForm) : Statement :=
  .message (String.ofList m.source.chars) m.arrow (String.ofList m.destination.chars) (String.ofList (trim m.rest))

end MessageForm

/-! ## Notes -/

/-- Where a note stands, as it is written. -/
inductive Place where
  | over (word : Word "over")
  | right (word : Word "right") (space : Space) (of : Word "of")
  | left (word : Word "left") (space : Space) (of : Word "of")

namespace Place

def side : Place → Side
  | .over _ => .over
  | .right .. => .right
  | .left .. => .left

def chars : Place → List Char
  | .over word => word.chars
  | .right word space of => word.chars ++ (space.chars ++ of.chars)
  | .left word space of => word.chars ++ (space.chars ++ of.chars)

end Place

/-- A comma and the name after it. -/
@[ext] structure FurtherName where
  beforeComma : Gap
  afterComma : Gap
  name : Name

def FurtherName.chars (f : FurtherName) : List Char :=
  f.beforeComma.chars ++ ',' :: (f.afterComma.chars ++ f.name.chars)

/-- One name or more, in the order they are written. -/
@[ext] structure NameList where
  first : Name
  further : List FurtherName

namespace NameList

def chars (l : NameList) : List Char := l.first.chars ++ l.further.flatMap FurtherName.chars

def names (l : NameList) : List String := (l.first :: l.further.map (·.name)).map fun n => String.ofList n.chars

end NameList

@[ext] structure NoteForm where
  note : Word "note"
  afterNote : Space
  place : Place
  afterPlace : Space
  names : NameList
  beforeColon : Gap
  rest : List Char
  /-- To the left and to the right there is one actor. -/
  single : place.side ≠ .over → names.further = []

namespace NoteForm

def chars (n : NoteForm) : List Char :=
  n.note.chars ++ (n.afterNote.chars ++ (n.place.chars ++ (n.afterPlace.chars ++
    (n.names.chars ++ (n.beforeColon.chars ++ ':' :: n.rest)))))

def statement (n : NoteForm) : Statement :=
  .note n.place.side n.names.names (String.ofList (trim n.rest))

end NoteForm

/-! ## Keywords -/

/-- A keyword that ends the line, or before a space and any rest. -/
structure KeywordForm (keyword : String) where
  word : Word keyword
  gap : Gap
  rest : List Char
  apart : rest ≠ [] → gap.chars ≠ []

namespace KeywordForm

variable {keyword : String}

def chars (k : KeywordForm keyword) : List Char := k.word.chars ++ (k.gap.chars ++ k.rest)

def text (k : KeywordForm keyword) : String := String.ofList (trim k.rest)

end KeywordForm

end SequenceDiagram.Line
