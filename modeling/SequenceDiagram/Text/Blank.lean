/-
  SequenceDiagram.Text.Blank — blanks, trimming, words and lines.

  A blank is a character with the Unicode property White_Space; it ends words and is
  trimmed from both ends of lines and texts. Inside a line the grammar asks for gaps,
  which are spaces and tabs only. Lines end at line feeds; a carriage return before one
  is a blank like any other.

  `words` cuts at blanks and `lines` at line feeds, both from the right: the piece at
  hand grows at its front, and is closed when the character before it is a separator.
-/

import SequenceDiagram.Text.Ranges

namespace SequenceDiagram.Text

/-- The twenty-five characters of White_Space. -/
def blankRanges : List (Nat × Nat) :=
  [(0x9, 0xd), (0x20, 0x20), (0x85, 0x85), (0xa0, 0xa0), (0x1680, 0x1680), (0x2000, 0x200a),
   (0x2028, 0x2029), (0x202f, 0x202f), (0x205f, 0x205f), (0x3000, 0x3000)]

def isBlank (c : Char) : Bool := inRanges c.toNat blankRanges

/-- A space or a tab. -/
def isGap (c : Char) : Bool := c == ' ' || c == '\t'

/-! ## Trimming -/

def trimEnd (s : List Char) : List Char := (s.reverse.dropWhile isBlank).reverse

def trim (s : List Char) : List Char := trimEnd (s.dropWhile isBlank)

/-! ## Words -/

/-- Puts a word in front unless it is empty. -/
def consWord (w : List Char) (ws : List (List Char)) : List (List Char) :=
  if w.isEmpty then ws else w :: ws

/-- The word a text begins with, empty at a blank, and the words behind it. -/
def cutWord : List Char → List Char × List (List Char)
  | [] => ([], [])
  | c :: s =>
    let (w, ws) := cutWord s
    if isBlank c then ([], consWord w ws) else (c :: w, ws)

/-- The maximal runs of characters that are not blank. -/
def words (s : List Char) : List (List Char) :=
  let (w, ws) := cutWord s
  consWord w ws

/-! ## Lines -/

/-- The first line of a text, and the lines behind it. -/
def cutLine : List Char → List Char × List (List Char)
  | [] => ([], [])
  | c :: s =>
    let (l, ls) := cutLine s
    if c = '\n' then ([], l :: ls) else (c :: l, ls)

/-- The pieces between line feeds; a text without one is a single line. -/
def lines (s : List Char) : List (List Char) :=
  let (l, ls) := cutLine s
  l :: ls

end SequenceDiagram.Text
