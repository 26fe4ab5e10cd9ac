/-
  SequenceDiagram.Text.Ranges — sets of characters as ascending lists of code ranges.

  A character class of the Unicode standard is a list of pairs, first and last code
  point, in ascending order and apart from each other. Looking a character up stops at
  the first range that begins behind it, so the Latin letters at the front cost little.
-/

namespace SequenceDiagram.Text

/-- Whether one of the ascending ranges holds the code. -/
def inRanges (code : Nat) : List (Nat × Nat) → Bool
  | [] => false
  | (first, last) :: rest => if code < first then false else code ≤ last || inRanges code rest

end SequenceDiagram.Text
