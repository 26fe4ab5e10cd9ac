/-
  SequenceDiagram.Metrics.Wrap — breaking a text into lines.

  A text is broken between words, and its words are joined again by single spaces. A
  line takes the next word as long as it is then no wider than the limit; a word that is
  wider by itself gets a line of its own.
-/

import SequenceDiagram.Metrics.Basic
import SequenceDiagram.Text.Blank

namespace SequenceDiagram.TextMetrics

variable {α : Type} [Scalar α]

/-- The lines of the words ahead when `line` is the line so far. -/
def fill (m : TextMetrics α) (fontSize limit : α) (line : String) : List String → List String
  | [] => [line]
  | word :: words =>
    let longer := line ++ " " ++ word
    if limit < (m.measure longer fontSize).width then line :: m.fill fontSize limit word words
    else m.fill fontSize limit longer words

def wrap (m : TextMetrics α) (text : String) (fontSize limit : α) : List String :=
  match (Text.words text.toList).map String.ofList with
  | [] => []
  | word :: words => m.fill fontSize limit word words

end SequenceDiagram.TextMetrics
