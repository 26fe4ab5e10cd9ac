/-
  SequenceDiagram.Statement.Line — reading one line.

  A line is trimmed and then read whole as a message, else as a note, else as a block
  keyword. Names are runs of letters and digits. Gaps of spaces and tabs may surround an
  arrow, a comma and the colon; a keyword is followed by at least one, or by the end of
  the line. Keywords are read without regard to case. What follows the colon or the
  keyword is the text, trimmed.

      message   name gap* arrow gap* name gap* : text
      note      note gap+ (over | right gap+ of | left gap+ of) gap+ names gap* : text
      names     name (gap* , gap* name)*        exactly one for left and right
      block     (alt | loop | else) (gap text)?     end

  An arrow is read as the longest token that fits, and a list of names ends before a
  comma that no name follows. A message may thus begin with a keyword: `alt->B: x`.

  Each reader takes the characters ahead and gives what it read and the rest.
-/

import SequenceDiagram.Failure
import SequenceDiagram.Statement.Basic
import SequenceDiagram.Text.Alphanumeric
import SequenceDiagram.Text.Blank

namespace SequenceDiagram.Line

open Text (isAlphanumeric isGap trim)

/-! ## Pieces of a line -/

def skipGap (s : List Char) : List Char := s.dropWhile isGap

/-- At least one space or tab. -/
def gap? : List Char → Option (List Char)
  | c :: s => if isGap c then some (skipGap s) else none
  | [] => none

def name? (s : List Char) : Option (List Char × List Char) :=
  match s.takeWhile isAlphanumeric with
  | [] => none
  | n => some (n, s.dropWhile isAlphanumeric)

/-- A keyword, in any mixture of cases. -/
def keyword? : List Char → List Char → Option (List Char)
  | [], s => some s
  | k :: ks, c :: s => if c.toLower = k then keyword? ks s else none
  | _ :: _, [] => none

/-- The longest arrow token at the front. -/
def arrow? : List Char → Option (Arrow × List Char)
  | '-' :: '-' :: '>' :: '+' :: s => some (⟨.dashed, some .start⟩, s)
  | '-' :: '-' :: '>' :: '-' :: s => some (⟨.dashed, some .finish⟩, s)
  | '-' :: '-' :: '>' :: s => some (⟨.dashed, none⟩, s)
  | '-' :: '>' :: '+' :: s => some (⟨.solid, some .start⟩, s)
  | '-' :: '>' :: '-' :: s => some (⟨.solid, some .finish⟩, s)
  | '-' :: '>' :: s => some (⟨.solid, none⟩, s)
  | _ => none

/-- The text after the colon, to the end of the line. -/
def colonText? (s : List Char) : Option String :=
  match skipGap s with
  | ':' :: r => some (String.ofList (trim r))
  | _ => none

/-- The text after a keyword, to the end of the line. -/
def keywordText? : List Char → Option String
  | [] => some ""
  | c :: s => if isGap c then some (String.ofList (trim s)) else none

/-! ## Lists of names -/

/-- A comma and the name after it. -/
def nextName? (s : List Char) : Option (List Char × List Char) :=
  match skipGap s with
  | ',' :: r => name? (skipGap r)
  | _ => none

theorem dropWhile_length_le (p : Char → Bool) (s : List Char) : (s.dropWhile p).length ≤ s.length :=
  (List.dropWhile_suffix p).length_le

theorem name?_length_le {s n r : List Char} (h : name? s = some (n, r)) : r.length ≤ s.length := by
  unfold name? at h
  split at h
  · cases h
  · cases h; exact dropWhile_length_le _ _

theorem nextName?_length_lt {s n r : List Char} (h : nextName? s = some (n, r)) : r.length < s.length := by
  unfold nextName? at h
  split at h
  · rename_i t ht
    have h1 := name?_length_le h
    have h2 := dropWhile_length_le isGap t
    have h3 := dropWhile_length_le isGap s
    simp only [skipGap] at h1 ht
    rw [ht, List.length_cons] at h3
    omega
  · cases h

/-- The further names of a list, and the rest from the first comma that no name follows. -/
def moreNames (s : List Char) : List (List Char) × List Char :=
  match _h : nextName? s with
  | none => ([], s)
  | some (n, r) =>
    let (ns, t) := moreNames r
    (n :: ns, t)
termination_by s.length
decreasing_by exact nextName?_length_lt ‹_›

def names? (s : List Char) : Option (List String × List Char) := do
  let (n, r) ← name? s
  let (ns, t) := moreNames r
  return ((n :: ns).map String.ofList, t)

/-! ## Statements -/

def message? (s : List Char) : Option Statement := do
  let (source, s) ← name? s
  let (arrow, s) ← arrow? (skipGap s)
  let (destination, s) ← name? (skipGap s)
  let text ← colonText? s
  return .message (String.ofList source) arrow (String.ofList destination) text

def side? (s : List Char) : Option (Side × List Char) :=
  match keyword? "over".toList s with
  | some r => some (.over, r)
  | none =>
    match keyword? "right".toList s with
    | some r => do
      let r ← keyword? "of".toList (← gap? r)
      return (.right, r)
    | none => do
      let r ← keyword? "of".toList (← gap? (← keyword? "left".toList s))
      return (.left, r)

def note? (s : List Char) : Option Statement := do
  let s ← gap? (← keyword? "note".toList s)
  let (side, s) ← side? s
  let (names, s) ← names? (← gap? s)
  if side ≠ .over ∧ names.length ≠ 1 then none
  let text ← colonText? s
  return .note side names text

def blockStart? (kind : BlockKind) (s : List Char) : Option Statement := do
  let text ← keywordText? (← keyword? kind.keyword.toList s)
  return .blockStart kind text

def otherwise? (s : List Char) : Option Statement := do
  let text ← keywordText? (← keyword? "else".toList s)
  return .otherwise text

def blockEnd? (s : List Char) : Option Statement :=
  if keyword? "end".toList s = some [] then some .blockEnd else none

/-- The statement that a trimmed line is, if any. -/
def statement? (s : List Char) : Option Statement :=
  message? s <|> note? s <|> blockStart? .alt s <|> blockStart? .loop s <|> otherwise? s <|> blockEnd? s

end Line

/-- Reads one line; the number only labels the failure. -/
def Statement.read (line : Nat) (text : String) : Except Failure Statement :=
  match Text.trim text.toList with
  | [] => .error .emptyInput
  | s =>
    match Line.statement? s with
    | some statement => .ok statement
    | none => .error (.unrecognizedLine line (String.ofList s))

end SequenceDiagram
