/-
  SequenceDiagram.Markup.Escape — text inside markup.

  Five characters cannot stand in text or between the quotes of an attribute; each is
  written as a named entity, and every other character as itself. Replacing them one
  after the other over the whole text gives the same, when the ampersand, which all
  entities begin with, goes first.
-/

namespace SequenceDiagram.Markup

def entity (c : Char) : List Char :=
  if c = '&' then "&amp;".toList
  else if c = '<' then "&lt;".toList
  else if c = '>' then "&gt;".toList
  else if c = '"' then "&quot;".toList
  else if c = '\'' then "&apos;".toList
  else [c]

def escapeChars (s : List Char) : List Char := s.flatMap entity

def escape (s : String) : String := String.ofList (escapeChars s.toList)

/-! ## One character after the other -/

/-- Every occurrence of one character replaced. -/
def replaceChar (c : Char) (written : List Char) (s : List Char) : List Char :=
  s.flatMap fun d => if d = c then written else [d]

def escapeInTurn (s : List Char) : List Char :=
  ['&', '<', '>', '"', '\''].foldl (fun s c => replaceChar c (entity c) s) s

/-! ## Reading back -/

/-- Entities replaced from left to right, all else kept. -/
def unescapeChars : List Char → List Char
  | '&' :: 'a' :: 'm' :: 'p' :: ';' :: s => '&' :: unescapeChars s
  | '&' :: 'l' :: 't' :: ';' :: s => '<' :: unescapeChars s
  | '&' :: 'g' :: 't' :: ';' :: s => '>' :: unescapeChars s
  | '&' :: 'q' :: 'u' :: 'o' :: 't' :: ';' :: s => '"' :: unescapeChars s
  | '&' :: 'a' :: 'p' :: 'o' :: 's' :: ';' :: s => '\'' :: unescapeChars s
  | c :: s => c :: unescapeChars s
  | [] => []

end SequenceDiagram.Markup
