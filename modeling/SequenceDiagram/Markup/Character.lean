/-
  SequenceDiagram.Markup.Character — the characters a document may hold.

  XML 1.0 admits tab, line feed, carriage return and every code from the space up, but
  for U+FFFE and U+FFFF. No entity helps: a document with any other character is not
  well formed.
-/

namespace SequenceDiagram.Markup

def isLegal (c : Char) : Bool :=
  c == '\t' || c == '\n' || c == '\r' || (0x20 ≤ c.toNat && c.toNat != 0xfffe && c.toNat != 0xffff)

def isWellFormedText (s : String) : Bool := s.toList.all isLegal

end SequenceDiagram.Markup
