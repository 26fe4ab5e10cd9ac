/-
  SequenceDiagram.Text.Quoted — a piece of input as a message shows it.

  The text stands between double quotes. A quote, a backslash and the common controls
  are written with a backslash; any other character that cannot stand for itself is
  written as its code, in lowercase hexadecimal between braces.
-/

import SequenceDiagram.Text.Printable

namespace SequenceDiagram.Text

/-- The code of a character in lowercase hexadecimal. -/
def hexCode (c : Char) : List Char := Nat.toDigits 16 c.toNat

def quoteChar (c : Char) : List Char :=
  if c = '"' then ['\\', '"']
  else if c = '\\' then ['\\', '\\']
  else if c = '\t' then ['\\', 't']
  else if c = '\r' then ['\\', 'r']
  else if c = '\n' then ['\\', 'n']
  else if c = '\x00' then ['\\', '0']
  else if isPlain c then [c]
  else "\\u\x7b".toList ++ hexCode c ++ ['\x7d']

def quote (s : String) : String :=
  String.ofList ('"' :: s.toList.flatMap quoteChar ++ ['"'])

end SequenceDiagram.Text
