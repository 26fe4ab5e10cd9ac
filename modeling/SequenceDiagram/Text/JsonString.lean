/-
  SequenceDiagram.Text.JsonString — a string as a JSON literal.

  Quotes and backslashes are written with a backslash, five controls by their letter,
  the other controls below the space as four hexadecimal digits; all else stands as it
  is, non-ASCII characters too.
-/

import SequenceDiagram.Text.Quoted

namespace SequenceDiagram.Text

def jsonChar (c : Char) : List Char :=
  if c = '"' then ['\\', '"']
  else if c = '\\' then ['\\', '\\']
  else if c = '\x08' then ['\\', 'b']
  else if c = '\x0c' then ['\\', 'f']
  else if c = '\n' then ['\\', 'n']
  else if c = '\r' then ['\\', 'r']
  else if c = '\t' then ['\\', 't']
  else if c.toNat < 0x20 then
    "\\u".toList ++ List.replicate (4 - (hexCode c).length) '0' ++ hexCode c
  else [c]

def jsonString (s : String) : String :=
  String.ofList ('"' :: s.toList.flatMap jsonChar ++ ['"'])

end SequenceDiagram.Text
