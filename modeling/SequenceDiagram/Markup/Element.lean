/-
  SequenceDiagram.Markup.Element — elements and the document they make.

  An element has a name, attributes in order, and either a text or nothing inside. A
  document is one element around a list of others, a line for each. Writing is the only
  place where text becomes markup, and it escapes every attribute value and every text.
-/

import SequenceDiagram.Markup.Escape

namespace SequenceDiagram.Markup

abbrev Attribute := String × String

structure Element where
  name : String
  attributes : List Attribute
  text : Option String
  deriving DecidableEq, Repr

/-- An outer element and what stands inside it. -/
structure Document where
  name : String
  attributes : List Attribute
  elements : List Element
  deriving DecidableEq, Repr

def writeAttribute (a : Attribute) : String := " " ++ a.1 ++ "=\"" ++ escape a.2 ++ "\""

def writeAttributes (as : List Attribute) : String := String.join (as.map writeAttribute)

def Element.write (e : Element) : String :=
  let opening := "<" ++ e.name ++ writeAttributes e.attributes
  match e.text with
  | none => opening ++ "/>"
  | some text => opening ++ ">" ++ escape text ++ "</" ++ e.name ++ ">"

def Document.write (d : Document) : String :=
  let lines := ["<" ++ d.name ++ writeAttributes d.attributes ++ ">"] ++ d.elements.map Element.write ++
    ["</" ++ d.name ++ ">"]
  String.join (lines.map (· ++ "\n"))

end SequenceDiagram.Markup
