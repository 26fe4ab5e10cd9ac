/-
  SequenceDiagram.Service.Target — what a request is for.

  A target is a path, or a whole address: a scheme, `://`, a host with what belongs to
  it, and then the path. A scheme is made of letters, digits, `+`, `-` and `.`, and the
  host reaches to the next slash, question mark or hash. A question mark or a hash ends
  the path. Paths begin with a slash, so none is taken for a scheme.
-/

namespace SequenceDiagram.Service

def isSchemeChar (c : Char) : Bool := c.isAlphanum || c == '+' || c == '-' || c == '.'

/-- Whether a character ends the path. -/
def endsPath (c : Char) : Bool := c == '?' || c == '#'

/-- Whether a character ends the host. -/
def endsHost (c : Char) : Bool := c == '/' || endsPath c

/-- A target from its path on. -/
def fromPath (target : List Char) : List Char :=
  match target.dropWhile isSchemeChar with
  | ':' :: '/' :: '/' :: rest => rest.dropWhile (!endsHost ·)
  | _ => target

def pathOf (target : String) : String :=
  String.ofList ((fromPath target.toList).takeWhile (!endsPath ·))

end SequenceDiagram.Service
