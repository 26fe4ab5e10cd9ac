/-
  SequenceDiagram.Service.Standard — the framework that the service runs on.

  A declared length is a whole number that fits 64 bits, in decimal digits after an
  optional plus sign. Whatever else the header says counts as not declared, a number of
  more bits too. The layer for bodies answers by itself where the length is beyond its
  limit. Otherwise it lets through what comes first, the limit or the declared length, and
  whoever reads more than that fails.

  A path gets to the endpoint that stands there. The layers are around each endpoint and
  around the answer at all other paths. An endpoint names the methods it takes whenever a
  request's is none of them, whatever the layers answer, and leaves the body out for HEAD.
-/

import SequenceDiagram.Service.Framework
import SequenceDiagram.Service.Settings
import SequenceDiagram.Service.Target
import SequenceDiagram.Text.JsonString

namespace SequenceDiagram.Service

variable {ι : Type}

/-! ## Requests on their way -/

structure Call where
  request : Request
  /-- The bytes that may be read of the body. -/
  limit : Option Nat
  /-- The longest body that a handler is given. -/
  bound : Option Nat

namespace Call

/-- The bytes of a body that no layer has said anything about. -/
def defaultBound : Nat := 2097152

def receive (r : Request) : Call := ⟨r, none, some defaultBound⟩

/-- The first content length, if it is a number of 64 bits. -/
def declared (headers : List (String × String)) : Option Nat := do
  word? 64 (← headers.lookup "content-length").toList

def body? (c : Call) : Option ByteArray :=
  if c.limit.any (· < c.request.body.size) then none else some c.request.body

def limitBody (n : Nat) (c : Call) : Call := { c with limit := some (min n (c.limit.getD n)) }

def liftDefault (c : Call) : Call := { c with bound := none }

end Call

/-! ## Layers and handlers -/

namespace Response

def tooLarge : Response ι := .plain 413 "length limit exceeded"

def unbuffered : Response ι := .plain 413 "Failed to buffer the request body: length limit exceeded"

end Response

namespace Call

def bodyLimit (limit : Nat) (handler : Call → Response ι) (c : Call) : Response ι :=
  match declared c.request.headers with
  | none => handler (c.limitBody limit)
  | some n => if limit < n then .tooLarge else handler (c.limitBody (min limit n))

def withBytes (handler : ByteArray → Response ι) (c : Call) : Response ι :=
  match c.body? with
  | none => .unbuffered
  | some bytes => if c.bound.any (· < bytes.size) then .unbuffered else handler bytes

end Call

/-! ## Endpoints -/

namespace Verb

def methods : Verb → List String
  | .get => ["GET", "HEAD"]
  | .post => ["POST"]

def takes (verb : Verb) (method : String) : Bool := verb.methods.contains method

def send (verb : Verb) (method : String) (response : Response ι) : Response ι :=
  { response with
    allow := if verb.takes method then none else some (String.intercalate "," verb.methods)
    body := if method = "HEAD" then .text "" else response.body }

end Verb

def App.serve (a : App Call ι) (r : Request) : Response ι :=
  match a.endpoints.find? (·.path == pathOf r.target) with
  | none => a.around (fun _ => .empty 404) (Call.receive r)
  | some e =>
    let handler : Call → Response ι := if e.verb.takes r.method then e.handler else fun _ => .empty 405
    e.verb.send r.method (a.around handler (Call.receive r))

def Framework.standard : Framework ι where
  Call := Service.Call
  receive := Call.receive
  pathOf := Service.pathOf
  declared := Call.declared
  body? := Call.body?
  limitBody := Call.limitBody
  liftDefault := Call.liftDefault
  bodyLimit := Call.bodyLimit
  disableDefaultLimit handler c := handler c.liftDefault
  trace handler := handler
  withBytes := Call.withBytes
  spawn := some
  jsonObject name value := "\x7b" ++ Text.jsonString name ++ ":" ++ Text.jsonString value ++ "\x7d"
  ofStatus := .empty
  ofText := .plain 200
  ofJson := .json
  ofImage := .image
  tooLarge := .tooLarge
  unbuffered := .unbuffered
  notFound := .empty 404
  notAllowed := .empty 405
  takes := Verb.takes
  send := Verb.send
  serve := App.serve

end SequenceDiagram.Service
