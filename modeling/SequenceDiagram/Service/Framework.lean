/-
  SequenceDiagram.Service.Framework — what the service leaves to others.

  The service is an application (`App`): some endpoints, each with the path it stands at
  and the handler behind it, and layers around all of them. Which handler a request gets
  to, what the layers do with it, how its body is read, how tasks run, how JSON is written
  and what responses are made of is the work of libraries. A `Framework` has a name for
  each part of that work that the service uses, and says nothing of how it is done.
-/

import SequenceDiagram.Failure

namespace SequenceDiagram.Service

/-! ## Requests and responses -/

structure Request where
  method : String
  target : String
  /-- Names in lower case. -/
  headers : List (String × String)
  body : ByteArray

inductive Body (ι : Type) where
  | text (content : String)
  | image (content : ι)
  deriving DecidableEq, Repr

structure Response (ι : Type) where
  status : Nat
  contentType : Option String
  allow : Option String
  body : Body ι
  deriving DecidableEq, Repr

variable {ι : Type}

namespace Response

def empty (status : Nat) : Response ι := ⟨status, none, none, .text ""⟩

def plain (status : Nat) (content : String) : Response ι :=
  ⟨status, some "text/plain; charset=utf-8", none, .text content⟩

def json (status : Nat) (content : String) : Response ι := ⟨status, some "application/json", none, .text content⟩

def image (contentType : String) (content : ι) : Response ι := ⟨200, some contentType, none, .image content⟩

end Response

/-! ## Applications -/

/-- What an endpoint is there for. -/
inductive Verb where
  | get
  | post
  deriving DecidableEq, Repr

structure Endpoint (χ ι : Type) where
  path : String
  verb : Verb
  handler : χ → Response ι

/-- Endpoints, and layers around their handlers. -/
structure App (χ ι : Type) where
  endpoints : List (Endpoint χ ι)
  /-- From the inner to the outer ones. -/
  layers : List ((χ → Response ι) → χ → Response ι)

/-- A handler with the layers around it. -/
def App.around {χ : Type} (a : App χ ι) (handler : χ → Response ι) : χ → Response ι :=
  a.layers.foldl (fun inner layer => layer inner) handler

/-! ## Frameworks -/

structure Framework (ι : Type) where
  /-- A request on its way to a handler, with what the layers have left on it. -/
  Call : Type
  receive : Request → Call
  /-- The path of a target. -/
  pathOf : String → String
  /-- The length of the body that the headers declare. -/
  declared : List (String × String) → Option Nat
  /-- The body when it is read to its end, unless that fails. -/
  body? : Call → Option ByteArray
  /-- Reading the body fails behind so many bytes. -/
  limitBody : Nat → Call → Call
  /-- The bound on bodies that is there from the beginning is taken away. -/
  liftDefault : Call → Call
  /-- A layer: no body longer than the limit. -/
  bodyLimit : Nat → (Call → Response ι) → Call → Response ι
  /-- A layer: no bound on bodies but those that are asked for. -/
  disableDefaultLimit : (Call → Response ι) → Call → Response ι
  /-- A layer: requests and responses go to the log. -/
  trace : (Call → Response ι) → Call → Response ι
  /-- A handler that is given the bytes of the body. -/
  withBytes : (ByteArray → Response ι) → Call → Response ι
  /-- What a task comes to, unless it breaks down. -/
  spawn : Except ImageFailure ι → Option (Except ImageFailure ι)
  /-- An object with one member, a string, as JSON. -/
  jsonObject : String → String → String
  /-- An answer that is a status and no more. -/
  ofStatus : Nat → Response ι
  ofText : String → Response ι
  ofJson : Nat → String → Response ι
  /-- An answer with an image and its content type. -/
  ofImage : String → ι → Response ι
  /-- The answer to a length beyond the limit. -/
  tooLarge : Response ι
  /-- The answer when reading the body fails. -/
  unbuffered : Response ι
  /-- The answer at a path without an endpoint. -/
  notFound : Response ι
  /-- The answer to a method that an endpoint does not take. -/
  notAllowed : Response ι
  takes : Verb → String → Bool
  /-- An endpoint's answer to a method as it is sent. -/
  send : Verb → String → Response ι → Response ι
  serve : App Call ι → Request → Response ι

end SequenceDiagram.Service
