/-
  SequenceDiagram.Service.Router — the answer to a request.

  A document posted to the one endpoint for sequences, with or without a slash at its end,
  is answered with its image: its bytes must be the encoding of a text, and the text must
  have an image, or else the answer is the message that says why there is none. A second
  endpoint tells that the service is up.

  Around both is the limit on bodies, in place of the bound that a framework has of its
  own, and the log is around all.
-/

import SequenceDiagram.Drawing.Image
import SequenceDiagram.Service.Standard

namespace SequenceDiagram.Service

variable {ι : Type}

/-! ## Handlers -/

def badRequest (fw : Framework ι) (message : String) : Response ι :=
  fw.ofJson 400 (fw.jsonObject "error" message)

/-- The image of a posted document, or why there is none. -/
def renderSequence (fw : Framework ι) (render : String → Except ImageFailure ι) (body : ByteArray) : Response ι :=
  match String.fromUTF8? body with
  | none => badRequest fw "request body is not valid UTF-8"
  | some text =>
    match fw.spawn (render text) with
    | some (.ok image) => fw.ofImage "image/png" image
    | some (.error failure) => badRequest fw failure.message
    | none => fw.ofStatus 500

def alive (fw : Framework ι) : Response ι := fw.ofText "ok"

/-! ## The service -/

def app (fw : Framework ι) (limit : Nat) (render : String → Except ImageFailure ι) : App fw.Call ι where
  endpoints :=
    [⟨"/api/v1/sequence/", .post, fw.withBytes (renderSequence fw render)⟩,
     ⟨"/api/v1/sequence", .post, fw.withBytes (renderSequence fw render)⟩,
     ⟨"/healthz", .get, fun _ => alive fw⟩]
  layers := [fw.disableDefaultLimit, fw.bodyLimit limit, fw.trace]

/-- The answer that a framework gives for the service. -/
def Framework.answer (fw : Framework ι) (limit : Nat) (render : String → Except ImageFailure ι) (r : Request) :
    Response ι :=
  fw.serve (app fw limit render) r

def answer (limit : Nat) (render : String → Except Failure ImageSize) (r : Request) : Response ImageSize :=
  Framework.standard.answer limit (fun text => (render text).mapError .unpainted) r

end SequenceDiagram.Service
