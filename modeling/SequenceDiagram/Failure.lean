/-
  SequenceDiagram.Failure — why a document gives no picture.

  Reading fails on a document without statements and at the first line that is none.
  Linking fails at an `end` with no block open. An image fails when the drawing is no
  well-formed document or too wide, and when its pixels cannot be encoded, which takes an
  encoder to fail (`ImageFailure`). Layout and drawing do not fail.
-/

import SequenceDiagram.Text.Quoted

namespace SequenceDiagram

inductive Failure where
  | emptyInput
  | unrecognizedLine (line : Nat) (text : String)
  | unmatchedEnd (line : Nat)
  | malformedDrawing
  | oversizedImage
  deriving DecidableEq, Repr

def Failure.message : Failure → String
  | .emptyInput => "empty sequence"
  | .unrecognizedLine line text => "unsupported line " ++ toString line ++ ": " ++ Text.quote text
  | .unmatchedEnd line => "end without matching block at line " ++ toString line
  | .malformedDrawing => "failed to parse SVG"
  | .oversizedImage => "failed to allocate pixmap for raster rendering"

/-- Why a document gives no encoded image. -/
inductive ImageFailure where
  /-- There are no pixels. -/
  | unpainted (failure : Failure)
  /-- The pixels are there, but not written. -/
  | unencoded
  deriving DecidableEq, Repr

def ImageFailure.message : ImageFailure → String
  | .unpainted failure => failure.message
  | .unencoded => "failed to encode PNG"

end SequenceDiagram
