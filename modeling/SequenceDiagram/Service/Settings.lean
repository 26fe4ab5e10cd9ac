/-
  SequenceDiagram.Service.Settings — what the service is set to.

  Three named variables may be set: the address to listen on, the number there, and the
  longest body that is read. They are looked up in that order and read trimmed; the first
  one that cannot be read is the error, with its value as it was given. A number has
  decimal digits only, after an optional plus sign, and must fit its word.
-/

import SequenceDiagram.Service.Address
import SequenceDiagram.Text.Blank
import SequenceDiagram.Text.Quoted

namespace SequenceDiagram

structure Settings where
  bind : Address
  /-- The number to listen on, of sixteen bits. -/
  portNumber : Nat
  /-- The longest request body, in bytes. -/
  maxBody : Nat
  deriving DecidableEq, Repr

/-- A variable whose value cannot be read. -/
structure InvalidSetting where
  name : String
  value : String
  deriving DecidableEq, Repr

def InvalidSetting.message (e : InvalidSetting) : String :=
  "invalid " ++ e.name ++ ": " ++ Text.quote e.value

/-! ## Numbers -/

/-- Decimal digits only, at least one. -/
def decimal? (s : List Char) : Option Nat :=
  if s.isEmpty ∨ !s.all Char.isDigit then none
  else some (s.foldl (fun n c => n * 10 + (c.toNat - '0'.toNat)) 0)

/-- A whole number that fits so many bits, with an optional plus sign. -/
def word? (bits : Nat) (s : List Char) : Option Nat := do
  let n ← decimal? (match s with
    | '+' :: r => r
    | r => r)
  if n < Nat.pow 2 bits then return n else none

namespace Settings

def default : Settings := ⟨.v4 [0, 0, 0, 0], 3000, 65536⟩

/-- The value of a variable, if it is set. -/
def lookUp {α : Type} (env : String → Option String) (name : String) (read? : List Char → Option α) :
    Except InvalidSetting (Option α) :=
  match env name with
  | none => .ok none
  | some value =>
    match read? (Text.trim value.toList) with
    | some a => .ok (some a)
    | none => .error ⟨name, value⟩

def read (env : String → Option String) : Except InvalidSetting Settings := do
  let bind ← lookUp env "SEQPNG_BIND" Address.read?
  let portNumber ← lookUp env "PORT" (word? 16)
  let maxBody ← lookUp env "SEQPNG_MAX_BODY_BYTES" (word? 64)
  return ⟨bind.getD default.bind, portNumber.getD default.portNumber, maxBody.getD default.maxBody⟩

/-- Address and number in one. -/
def endpoint (s : Settings) : String := s.bind.writeWith s.portNumber

end Settings

end SequenceDiagram
