/-
  SequenceDiagram.Numeric.Scalar — the numbers a layout is computed with.

  Every length, position and font size is a scalar. Layout uses the four operations,
  comparison, whole numbers, short decimals and rounding up, and nothing else, so it
  is written once over any type that has them. It runs on binary64; on the rationals
  the same definitions give the exact arithmetic that statements about lengths are
  about.

  Two rules cover what binary64 has and the rationals lack. `larger` and `smaller`
  give the other operand when one is not a number, and the first when both are equal.
  `sum` starts at minus zero, the one number that leaves every other unchanged when
  added, its own sign included.
-/

namespace SequenceDiagram

class Scalar (α : Type) extends Add α, Sub α, Mul α, Div α, Neg α, LT α, LE α where
  ofNat : Nat → α
  /-- The decimal `m / 10 ^ e`. -/
  decimal (m e : Nat) : α
  /-- The least whole number that is not below. -/
  ceil : α → α
  /-- False for the values that no comparison holds of. -/
  isNumber : α → Bool
  decLt (a b : α) : Decidable (a < b)
  decLe (a b : α) : Decidable (a ≤ b)

namespace Scalar

variable {α : Type} [Scalar α]

instance (a b : α) : Decidable (a < b) := decLt a b

instance (a b : α) : Decidable (a ≤ b) := decLe a b

def half (a : α) : α := a / ofNat 2

def twice (a : α) : α := a * ofNat 2

def larger (a b : α) : α := if isNumber a then if a < b then b else a else b

def smaller (a b : α) : α := if isNumber a then if b < a then b else a else b

def magnitude (a : α) : α := if a < ofNat 0 then -a else a

def sum (as : List α) : α := as.foldl (· + ·) (-ofNat 0)

/-- The least and the greatest number of a list, when it holds a number. -/
def range? (as : List α) : Option (α × α) :=
  match as.filter isNumber with
  | [] => none
  | a :: rest => some (rest.foldl smaller a, rest.foldl larger a)

end Scalar

/-! ## Binary64 and the rationals -/

instance : Scalar Float where
  ofNat := Float.ofNat
  decimal m e := Float.ofScientific m true e
  ceil := Float.ceil
  isNumber a := !a.isNaN
  decLt := inferInstance
  decLe := inferInstance

instance : Scalar Rat where
  ofNat n := n
  decimal m e := (m : Rat) / (Nat.pow 10 e : Nat)
  ceil a := a.ceil
  isNumber _ := true
  decLt := inferInstance
  decLe := inferInstance

end SequenceDiagram
