/-
  SequenceDiagram.Numeric.Numeral — numbers as text, and the sine and cosine of an angle.

  A drawing needs two things of a number that layout does not: its text and the two
  coordinates of a point on a circle. The text of a binary64 is its shortest decimal in
  positional notation: no exponent, no point after a whole number, a zero before a
  leading point, a sign also on minus zero, and `inf` and `NaN` for what is no number.
-/

import SequenceDiagram.Numeric.Scalar
import SequenceDiagram.Numeric.Shortest

namespace SequenceDiagram

class Numeral (α : Type) extends Scalar α where
  text : α → String
  /-- The cosine of an angle in degrees. -/
  cosDegrees : α → α
  sinDegrees : α → α

namespace Numeric

def digits (n : Nat) : List Char := Nat.toDigits 10 n

/-- Positional notation of a decimal. -/
def positional (d : Decimal) : List Char :=
  if 0 ≤ d.exponent then digits d.coefficient ++ List.replicate d.exponent.toNat '0'
  else
    let places := (-d.exponent).toNat
    let all := digits d.coefficient
    let padded := List.replicate (places + 1 - all.length) '0' ++ all
    padded.take (padded.length - places) ++ '.' :: padded.drop (padded.length - places)

/-- The text of the binary64 with the given bits: a sign bit, eleven bits of exponent
    and fifty-two of fraction. -/
def binary64Text (bits : Nat) : List Char :=
  let fraction : Nat := bits % Nat.pow 2 52
  let exponent : Nat := bits / Nat.pow 2 52 % Nat.pow 2 11
  let sign := if bits / Nat.pow 2 63 % 2 = 1 then ['-'] else []
  if exponent = Nat.pow 2 11 - 1 then
    if fraction = 0 then sign ++ "inf".toList else "NaN".toList
  else if exponent = 0 then
    sign ++ if fraction = 0 then ['0'] else positional (shortest fraction (-1074) false)
  else
    sign ++ positional
      (shortest (Nat.pow 2 52 + fraction) ((exponent : Int) - 1075) (fraction == 0 && exponent != 1))

/-- One degree in radians. -/
def radian : Float := Float.ofBits 0x400921FB54442D18 / 180

end Numeric

instance : Numeral Float where
  text a := String.ofList (Numeric.binary64Text a.toBits.toNat)
  cosDegrees a := (a * Numeric.radian).cos
  sinDegrees a := (a * Numeric.radian).sin

end SequenceDiagram
