/-
  SequenceDiagram.Numeric.Shortest — the shortest decimal that names a binary number.

  A positive binary number m * 2 ^ q names every real that rounds to it: those between
  the midpoints to its two neighbours, the midpoints too when m is even. Below a power
  of two the neighbour is half as far, except at the bottom of the range (`narrow`).

  Of the decimals in that interval the shortest has its last digit on the coarsest grid
  of multiples of a power of ten that meets the interval. If a multiple of 10 ^ k lies
  in it, so does one of the value's two neighbours on that grid, so each grid costs two
  tests. When both lie in it the nearer is taken, and the greater of two equally near.

  All of it is whole-number arithmetic: four times the value, its lower and its upper
  end are kept over one denominator.
-/

namespace SequenceDiagram.Numeric

/-- The decimal `coefficient * 10 ^ exponent`. -/
structure Decimal where
  coefficient : Nat
  exponent : Int
  deriving DecidableEq, Repr

/-- The reals `low / scale` to `high / scale` around `value / scale`. -/
structure Interval where
  low : Nat
  value : Nat
  high : Nat
  scale : Nat
  closed : Bool
  deriving Repr

namespace Interval

/-- The reals that round to `m * 2 ^ q`. -/
def around (m : Nat) (q : Int) (narrow : Bool) : Interval :=
  let up := Nat.pow 2 q.toNat
  { low := (4 * m - if narrow then 1 else 2) * up
    value := 4 * m * up
    high := (4 * m + 2) * up
    scale := 4 * Nat.pow 2 (-q).toNat
    closed := m % 2 == 0 }

/-- Whether `c * num / den` lies in the interval. -/
def holds (i : Interval) (c num den : Nat) : Bool :=
  let x := c * num * i.scale
  if i.closed then i.low * den ≤ x && x ≤ i.high * den else i.low * den < x && x < i.high * den

/-- The nearest multiple of `num / den` in the interval, as its factor. -/
def nearest? (i : Interval) (num den : Nat) : Option Nat :=
  let c := i.value * den / (num * i.scale)
  match i.holds c num den, i.holds (c + 1) num den with
  | true, true => some (if (2 * c + 1) * num * i.scale ≤ 2 * i.value * den then c + 1 else c)
  | true, false => some c
  | false, true => some (c + 1)
  | false, false => none

/-- The first grid with a hit among `10 ^ k`, `10 ^ (k - 1)`, … -/
def search (i : Interval) : Nat → Int → Decimal
  | 0, k => ⟨0, k⟩
  | fuel + 1, k =>
    match i.nearest? (Nat.pow 10 k.toNat) (Nat.pow 10 (-k).toNat) with
    | some c => ⟨c, k⟩
    | none => i.search fuel (k - 1)

end Interval

/-- A power of ten above `m * 2 ^ q`, at most two places too high: 10 ^ 0.30103 > 2. -/
def topExponent (m : Nat) (q : Int) : Int := (m.log2 + 1 + q) * 30103 / 100000 + 1

/-- The shortest decimal that names the binary number `m * 2 ^ q`. Seventeen digits
    always suffice, so the search ends well before its bound. -/
def shortest (m : Nat) (q : Int) (narrow : Bool) : Decimal :=
  (Interval.around m q narrow).search 24 (topExponent m q)

end SequenceDiagram.Numeric
