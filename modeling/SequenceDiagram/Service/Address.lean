/-
  SequenceDiagram.Service.Address — internet addresses as text.

  A version 4 address is four numbers below 256 with points between, each of one to three
  digits and without a leading zero. A version 6 address is eight groups of up to four
  hexadecimal digits with colons between; its last two groups may be a version 4 address,
  and one run of groups that are all zero may be left out between two colons.

  Written, the first of the longest runs of zero groups is left out when it is longer than
  one, and an address whose first 96 bits are those of a mapped version 4 address shows
  that address.
-/

namespace SequenceDiagram

inductive Address where
  | v4 (octets : List Nat)
  | v6 (groups : List Nat)
  deriving DecidableEq, Repr

namespace Address

/-! ## Reading -/

def hexValue? (c : Char) : Option Nat :=
  if c.isDigit then some (c.toNat - '0'.toNat)
  else if 'a' ≤ c ∧ c ≤ 'f' then some (c.toNat - 'a'.toNat + 10)
  else if 'A' ≤ c ∧ c ≤ 'F' then some (c.toNat - 'A'.toNat + 10)
  else none

/-- The number at the front, unless it has no digit or more than `most`. -/
def digits? (radix most : Nat) (s : List Char) : Option (List Char × Nat × List Char) :=
  let isDigit (c : Char) : Bool := (hexValue? c).any (· < radix)
  let ds := s.takeWhile isDigit
  if ds.isEmpty ∨ most < ds.length then none
  else some (ds, ds.foldl (fun n c => n * radix + (hexValue? c).getD 0) 0, s.dropWhile isDigit)

def octet? (s : List Char) : Option (Nat × List Char) := do
  let (ds, n, r) ← digits? 10 3 s
  if 1 < ds.length ∧ ds.head? = some '0' then none
  if 255 < n then none
  return (n, r)

def point? : List Char → Option (List Char)
  | '.' :: s => some s
  | _ => none

def v4? (s : List Char) : Option (List Nat × List Char) := do
  let (a, s) ← octet? s
  let (b, s) ← octet? (← point? s)
  let (c, s) ← octet? (← point? s)
  let (d, s) ← octet? (← point? s)
  return ([a, b, c, d], s)

def group? (s : List Char) : Option (Nat × List Char) := do
  let (_, n, r) ← digits? 16 4 s
  return (n, r)

/-- Past the colon that comes before every group but the first. -/
def pastColon? (first : Bool) (s : List Char) : Option (List Char) :=
  if first then some s
  else
    match s with
    | ':' :: r => some r
    | _ => none

/-- The groups at the front, at most so many, and whether they end in a version 4 address,
    which takes the room of two. -/
def groups (first : Bool) : Nat → List Char → List Nat × Bool × List Char
  | 0, s => ([], false, s)
  | n + 1, s =>
    match if n = 0 then none else (pastColon? first s).bind v4? with
    | some ([a, b, c, d], r) => ([a * 256 + b, c * 256 + d], true, r)
    | _ =>
      match (pastColon? first s).bind group? with
      | some (g, r) =>
        let (gs, isMixed, t) := groups false n r
        (g :: gs, isMixed, t)
      | none => ([], false, s)

def v6? (s : List Char) : Option (List Nat × List Char) :=
  match groups true 8 s with
  | (front, isMixed, r) =>
    if front.length = 8 then some (front, r)
    else if isMixed then none
    else
      match r with
      | ':' :: ':' :: t =>
        let (back, _, t) := groups true (7 - front.length) t
        some (front ++ List.replicate (8 - front.length - back.length) 0 ++ back, t)
      | _ => none

/-- The address that a text is, whole. -/
def read? (s : List Char) : Option Address :=
  match v4? s with
  | some (octets, r) => if r.isEmpty then some (.v4 octets) else none
  | none =>
    match v6? s with
    | some (groups, r) => if r.isEmpty then some (.v6 groups) else none
    | none => none

/-! ## Writing -/

def writeOctets (octets : List Nat) : String := String.intercalate "." (octets.map toString)

def writeGroups (groups : List Nat) : String :=
  String.intercalate ":" (groups.map fun g => String.ofList (Nat.toDigits 16 g))

/-- The length of the run of zeros at the front. -/
def zeroRun (groups : List Nat) : Nat := (groups.takeWhile (· == 0)).length

/-- Start and length of the first of the longest runs of zeros. -/
def longestZeroRun (groups : List Nat) : Nat × Nat :=
  (List.range groups.length).foldl
    (fun best i => if best.2 < zeroRun (groups.drop i) then (i, zeroRun (groups.drop i)) else best) (0, 0)

/-- The octets of a mapped version 4 address. -/
def mapped? : List Nat → Option (List Nat)
  | [0, 0, 0, 0, 0, 0xffff, a, b] => some [a / 256, a % 256, b / 256, b % 256]
  | _ => none

def write : Address → String
  | .v4 octets => writeOctets octets
  | .v6 groups =>
    match mapped? groups with
    | some octets => "::ffff:" ++ writeOctets octets
    | none =>
      let (start, length) := longestZeroRun groups
      if 1 < length then
        writeGroups (groups.take start) ++ "::" ++ writeGroups (groups.drop (start + length))
      else writeGroups groups

/-- With the number to listen on; a version 6 address then stands in brackets. -/
def writeWith (a : Address) (number : Nat) : String :=
  match a with
  | .v4 _ => a.write ++ ":" ++ toString number
  | .v6 _ => "[" ++ a.write ++ "]:" ++ toString number

end Address

end SequenceDiagram
