import RemoteDevice.Decimal.Binary64

/-!
The shortest decimal text that reads back as a given floating-point number. The reals that round
to the number form an interval. On the grid of multiples of a power of ten only the two neighbours
of the number can lie in it first, so the coarsest grid with a hit is found by trying the grids
from the leading digit downwards; of two hits the nearer is taken, and the upper one of two
equally near.
-/
set_option autoImplicit false

namespace RemoteDevice.Decimal

/-- The reals that round to a number, as multiples of a quarter of its unit in the last place. -/
structure RoundingInterval where
  low : Nat
  mid : Nat
  high : Nat
  /-- The power of two of a quarter unit. -/
  exponent : Int
  /-- An even mantissa attracts the ends too. -/
  closed : Bool
deriving DecidableEq, Repr

namespace RoundingInterval

/-- At a power of two the numbers below lie closer together. -/
def of (mantissa : Nat) (exponent : Int) : RoundingInterval where
  low := if mantissa = Nat.pow 2 52 ∧ -1074 < exponent then 4 * mantissa - 1 else 4 * mantissa - 2
  mid := 4 * mantissa
  high := 4 * mantissa + 2
  exponent := exponent - 2
  closed := mantissa % 2 = 0

/-- Whether `n * 10 ^ grid` lies in the interval. -/
def contains (i : RoundingInterval) (n : Nat) (grid : Int) : Bool :=
  let unit := (Magnitude.ofBinary 1 i.exponent).shift (-grid)
  let x := n * unit.den
  if i.closed then i.low * unit.num ≤ x && x ≤ i.high * unit.num
  else i.low * unit.num < x && x < i.high * unit.num

/-- The neighbour of the number on the grid that reads back, if one does. -/
def hit? (i : RoundingInterval) (grid : Int) : Option Nat :=
  let scaled := (Magnitude.ofBinary i.mid i.exponent).shift (-grid)
  let below := scaled.floor
  match i.contains below grid, i.contains (below + 1) grid with
  | false, false => none
  | true, false => some below
  | false, true => some (below + 1)
  | true, true =>
    if 2 * (scaled.num % scaled.den) < scaled.den then some below else some (below + 1)

end RoundingInterval

/-- The fewest digits that read back, as a number `digits * 10 ^ power`. Seventeen digits always
suffice, so no more grids than that are tried below the leading one. -/
def shortest (mantissa : Nat) (exponent : Int) : Nat × Int :=
  if mantissa = 0 then (0, 0)
  else
    let interval := RoundingInterval.of mantissa exponent
    let top := (Magnitude.ofBinary mantissa exponent).leadingPower + 1
    let grids := (List.range 19).map fun (i : Nat) => top - (i : Int)
    (grids.findSome? fun grid => (interval.hit? grid).map fun n => (n, grid)).getD (0, 0)

/-- The number `n * 10 ^ power` written without a power of ten. -/
def positionalChars (n : Nat) (power : Int) : List Char :=
  let digits := Nat.toDigits 10 n
  if 0 ≤ power then digits ++ List.replicate (if n = 0 then 0 else power.toNat) '0'
  else
    let places := (-power).toNat
    let padded := List.replicate (places + 1 - digits.length) '0' ++ digits
    padded.take (padded.length - places) ++ '.' :: padded.drop (padded.length - places)

/-- The shortest text of a number, positional at every size; zero keeps its sign. -/
def shortestChars : Binary64 → List Char
  | .nan => ['N', 'a', 'N']
  | .infinite negative => (if negative then ['-'] else []) ++ ['i', 'n', 'f']
  | .finite negative mantissa exponent =>
    let (n, power) := shortest mantissa exponent
    (if negative then ['-'] else []) ++ positionalChars n power

end RemoteDevice.Decimal
