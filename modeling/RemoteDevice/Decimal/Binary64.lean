/-!
The exact value of a 64-bit floating-point word: not a number, an infinity, or a signed natural
number times a power of two.
-/
set_option autoImplicit false

namespace RemoteDevice

inductive Binary64 where
  | nan
  | infinite (negative : Bool)
  /-- The magnitude is `mantissa * 2 ^ exponent`; zero has a sign too. -/
  | finite (negative : Bool) (mantissa : Nat) (exponent : Int)
deriving DecidableEq, Repr

namespace Binary64

/-- Takes a word apart into sign, biased exponent and fraction. -/
def ofBits (bits : UInt64) : Binary64 :=
  let word : Nat := bits.toNat
  let negative := decide (Nat.pow 2 63 ≤ word)
  let biased : Nat := word / Nat.pow 2 52 % Nat.pow 2 11
  let fraction : Nat := word % Nat.pow 2 52
  if biased = 2047 then if fraction = 0 then infinite negative else nan
  else if biased = 0 then finite negative fraction (-1074)
  else finite negative (Nat.pow 2 52 + fraction) ((biased : Int) - 1075)

def ofFloat (x : Float) : Binary64 := ofBits x.toBits

end Binary64

/-- A quotient of natural numbers, the form in which magnitudes are compared exactly. -/
structure Magnitude where
  num : Nat
  den : Nat
deriving DecidableEq, Repr

namespace Magnitude

/-- The number `mantissa * 2 ^ exponent`. -/
def ofBinary (mantissa : Nat) (exponent : Int) : Magnitude :=
  if 0 ≤ exponent then ⟨mantissa * Nat.pow 2 exponent.toNat, 1⟩
  else ⟨mantissa, Nat.pow 2 (-exponent).toNat⟩

/-- The number `q * 10 ^ places`. -/
def shift (q : Magnitude) (places : Int) : Magnitude :=
  if 0 ≤ places then ⟨q.num * Nat.pow 10 places.toNat, q.den⟩
  else ⟨q.num, q.den * Nat.pow 10 (-places).toNat⟩

def floor (q : Magnitude) : Nat := q.num / q.den

/-- The nearest natural number; of two equally near ones the even one. -/
def roundHalfEven (q : Magnitude) : Nat :=
  let whole := q.num / q.den
  let twice := 2 * (q.num % q.den)
  if q.den < twice || (twice = q.den && whole % 2 = 1) then whole + 1 else whole

/-- The power of ten of the leading digit. The lengths of numerator and denominator give it up to
one, and one comparison settles it. -/
def leadingPower (q : Magnitude) : Int :=
  let guess : Int := ((Nat.toDigits 10 q.num).length : Int) - (Nat.toDigits 10 q.den).length
  let scaled := q.shift (-guess)
  if scaled.den ≤ scaled.num then guess else guess - 1

end Magnitude

end RemoteDevice
