import RemoteDevice.Decimal.Binary64

/-!
Decimal texts with a chosen number of places after the point, positional or with a power of ten.
The exact value is rounded once, halves to the even neighbour.
-/
set_option autoImplicit false

namespace RemoteDevice.Decimal

/-- Digits before and after the decimal point. -/
structure Positional where
  whole : List Char
  fraction : List Char
deriving DecidableEq, Repr

namespace Positional

/-- The point is written only where digits follow it. -/
def text (p : Positional) : List Char :=
  if p.fraction.isEmpty then p.whole else p.whole ++ '.' :: p.fraction

/-- The number `n / 10 ^ places`, with one digit at least before the point. -/
def ofScaled (n places : Nat) : Positional :=
  let digits := Nat.toDigits 10 n
  let padded := List.replicate (places + 1 - digits.length) '0' ++ digits
  ⟨padded.take (padded.length - places), padded.drop (padded.length - places)⟩

end Positional

/-- The magnitude rounded to `places` digits after the point. -/
def fixed (q : Magnitude) (places : Nat) : Positional :=
  Positional.ofScaled (q.shift places).roundHalfEven places

/-- A decimal number with one digit before the point, times a power of ten. -/
structure Scientific where
  significand : Positional
  power : Int
deriving DecidableEq, Repr

/-- The magnitude rounded to `places` digits after the leading one. Rounding up to the next power
of ten moves the leading digit. -/
def scientific (q : Magnitude) (places : Nat) : Scientific :=
  if q.num = 0 then ⟨Positional.ofScaled 0 places, 0⟩
  else
    let power := q.leadingPower
    let n := (q.shift (places - power)).roundHalfEven
    if n < Nat.pow 10 (places + 1) then ⟨Positional.ofScaled n places, power⟩
    else ⟨Positional.ofScaled (n / 10) places, power + 1⟩

end RemoteDevice.Decimal
