import RemoteDevice.DisplayUnit.Conversion
import RemoteDevice.Property.Basic

/-!
A display unit: a named rule for showing raw whole numbers to people. A number is scaled by a
quotient and rendered with a template; an instant is rendered with a calendar pattern.
-/
set_option autoImplicit false

namespace RemoteDevice

/-- The quotient by which raw values are multiplied. -/
structure Scale where
  numerator : Int64 := 1
  denominator : Int64 := 1
deriving DecidableEq, Repr, Inhabited

namespace Scale

/-- Whether raw values are shown as they are, as whole numbers. -/
def isOne (s : Scale) : Bool := s.numerator == 1 && s.denominator == 1

def apply (s : Scale) (raw : Int64) : Float :=
  raw.toFloat * s.numerator.toFloat / s.denominator.toFloat

end Scale

structure DisplayUnit where
  name : String
  label : String
  /-- The template or pattern for showing a value. -/
  printFormat : String
  /-- The template or pattern for filling an input field with a value. -/
  editFormat : String
  scale : Scale
  conversion : Conversion
  editor : Option String
  /-- The properties without a meaning of their own, for whoever shows the unit. -/
  extra : Properties
deriving DecidableEq, Repr

def DisplayUnit.property (u : DisplayUnit) (key fallback : String) : String :=
  u.extra.getD key fallback

end RemoteDevice
