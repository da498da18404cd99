import RemoteDevice.Text.Blank
import RemoteDevice.Text.Quoted

/-!
What a raw value stands for: a number, or an instant in seconds since 1970 that is shown at
universal or at local time.
-/
set_option autoImplicit false

namespace RemoteDevice

inductive Conversion where
  | none
  | unixSecondsUtc
  | unixSecondsLocal
deriving DecidableEq, Repr, Inhabited

namespace Conversion

def isTimestamp : Conversion → Bool
  | none => false
  | _ => true

def name : Conversion → String
  | none => "none"
  | unixSecondsUtc => "unixSecondsUTC"
  | unixSecondsLocal => "unixSecondsLocal"

/-- The name that no conversion has. -/
structure UnknownName where
  name : String
deriving DecidableEq, Repr

def UnknownName.message (e : UnknownName) : String :=
  "unknown conversion " ++ Text.quoted e.name ++
    " (expected none, unixSecondsUTC or unixSecondsLocal)"

/-- Equality up to the case of the letters A to Z. -/
def sameLetters (a b : String) : Bool := a.toList.map Char.toLower == b.toList.map Char.toLower

/-- The conversion with the given name, without regard to case or surrounding blanks; a blank name
is that of no conversion. -/
def ofName (text : String) : Except UnknownName Conversion :=
  let name := Text.trim text
  if name.isEmpty || sameLetters name "none" then .ok none
  else if sameLetters name "unixSecondsUTC" then .ok unixSecondsUtc
  else if sameLetters name "unixSecondsLocal" then .ok unixSecondsLocal
  else .error ⟨name⟩

end Conversion

end RemoteDevice
