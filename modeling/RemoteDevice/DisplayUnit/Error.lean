import RemoteDevice.Calendar.Pattern
import RemoteDevice.Decimal.Integer
import RemoteDevice.DisplayUnit.Conversion
import RemoteDevice.Property.Parser
import RemoteDevice.Template.Error

/-!
Why a unit's configuration is refused and why a value cannot be rendered.
-/
set_option autoImplicit false

namespace RemoteDevice

/-- What is wrong with one field of a configuration. -/
inductive ConfigReason where
  | property (error : PropertyError)
  | conversion (error : Conversion.UnknownName)
  | notPositive (value : Int)
  | notInteger (text : String) (error : Decimal.IntegerError)
  | template (error : TemplateError)
  | pattern (error : Calendar.PatternError)
deriving DecidableEq, Repr

def ConfigReason.message : ConfigReason → String
  | property e => e.message
  | conversion e => e.message
  | notPositive v => "must be a positive integer, got " ++ toString v
  | notInteger text e => "not an integer (" ++ Text.quoted text ++ "): " ++ e.message
  | template e => e.message
  | pattern e => e.message

/-- A refused configuration: the unit, the field at fault and the reason. -/
structure ConfigError where
  unit : String
  field : String
  reason : ConfigReason
deriving DecidableEq, Repr

def ConfigError.message (e : ConfigError) : String :=
  "unit `" ++ e.unit ++ "`: invalid `" ++ e.field ++ "`: " ++ e.reason.message

/-- Why a value cannot be rendered. -/
inductive RenderError where
  | template (error : TemplateError)
  | pattern (error : Calendar.PatternError)
  /-- The instant lies outside the calendar. -/
  | outOfRange (raw : Int64)
deriving DecidableEq, Repr

namespace RenderError

def kind : RenderError → String
  | template e => e.kind
  | pattern _ => "InvalidTemplate"
  | outOfRange _ => "OutOfRange"

def message : RenderError → String
  | template e => e.message
  | pattern e => "invalid template: " ++ e.message
  | outOfRange raw => "timestamp " ++ toString raw.toInt ++ " is out of range"

/-- The text shown in place of the value. -/
def diagnostic (e : RenderError) : String := e.kind ++ ": " ++ e.message

end RenderError

end RemoteDevice
