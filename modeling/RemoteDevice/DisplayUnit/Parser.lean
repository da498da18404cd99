import RemoteDevice.DisplayUnit.Basic
import RemoteDevice.DisplayUnit.Error
import RemoteDevice.Template.Render

/-!
Reading a unit from its configuration, a property text. The fields are checked in a fixed order
and the first one at fault decides the error. A template is checked by rendering a zero, because
whether a template renders does not depend on the value.
-/
set_option autoImplicit false

namespace RemoteDevice

namespace ConfigReason

/-- Names the unit and the field at fault. -/
def locate {α : Type} (unit field : String) : Except ConfigReason α → Except ConfigError α
  | .ok a => .ok a
  | .error reason => .error ⟨unit, field, reason⟩

end ConfigReason

namespace DisplayUnit

/-- The properties with a meaning of their own. -/
def recognized : List String :=
  ["conversion", "numerator", "denominator", "formatString", "valueString", "label", "editor"]

/-- The pattern of instants for which the configuration gives none. -/
def standardPattern : String := "[year]-[month]-[day] [hour]:[minute]:[second]"

def readConversion : Option String → Except ConfigReason Conversion
  | none => .ok .none
  | some text =>
    match Conversion.ofName text with
    | .ok c => .ok c
    | .error e => .error (.conversion e)

/-- Reads one side of the scale, which is 1 unless it is given. -/
def readScalePart : Option String → Except ConfigReason Int64
  | none => .ok 1
  | some text =>
    match Decimal.readInt64 (Text.trimChars text.toList) with
    | .error e => .error (.notInteger text e)
    | .ok n => if 1 ≤ n then .ok n else .error (.notPositive n.toInt)

/-- The argument that stands for all values when a template is checked. -/
def sample (scale : Scale) : Argument := if scale.isOne then .int 0 else .float 0.0

def checkFormat (conversion : Conversion) (scale : Scale) (format : String) :
    Except ConfigReason Unit :=
  if conversion.isTimestamp then
    match Calendar.Pattern.parse format with
    | .ok _ => .ok ()
    | .error e => .error (.pattern e)
  else
    match Template.render format (sample scale) with
    | .ok _ => .ok ()
    | .error e => .error (.template e)

def standardFormat (conversion : Conversion) (scale : Scale) : String :=
  if conversion.isTimestamp then standardPattern else if scale.isOne then "%d" else "%f"

/-- The unit that some properties describe. -/
def ofProperties (name : String) (m : Properties) : Except ConfigError DisplayUnit := do
  let conversion ← ConfigReason.locate name "conversion" (readConversion (m.get? "conversion"))
  let numerator ← ConfigReason.locate name "numerator" (readScalePart (m.get? "numerator"))
  let denominator ← ConfigReason.locate name "denominator" (readScalePart (m.get? "denominator"))
  let scale : Scale := ⟨numerator, denominator⟩
  let printFormat := m.getD "formatString" (standardFormat conversion scale)
  let editFormat := m.getD "valueString" printFormat
  ConfigReason.locate name "formatString" (checkFormat conversion scale printFormat)
  ConfigReason.locate name "valueString" (checkFormat conversion scale editFormat)
  return {
    name, printFormat, editFormat, scale, conversion
    label := m.getD "label" name
    editor := (m.get? "editor").filter fun e => !e.isEmpty
    extra := recognized.foldl Properties.erase m }

def parse (name config : String) : Except ConfigError DisplayUnit :=
  match Properties.parse config with
  | .error e => .error ⟨name, e.segment, .property e⟩
  | .ok m => ofProperties name m

end DisplayUnit

end RemoteDevice
