import RemoteDevice.Calendar.Text
import RemoteDevice.DisplayUnit.Basic
import RemoteDevice.DisplayUnit.Error
import RemoteDevice.Template.Render

/-!
Showing raw values. An instant of zero is shown as nothing. An instant inside the calendar whose
local clock lies outside it has no text at all, neither of the value nor of an error; apart from
that every value is shown, if need be as the text of the error.
-/
set_option autoImplicit false

namespace RemoteDevice

/-- What comes of rendering one value. -/
inductive Rendering where
  | text (s : String)
  | refused (error : RenderError)
  /-- The local clock has left the calendar. -/
  | offCalendar
deriving DecidableEq, Repr

namespace Rendering

/-- The text to show, an error as its diagnostic. -/
def shown : Rendering → Option String
  | text s => some s
  | refused e => some e.diagnostic
  | offCalendar => none

end Rendering

/-- Renders an instant at a place. -/
def renderInstant (pattern : String) (raw : Int64) (place : Offset) : Rendering :=
  if raw = 0 then .text ""
  else
    match Calendar.Pattern.parse pattern with
    | .error e => .refused (.pattern e)
    | .ok items =>
      if !Calendar.covers raw.toInt then .refused (.outOfRange raw)
      else if !Calendar.covers (raw.toInt + place.seconds) then .offCalendar
      else .text (Calendar.write items ⟨raw.toInt, place⟩)

/-- Whether an instant is still to come. -/
inductive Activity where
  | active
  | inactive
deriving DecidableEq, Repr

def Activity.name : Activity → String
  | active => "Active"
  | inactive => "Inactive"

namespace DisplayUnit

/-- The argument for a template: the value itself, or the scaled value if there is a scale. -/
def argument (u : DisplayUnit) (raw : Int64) : Argument :=
  if u.scale.isOne then .int raw else .float (u.scale.apply raw)

def renderNumber (u : DisplayUnit) (template : String) (raw : Int64) : Rendering :=
  match Template.render template (u.argument raw) with
  | .ok s => .text s
  | .error e => .refused (.template e)

def render (u : DisplayUnit) (format : String) (raw : Int64) (place : Offset) : Rendering :=
  match u.conversion with
  | .none => u.renderNumber format raw
  | .unixSecondsUtc => renderInstant format raw .utc
  | .unixSecondsLocal => renderInstant format raw place

/-- Renders a value for reading. -/
def print (u : DisplayUnit) (raw : Int64) (place : Offset) : Rendering :=
  u.render u.printFormat raw place

/-- Renders a value for an input field. -/
def edit (u : DisplayUnit) (raw : Int64) (place : Offset) : Rendering :=
  u.render u.editFormat raw place

/-- An instant up to the current second is inactive; a number is always active. -/
def activityAt (u : DisplayUnit) (raw : Int64) (now : Int) : Activity :=
  if u.conversion.isTimestamp && raw.toInt ≤ now then .inactive else .active

end DisplayUnit

end RemoteDevice
