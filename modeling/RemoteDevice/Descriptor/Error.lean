import RemoteDevice.Text.Quoted

/-!
Why a descriptor cannot be written and why a text is not one.
-/
set_option autoImplicit false

namespace RemoteDevice

inductive DescriptorField where
  | tag
  | port
  | user
  | password
  | name
  | host
  | psk
deriving DecidableEq, Repr

def DescriptorField.label : DescriptorField → String
  | tag => "type_tag"
  | port => "port"
  | user => "user"
  | password => "password"
  | name => "name"
  | host => "host"
  | psk => "psk"

/-- What keeps a field from being written. -/
inductive FieldFault where
  | badTag (tag : String)
  | zeroPort
  | delimiter
  | lineBreak
  | blankHost
  | paddedHost
deriving DecidableEq, Repr

def FieldFault.message : FieldFault → String
  | badTag tag =>
    "transport tag must be non-empty ASCII alphanumeric, got " ++ Text.quoted tag
  | zeroPort => "port must be in 1..=65535"
  | delimiter => "contains the delimiter ':'"
  | lineBreak => "contains a line break"
  | blankHost => "host must not be empty"
  | paddedHost => "host has surrounding whitespace"

structure FieldError where
  field : DescriptorField
  fault : FieldFault
deriving DecidableEq, Repr

def FieldError.message (e : FieldError) : String :=
  "field `" ++ e.field.label ++ "` cannot be encoded: " ++ e.fault.message

/-- Why a text is no descriptor. -/
inductive FormatError where
  | noScheme
  | badTag (error : FieldError)
  | fieldCount (found : Nat)
  | portNotNumber (text : String)
  | portOutOfRange (text : String)
  | otherTag (expected found : String)
deriving DecidableEq, Repr

def FormatError.message : FormatError → String
  | noScheme => "missing '<tag>://' prefix"
  | badTag e => e.message
  | fieldCount found => "expected 6 fields, found " ++ toString found
  | portNotNumber text => "port is not a number: " ++ Text.quoted text
  | portOutOfRange text => "port out of range 1..=65535: " ++ Text.quoted text
  | otherTag expected found =>
    "expected '" ++ expected ++ "://' descriptor, found '" ++ found ++ "://'"

end RemoteDevice
