import RemoteDevice.Text.Quoted

/-!
Why a template does not render, with the wording shown to people.
-/
set_option autoImplicit false

namespace RemoteDevice

/-- The two kinds of argument that a template can format. -/
inductive ArgumentKind where
  | integer
  | float
deriving DecidableEq, Repr

def ArgumentKind.name : ArgumentKind → String
  | integer => "integer"
  | float => "float"

/-- Largest accepted field width and precision. -/
def maxField : Nat := 1024

/-- Why a template is refused. Each cause carries the part of the template it is about. -/
inductive TemplateError where
  /-- A second directive asks for the only argument. -/
  | missingArgument (directive : String)
  /-- The conversion does not take this kind of argument. -/
  | illegalConversion (conversion : Char) (argument : ArgumentKind)
  | unknownConversion (directive : String)
  /-- Width or precision is above the limit; the template from the directive on. -/
  | oversize (rest : String)
deriving DecidableEq, Repr

namespace TemplateError

def kind : TemplateError → String
  | missingArgument _ => "MissingFormatArgument"
  | illegalConversion _ _ => "IllegalFormatConversion"
  | unknownConversion _ => "UnknownFormatConversion"
  | oversize _ => "InvalidTemplate"

def message : TemplateError → String
  | missingArgument d => "format specifier '" ++ d ++ "' has no argument"
  | illegalConversion c a =>
    "'%" ++ String.singleton c ++ "' cannot format a " ++ a.name ++ " value"
  | unknownConversion d => "unknown conversion '" ++ d ++ "'"
  | oversize rest =>
    "invalid template: width or precision above " ++ toString maxField ++ " in " ++
      Text.quoted rest

/-- The text shown in place of a value that could not be rendered. -/
def diagnostic (e : TemplateError) : String := e.kind ++ ": " ++ e.message

end TemplateError

end RemoteDevice
