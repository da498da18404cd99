import RemoteDevice.Decimal.Integer
import RemoteDevice.Descriptor.Encoder
import RemoteDevice.Text.Split

/-!
Reading a descriptor. The text is cut at the first `://`, and what follows at every colon. The
host may be left out and may have blanks around it, the port too may have blanks around it.
-/
set_option autoImplicit false

namespace RemoteDevice.Descriptor

def localHost : String := "localhost"

/-- Reads a port: decimal digits with a value from 1 to 65535, of any length. -/
def readPort (text : List Char) : Except FormatError UInt16 :=
  let digits := Text.trimChars text
  if digits.isEmpty || !digits.all Char.isDigit then .error (.portNotNumber (String.ofList text))
  else
    match Decimal.readDigits 65535 .tooLarge 0 digits with
    | .ok n => if n = 0 then .error (.portOutOfRange (String.ofList text)) else .ok (UInt16.ofNat n)
    | .error _ => .error (.portOutOfRange (String.ofList text))

def readHost (text : List Char) : String :=
  let host := Text.trimChars text
  if host.isEmpty then localHost else String.ofList host

def ofFields (tag : String) : List (List Char) → Except FormatError Descriptor
  | [user, password, name, host, port, psk] => do
    let port ← readPort port
    return {
      tag, port
      user := String.ofList user
      password := String.ofList password
      name := String.ofList name
      host := readHost host
      psk := storedPsk (String.ofList psk) }
  | fields => .error (.fieldCount fields.length)

def decode (text : String) : Except FormatError Descriptor :=
  match Text.cutAt [':', '/', '/'] text.toList with
  | none => .error .noScheme
  | some (tag, rest) =>
    match checkTag (String.ofList tag) with
    | .error e => .error (.badTag e)
    | .ok _ => ofFields (String.ofList tag) (Text.split ':' rest)

/-- Reads a descriptor that has to have the given tag. -/
def decodeAs (tag text : String) : Except FormatError Descriptor := do
  let d ← decode text
  if d.tag = tag then return d else throw (.otherTag tag d.tag)

end RemoteDevice.Descriptor
