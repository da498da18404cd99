import RemoteDevice.Decimal.Integer

/-!
The commands of the program and the options of each.
-/
set_option autoImplicit false

namespace RemoteDevice.CommandLine

/-! ### Numbers in arguments -/

/-- Reads a port. The sign may be written, so zero may have a minus. -/
def readPort? (s : String) : Option UInt16 :=
  match Decimal.readInt64 s.toList with
  | .ok n => if 0 ≤ n ∧ n < 65536 then some (UInt16.ofNat n.toNatClampNeg) else none
  | .error _ => none

/-- Reads a count or a position. -/
def readCount? (s : String) : Option Nat :=
  match Decimal.readInteger 0 (UInt64.size - 1) s.toList with
  | .ok n => some n.toNat
  | .error _ => none

def readValue? (s : String) : Option Int64 :=
  (Decimal.readInt64 s.toList).toOption

/-- What is written after an option. -/
inductive ValueKind where
  | text
  | port
  | count
  /-- A number that may be negative; nothing is taken for an option in its place. -/
  | value
deriving DecidableEq, Repr

def ValueKind.accepts : ValueKind → String → Bool
  | text, _ => true
  | port, s => (readPort? s).isSome
  | count, s => (readCount? s).isSome
  | value, s => (readValue? s).isSome

structure OptionForm where
  name : String
  /-- What is written after the option, unless it is a flag. -/
  kind : Option ValueKind := some .text
  required : Bool := false
  /-- The value that counts if the option is not given. -/
  fallback : Option String := none
  help : String := ""
deriving DecidableEq, Repr

/-- An argument that is no option. -/
structure OperandForm where
  name : String
  help : String := ""
deriving DecidableEq, Repr

structure CommandForm where
  name : String
  help : String
  operand : Option OperandForm := none
  options : List OptionForm := []
deriving DecidableEq, Repr

namespace CommandForm

def option? (f : CommandForm) (name : String) : Option OptionForm :=
  f.options.find? fun o => o.name = name

def fallback? (f : CommandForm) (name : String) : Option String :=
  (f.option? name).bind OptionForm.fallback

end CommandForm

inductive Verb where
  | descriptorEncode
  | descriptorDecode
  | deviceList
  | deviceAdd
  | deviceRemove
  | deviceConnect
  | unitFormat
deriving DecidableEq, Repr

namespace Verb

def all : List Verb :=
  [descriptorEncode, descriptorDecode, deviceList, deviceAdd, deviceRemove, deviceConnect,
    unitFormat]

def registryOption (help : String) : OptionForm :=
  { name := "registry", fallback := some "configs/devices.yaml", help }

def form : Verb → CommandForm
  | descriptorEncode =>
    { name := "descriptor-encode"
      help := "Build a descriptor string from its fields"
      options := [
        { name := "name", required := true, help := "Display name" },
        { name := "host", required := true, help := "Host name or IP address" },
        { name := "port", kind := some .port, fallback := some "13110", help := "TCP port" },
        { name := "user", fallback := some "" },
        { name := "password", fallback := some "" },
        { name := "psk", help := "Pre-shared key for encrypted sessions" }] }
  | descriptorDecode =>
    { name := "descriptor-decode"
      help := "Parse and validate a descriptor string"
      operand := some { name := "descriptor" }
      options := [{ name := "json", kind := none, help := "Print the decoded fields as JSON" }] }
  | deviceList =>
    { name := "device-list"
      help := "List devices stored in a registry file"
      options := [
        registryOption "Registry YAML file",
        { name := "metrics", kind := none, help := "Print prometheus metrics after listing" }] }
  | deviceAdd =>
    { name := "device-add"
      help := "Add a TCP/IP device to a registry file"
      operand := some {
        name := "descriptor"
        help := "Descriptor string (tcpip://user:password:name:host:port:psk)" }
      options := [registryOption ""] }
  | deviceRemove =>
    { name := "device-remove"
      help := "Remove a device from a registry file by position"
      options := [registryOption "", { name := "index", kind := some .count, required := true }] }
  | deviceConnect =>
    { name := "device-connect"
      help := "Connect to a device, optionally send a probe line, then close"
      options := [
        registryOption "",
        { name := "index", kind := some .count, help := "Registry position of the device" },
        { name := "descriptor", help := "Descriptor string (instead of --index)" },
        { name := "timeout-ms", kind := some .count, fallback := some "10000"
          help := "Connect timeout in milliseconds" },
        { name := "probe"
          help := "Line to send after connecting; the first reply line is printed" },
        { name := "reply-ms", kind := some .count, fallback := some "2000"
          help := "Milliseconds to wait for the probe reply" },
        { name := "yes", kind := none, help := "Skip the confirmation prompt" }] }
  | unitFormat =>
    { name := "unit-format"
      help := "Format a raw value with a unit from a unit definitions file"
      options := [
        { name := "units", fallback := some "configs/units.yaml"
          help := "Unit definitions YAML file" },
        { name := "unit", required := true, help := "Unit name" },
        { name := "value", kind := some .value, required := true, help := "Raw value" }] }

/-- The command of a name. -/
def ofName? (name : String) : Option Verb := all.find? fun v => v.form.name = name

end Verb

end RemoteDevice.CommandLine
