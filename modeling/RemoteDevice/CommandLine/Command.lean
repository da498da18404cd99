import RemoteDevice.CommandLine.Arguments
import RemoteDevice.Descriptor.Basic

/-!
Commands with the values of their arguments.
-/
set_option autoImplicit false

namespace RemoteDevice.CommandLine

/-- Which device to connect to: by its position in a registry, or by a written descriptor. At
most one of the two has to be given. -/
structure Target where
  registry : String
  index : Option Nat
  descriptor : Option String
deriving DecidableEq, Repr

/-- A line to send over a connection, and how many milliseconds to wait for what comes back. -/
structure Probe where
  line : String
  wait : Nat
deriving DecidableEq, Repr

inductive Command where
  | encodeDescriptor (d : Descriptor)
  | decodeDescriptor (text : String) (asJson : Bool)
  | listDevices (registry : String) (withMetrics : Bool)
  | addDevice (registry payload : String)
  | removeDevice (registry : String) (index : Nat)
  /-- The timeout is in milliseconds. -/
  | connectDevice (target : Target) (timeout : Nat) (probe : Option Probe)
      (skipConfirmation : Bool)
  | formatValue (definitions unit : String) (raw : Int64)
deriving DecidableEq, Repr

namespace Command

/-- The command that its arguments make, unless one is missing. -/
def ofArguments? (verb : Verb) (a : Arguments) : Option Command :=
  let get? := a.get? verb.form
  match verb with
  | .descriptorEncode => do
    let d := Descriptor.tcp (← get? "name") (← get? "host") (← (← get? "port") |> readPort?)
    let d := d.withCredentials (← get? "user") (← get? "password")
    return encodeDescriptor ((get? "psk").elim d d.withPsk)
  | .descriptorDecode => return decodeDescriptor (← a.operand) (a.has "json")
  | .deviceList => return listDevices (← get? "registry") (a.has "metrics")
  | .deviceAdd => return addDevice (← get? "registry") (← a.operand)
  | .deviceRemove => return removeDevice (← get? "registry") (← (← get? "index") |> readCount?)
  | .deviceConnect => do
    let target : Target :=
      { registry := ← get? "registry"
        index := (get? "index").bind readCount?
        descriptor := get? "descriptor" }
    let timeout ← (← get? "timeout-ms") |> readCount?
    let wait ← (← get? "reply-ms") |> readCount?
    let probe := (get? "probe").map fun line => { line, wait : Probe }
    return connectDevice target timeout probe (a.has "yes")
  | .unitFormat =>
    return formatValue (← get? "units") (← get? "unit") (← (← get? "value") |> readValue?)

/-- The file that a command reads or edits. -/
def file? : Command → Option String
  | encodeDescriptor _ | decodeDescriptor _ _ => none
  | listDevices registry _ | addDevice registry _ | removeDevice registry _ => some registry
  | connectDevice target _ _ _ => some target.registry
  | formatValue definitions _ _ => some definitions

end Command

/-- What is asked of the program; help may be about one of the commands. -/
inductive Request where
  | run (command : Command)
  | help (verb : Option Verb)
  | version
  | misuse
deriving DecidableEq, Repr

/-- What the arguments of the program ask for. -/
def Request.parse : List String → Request
  | [] => misuse
  | argument :: rest =>
    match Shape.of argument with
    | .long "help" none | .short 'h' => help none
    | .long "version" none | .short 'V' => version
    | .operand name =>
      match Verb.ofName? name with
      | none => misuse
      | some verb =>
        match Arguments.read verb.form rest with
        | .error .help => help (some verb)
        | .error _ => misuse
        | .ok a => (Command.ofArguments? verb a).elim misuse run
    | _ => misuse

def Request.file? : Request → Option String
  | run command => command.file?
  | _ => none

end RemoteDevice.CommandLine
