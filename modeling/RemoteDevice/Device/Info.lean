import RemoteDevice.Json.Record

/-!
What a device reports about itself; nothing until it has been asked.
-/
set_option autoImplicit false

namespace RemoteDevice

structure DeviceInfo where
  name : String := ""
  encoding : String := ""
  supportedProtocols : List String := []
  /-- Further facts, in the order of their names. -/
  extra : List (String × String) := []
deriving DecidableEq, Repr

namespace DeviceInfo

def isEmpty (i : DeviceInfo) : Bool := i = {}

def ofJson? (j : Json) : Option DeviceInfo := do
  let fields ← j.fields? ["name", "encoding", "supported_protocols", "extra"]
  match fields with
  | [name, encoding, protocols, extra] =>
    let extra ← match extra with
      | some j => j.textMap?
      | none => some []
    return {
      name := ← Json.textOr? "" name
      encoding := ← Json.textOr? "" encoding
      supportedProtocols := ← match protocols with
        | some j => j.texts?
        | none => some []
      extra := extra.mergeSort fun a b => a.1 ≤ b.1 }
  | _ => none

def toJson (i : DeviceInfo) : Json :=
  .object [("name", .text i.name), ("encoding", .text i.encoding),
    ("supported_protocols", .array (i.supportedProtocols.map .text)),
    ("extra", .object (i.extra.map fun (name, value) => (name, .text value)))]

end DeviceInfo

end RemoteDevice
