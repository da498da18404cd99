import RemoteDevice.Descriptor.Basic
import RemoteDevice.Json.Record

/-!
Descriptors as JSON. A descriptor without a key has no member for it.
-/
set_option autoImplicit false

namespace RemoteDevice.Descriptor

def ofJson? (j : Json) : Option Descriptor := do
  let fields ← j.fields? ["type_tag", "name", "user", "password", "host", "port", "psk"]
  match fields with
  | [some tag, some name, user, password, some host, some port, psk] =>
    return {
      tag := ← tag.text?
      name := ← name.text?
      user := ← Json.textOr? "" user
      password := ← Json.textOr? "" password
      host := ← host.text?
      port := UInt16.ofNat (← port.natBelow? 65536)
      psk := ← Json.optionalText? psk }
  | _ => none

def toJson (d : Descriptor) : Json :=
  .object ([("type_tag", .text d.tag), ("name", .text d.name), ("user", .text d.user),
    ("password", .text d.password), ("host", .text d.host), ("port", .int d.port.toNat)] ++
    (d.psk.map fun key => ("psk", Json.text key)).toList)

/-- A record with all texts given. The port stays a value of its own here: with a number in its
place the bound would be reckoned with. -/
theorem ofJson?_of_fields {j port : Json} {tag name user password host : String} {n : Nat}
    {psk : Option Json} {key : Option String}
    (given : j.fields? ["type_tag", "name", "user", "password", "host", "port", "psk"] =
      some [some (.text tag), some (.text name), some (.text user), some (.text password),
        some (.text host), some port, psk])
    (port_read : port.natBelow? 65536 = some n) (key_read : Json.optionalText? psk = some key) :
    ofJson? j =
      some { tag, name, user, password, host, port := UInt16.ofNat n, psk := key } := by
  rw [ofJson?, given]
  simp [Json.text?, Json.textOr?, port_read, key_read]

/-- A descriptor that was written comes back. -/
theorem ofJson?_toJson (d : Descriptor) : ofJson? d.toJson = some d := by
  have given : d.toJson.fields? ["type_tag", "name", "user", "password", "host", "port", "psk"] =
      some [some (.text d.tag), some (.text d.name), some (.text d.user), some (.text d.password),
        some (.text d.host), some (.int d.port.toNat), d.psk.map Json.text] := by
    cases key : d.psk <;> simp [toJson, key, Json.fields?, List.lookup_cons]
  have port_read := Json.natBelow?_int d.port.toNat_lt
  have key_read := Json.optionalText?_map d.psk
  rw [ofJson?_of_fields given port_read key_read, UInt16.ofNat_toNat]

end RemoteDevice.Descriptor
