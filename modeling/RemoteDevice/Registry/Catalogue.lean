import RemoteDevice.Association
import RemoteDevice.Device.Payload
import RemoteDevice.Registry.Entry
import RemoteDevice.Text.Quoted

/-!
The types of devices that a program knows, each with its constructor. Of two constructors
registered under one name the later one counts.
-/
set_option autoImplicit false

namespace RemoteDevice

structure Catalogue where
  constructors : List (String × Constructor) := []

namespace Catalogue

def register (c : Catalogue) (typeName : String) (make : Constructor) : Catalogue :=
  ⟨(typeName, make) :: c.constructors.filter fun known => known.1 ≠ typeName⟩

instance : EmptyCollection Catalogue := ⟨{}⟩

/-- The types that are always known. -/
def standard (medium : Medium) : Catalogue :=
  (∅ : Catalogue).register tcpTypeName (Constructor.tcp medium)

def get? (c : Catalogue) (typeName : String) : Option Constructor :=
  c.constructors.lookup typeName

/-- The constructor registered last counts, and other types keep theirs. -/
theorem get?_register (c : Catalogue) (typeName other : String) (make : Constructor) :
    (c.register typeName make).get? other =
      if other = typeName then some make else c.get? other :=
  Association.lookup_cons_filter typeName other make c.constructors

def contains (c : Catalogue) (typeName : String) : Bool := (c.get? typeName).isSome

/-- The names of the types in the order of their characters. -/
def typeNames (c : Catalogue) : List String :=
  (c.constructors.map Prod.fst).mergeSort fun a b => a ≤ b

/-- What the catalogue knows, for diagnostics. -/
def text (c : Catalogue) : String :=
  "TypeRegistry \x7b types: [" ++ String.intercalate ", " (c.typeNames.map Text.quoted) ++ "] \x7d"

def blueprint (c : Catalogue) (e : Entry) : Except ConstructionError Blueprint :=
  match c.get? e.typeName with
  | none => .error .unregistered
  | some make => make e.payload

/-- Makes the device that an entry describes. Only a device that is made takes a session id. -/
def construct (c : Catalogue) (e : Entry) (hub : Hub) : Except DeviceError (Device × Hub) :=
  match c.blueprint e with
  | .error cause => .error (.reconstruction e.typeName cause)
  | .ok b => .ok (Device.create b hub)

/-- Makes the devices that entries describe, in their order, and passes over every entry of which
none can be made. -/
def reconstruct (c : Catalogue) (hub : Hub) : List Entry → List Device × Hub
  | [] => ([], hub)
  | e :: rest =>
    match c.construct e hub with
    | .error _ => c.reconstruct hub rest
    | .ok (d, hub) =>
      let (devices, hub) := c.reconstruct hub rest
      (d :: devices, hub)

end Catalogue

end RemoteDevice
