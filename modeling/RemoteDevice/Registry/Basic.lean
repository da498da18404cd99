import RemoteDevice.Registry.Catalogue
import RemoteDevice.Registry.Store

/-!
Registries: ordered lists of entries, which are loaded from a store and saved to one. An
unreadable store can be taken for an empty one, unless it is going to be overwritten.
-/
set_option autoImplicit false

namespace RemoteDevice

structure Registry where
  entries : List Entry := []
  /-- Whether reconstructions are counted. -/
  metered : Bool := false
deriving DecidableEq, Repr

namespace Registry

instance : EmptyCollection Registry := ⟨{}⟩

def ofEntries (entries : List Entry) : Registry := { entries }

/-- The registry in a store; what cannot be read counts as nothing stored. -/
def load (s : Store) : Registry :=
  match s.read with
  | .ok (some entries) => ofEntries entries
  | _ => ∅

/-- The registry in a store that is going to be written back. -/
def tryLoad (s : Store) : Except StoreError Registry :=
  s.read.map fun entries => ofEntries (entries.getD [])

def save (r : Registry) (s : Store) : Except StoreError Store := s.write r.entries

def withMetrics (r : Registry) : Registry := { r with metered := true }

def size (r : Registry) : Nat := r.entries.length

def isEmpty (r : Registry) : Bool := r.entries.isEmpty

def insert (r : Registry) (e : Entry) : Registry := { r with entries := r.entries ++ [e] }

/-- Appends the entry of a device. -/
def addDevice (r : Registry) (d : Device) : Except FieldError Registry :=
  d.serialize.map fun payload => r.insert ⟨d.typeName, payload⟩

/-- Takes out the entry at a position, if there is one. -/
def remove (r : Registry) (index : Nat) : Option (Entry × Registry) :=
  r.entries[index]?.map fun e => (e, { r with entries := r.entries.eraseIdx index })

/-- Makes the devices of all entries of which one can be made, and counts the others. -/
def reconstruct (r : Registry) (c : Catalogue) (hub : Hub) : List Device × Hub :=
  let (devices, hub) := c.reconstruct hub r.entries
  (devices,
    if r.metered then
      hub.modifyMetrics fun m =>
        { m with
          devicesLoaded := devices.length
          entriesSkipped := m.entriesSkipped + (r.size - devices.length) }
    else hub)

end Registry

end RemoteDevice
