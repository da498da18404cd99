import RemoteDevice.DisplayUnit.Parser

/-!
The units known so far, by name. A unit that is there stays as it is: the first one of a name
wins, and every later one of that name is answered with it.
-/
set_option autoImplicit false

namespace RemoteDevice

structure UnitCache where
  entries : List (String × DisplayUnit) := []
deriving DecidableEq, Repr

namespace UnitCache

instance : EmptyCollection UnitCache := ⟨{}⟩

def get? (c : UnitCache) (name : String) : Option DisplayUnit := c.entries.lookup name

/-- The unit that is known under the name of `u` afterwards, and the units then known. -/
def insert (c : UnitCache) (u : DisplayUnit) : DisplayUnit × UnitCache :=
  match c.get? u.name with
  | some known => (known, c)
  | none => (u, ⟨c.entries ++ [(u.name, u)]⟩)

/-- Inserts units one after the other. -/
def insertAll (c : UnitCache) : List DisplayUnit → List DisplayUnit × UnitCache
  | [] => ([], c)
  | u :: rest =>
    let (known, c) := c.insert u
    let (others, c) := c.insertAll rest
    (known :: others, c)

/-- The unit known under a name; only for an unknown name the configuration is looked at. -/
def getOrParse (c : UnitCache) (name config : String) :
    Except ConfigError (DisplayUnit × UnitCache) :=
  match c.get? name with
  | some known => .ok (known, c)
  | none => (DisplayUnit.parse name config).map c.insert

/-- The names in the order of their characters. -/
def names (c : UnitCache) : List String := (c.entries.map Prod.fst).mergeSort fun a b => a ≤ b

def size (c : UnitCache) : Nat := c.entries.length

def isEmpty (c : UnitCache) : Bool := c.entries.isEmpty

end UnitCache

end RemoteDevice
