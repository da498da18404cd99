/-!
Properties: named texts in the order in which the names were first given. Giving a name again
keeps its place and replaces its text; names are pairwise distinct in every value that the
operations build from the empty one.
-/
set_option autoImplicit false

namespace RemoteDevice

structure Properties where
  pairs : List (String × String) := []
deriving DecidableEq, Repr, Inhabited

namespace Properties

instance : EmptyCollection Properties := ⟨{}⟩

/-- The text of the first pair named `key`. -/
def get? (p : Properties) (key : String) : Option String := p.pairs.lookup key

def getD (p : Properties) (key fallback : String) : String := (p.get? key).getD fallback

/-- Replaces the text of the first pair named `key`, or adds a pair at the end. -/
def insertPair (key value : String) : List (String × String) → List (String × String)
  | [] => [(key, value)]
  | (k, v) :: rest => if k = key then (k, value) :: rest else (k, v) :: insertPair key value rest

def insert (p : Properties) (key value : String) : Properties :=
  ⟨insertPair key value p.pairs⟩

/-- Drops the first pair named `key`. -/
def erasePair (key : String) : List (String × String) → List (String × String)
  | [] => []
  | (k, v) :: rest => if k = key then rest else (k, v) :: erasePair key rest

def erase (p : Properties) (key : String) : Properties := ⟨erasePair key p.pairs⟩

/-- The text under `key` together with the properties that remain without it. -/
def take (p : Properties) (key : String) : Option String × Properties :=
  (p.get? key, p.erase key)

def size (p : Properties) : Nat := p.pairs.length

def isEmpty (p : Properties) : Bool := p.pairs.isEmpty

/-- The pairs inserted one after the other, from the left. -/
def insertAll (p : Properties) (pairs : List (String × String)) : Properties :=
  pairs.foldl (fun acc pair => acc.insert pair.1 pair.2) p

def keys (p : Properties) : List String := p.pairs.map Prod.fst

end Properties

end RemoteDevice
