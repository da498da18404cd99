import RemoteDevice.Property.Basic

/-!
The written form of properties: pairs joined by `;`, name and text joined by `=`, and a backslash
before each character that would otherwise separate.
-/
set_option autoImplicit false

namespace RemoteDevice.Properties

/-- A character that has to be escaped to stand in a name or a text. -/
def isSpecial (c : Char) : Bool := c = ';' || c = '=' || c = '\\'

def escape : List Char → List Char
  | [] => []
  | c :: rest => if isSpecial c then '\\' :: c :: escape rest else c :: escape rest

def printPair (pair : String × String) : List Char :=
  escape pair.1.toList ++ '=' :: escape pair.2.toList

def printPairs : List (String × String) → List Char
  | [] => []
  | [pair] => printPair pair
  | pair :: rest => printPair pair ++ ';' :: printPairs rest

/-- The separators stand between the pairs. -/
theorem printPairs_eq_intercalate (pairs : List (String × String)) :
    printPairs pairs = [';'].intercalate (pairs.map printPair) := by
  induction pairs with
  | nil => rfl
  | cons pair rest ih =>
    cases rest with
    | nil => simp [printPairs]
    | cons next rest =>
      rw [printPairs, ih, List.map_cons, List.map_cons, List.map_cons, List.intercalate_cons_cons]
      · simp
      · simp

def print (p : Properties) : String := String.ofList (printPairs p.pairs)

end RemoteDevice.Properties
