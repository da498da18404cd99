import RemoteDevice.Json.Value

/-!
Reading records from JSON: from an object, whose other members are ignored, or from an array of
the fields in their order, which may stop before fields that can be left out.
-/
set_option autoImplicit false

namespace RemoteDevice.Json

/-- The fields of a record, each given or left out; none if the value is no record of that many
fields. -/
def fields? (names : List String) : Json → Option (List (Option Json))
  | object members => some (names.map fun name => members.lookup name)
  | array items =>
    if items.length ≤ names.length then
      some (items.map some ++ List.replicate (names.length - items.length) none)
    else none
  | _ => none

def text? : Json → Option String
  | text s => some s
  | _ => none

/-- A whole number within bounds. -/
def natBelow? (bound : Nat) : Json → Option Nat
  | number n 0 => if 0 ≤ n ∧ n < bound then some n.toNat else none
  | _ => none

theorem natBelow?_int {bound n : Nat} (below : n < bound) :
    (int n).natBelow? bound = some n := by
  have within : (0 : Int) ≤ n ∧ (n : Int) < bound :=
    ⟨Int.natCast_nonneg n, Int.ofNat_lt.mpr below⟩
  rw [int, natBelow?, if_pos within, Int.toNat_natCast]

/-- A text that may be left out, but not be anything else. -/
def textOr? (fallback : String) : Option Json → Option String
  | none => some fallback
  | some j => j.text?

/-- A text that may be left out or be null. -/
def optionalText? : Option Json → Option (Option String)
  | none | some null => some none
  | some j => j.text?.map some

theorem optionalText?_map (s : Option String) : optionalText? (s.map text) = some s := by
  cases s <;> rfl

def texts? : Json → Option (List String)
  | array items => items.mapM text?
  | _ => none

/-- An object whose members are texts. -/
def textMap? : Json → Option (List (String × String))
  | object members => members.mapM fun (name, value) => value.text?.map fun s => (name, s)
  | _ => none

end RemoteDevice.Json
