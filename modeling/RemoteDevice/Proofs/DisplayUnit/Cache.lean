import Mathlib.Data.List.Nodup
import RemoteDevice.Association
import RemoteDevice.DisplayUnit.Cache
import RemoteDevice.Proofs.DisplayUnit.Resolved

/-!
# The units that a cache knows

Inserting adds a unit only under a name that has none, and whatever it answers with is known from
then on.
-/
set_option autoImplicit false

namespace RemoteDevice

theorem DisplayUnit.name_of_parse {name config : String} {u : DisplayUnit}
    (accepted : parse name config = .ok u) : u.name = name := by
  obtain ⟨m, -, described⟩ := reads_of_parse accepted
  rw [← described]
  rfl

namespace UnitCache

variable {c : UnitCache} {u known : DisplayUnit} {name : String}

theorem insert_of_known (there : c.get? u.name = some known) : c.insert u = (known, c) := by
  rw [insert, there]

theorem insert_of_unknown (unknown : c.get? u.name = none) :
    c.insert u = (u, ⟨c.entries ++ [(u.name, u)]⟩) := by
  rw [insert, unknown]

theorem get?_append (l : List (String × DisplayUnit)) (c : UnitCache) (name : String) :
    get? ⟨c.entries ++ l⟩ name = (c.get? name).or (l.lookup name) :=
  List.lookup_append

/-- What is known stays known. -/
theorem get?_insert_of_known (there : c.get? name = some known) (u : DisplayUnit) :
    (c.insert u).2.get? name = some known := by
  cases own : c.get? u.name with
  | some first => rw [insert_of_known own, there]
  | none => rw [insert_of_unknown own, get?_append, there, Option.some_or]

/-- What an insertion answers with is known afterwards. -/
theorem get?_insert_self (c : UnitCache) (u : DisplayUnit) :
    (c.insert u).2.get? u.name = some (c.insert u).1 := by
  cases own : c.get? u.name with
  | some first => rw [insert_of_known own, own]
  | none =>
    rw [insert_of_unknown own, get?_append, own, Option.none_or,
      Association.lookup_cons_eq_ite, if_pos rfl]

theorem mem_entries_insert {entry : String × DisplayUnit}
    (member : entry ∈ (c.insert u).2.entries) : entry ∈ c.entries ∨ entry = (u.name, u) := by
  cases own : c.get? u.name with
  | some first =>
    rw [insert_of_known own] at member
    exact .inl member
  | none =>
    rw [insert_of_unknown own] at member
    exact (List.mem_append.mp member).imp_right List.mem_singleton.mp

/-- No name has two entries. -/
def Distinct (c : UnitCache) : Prop := (c.entries.map Prod.fst).Nodup

theorem distinct_empty : Distinct ∅ := List.nodup_nil

theorem Distinct.insert (h : c.Distinct) (u : DisplayUnit) : (c.insert u).2.Distinct := by
  cases own : c.get? u.name with
  | some first =>
    rw [insert_of_known own]
    exact h
  | none =>
    have absent : u.name ∉ c.entries.map Prod.fst := Association.lookup_eq_none_iff.mp own
    rw [insert_of_unknown own, Distinct, List.map_append, List.map_singleton]
    exact List.Nodup.append h (List.nodup_singleton _) (List.disjoint_singleton.mpr absent)

end UnitCache

end RemoteDevice
