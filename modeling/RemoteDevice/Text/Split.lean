/-!
Cutting a text: into the fields between a separator character, and once at the first occurrence of
a separator text. `split` always yields at least one field, and one field more than there are
separators.
-/
set_option autoImplicit false

namespace RemoteDevice.Text

/-- The fields of `l` between the occurrences of `sep`. -/
def split (sep : Char) : List Char → List (List Char)
  | [] => [[]]
  | c :: r =>
    if c = sep then [] :: split sep r
    else
      match split sep r with
      | [] => [[c]]
      | f :: fs => (c :: f) :: fs

/-- What stands before and after the first occurrence of `sep`, if there is one. -/
def cutAt (sep : List Char) : List Char → Option (List Char × List Char)
  | [] => if sep.isEmpty then some ([], []) else none
  | c :: r =>
    if sep.isPrefixOf (c :: r) then some ([], (c :: r).drop sep.length)
    else (cutAt sep r).map fun cut => (c :: cut.1, cut.2)

theorem split_ne_nil (sep : Char) (l : List Char) : split sep l ≠ [] := by
  induction l with
  | nil => simp [split]
  | cons c r _ =>
    simp only [split]
    split
    · simp
    · split <;> simp

theorem length_split (sep : Char) (l : List Char) : (split sep l).length = l.count sep + 1 := by
  induction l with
  | nil => rfl
  | cons c r ih =>
    simp only [split]
    by_cases h : c = sep
    · simp [h, ih]
    · cases hs : split sep r with
      | nil => exact absurd hs (split_ne_nil sep r)
      | cons f fs => simp_all

/-- A cut loses nothing. -/
theorem append_of_cutAt {sep l a b : List Char} (h : cutAt sep l = some (a, b)) :
    l = a ++ sep ++ b := by
  induction l generalizing a b with
  | nil =>
    cases sep with
    | nil => simp_all [cutAt]
    | cons x xs => simp [cutAt] at h
  | cons c r ih =>
    simp only [cutAt] at h
    split at h
    next starts =>
      obtain ⟨t, ht⟩ := List.isPrefixOf_iff_prefix.mp starts
      simp only [Option.some.injEq, Prod.mk.injEq] at h
      obtain ⟨rfl, rfl⟩ := h
      simp [← ht]
    next =>
      obtain ⟨⟨a', b'⟩, hcut, hpair⟩ := Option.map_eq_some_iff.mp h
      simp only [Prod.mk.injEq] at hpair
      obtain ⟨rfl, rfl⟩ := hpair
      simp [ih hcut]

end RemoteDevice.Text
