import RemoteDevice.Text.Split

/-!
# Splitting and cutting what was put together

Splitting undoes joining with the separator, for texts without it, and a text that was put in front
of a separator text is cut off again if it lacks the separator's first character.
-/
set_option autoImplicit false

namespace RemoteDevice.Text

section

variable {α : Type} [DecidableEq α]

theorem not_mem_of_mem_splitOn {sep : α} {l part : List α} (member : part ∈ l.splitOn sep) :
    sep ∉ part := by
  induction l generalizing part with
  | nil =>
    have empty : part = [] := by simpa using member
    simp [empty]
  | cons a l ih =>
    rw [List.splitOn_cons_eq_if_modifyHead] at member
    by_cases same : a = sep
    · rw [if_pos (by simp [same]), List.mem_cons] at member
      rcases member with rfl | later
      · simp
      · exact ih later
    · rw [if_neg (by simp [same])] at member
      cases parts : l.splitOn sep with
      | nil => exact absurd parts (List.splitOn_ne_nil sep l)
      | cons first more =>
        rw [parts] at member ih
        rcases List.mem_cons.mp member with rfl | later
        · have head := ih List.mem_cons_self
          simp [head, Ne.symm same]
        · exact ih (List.mem_cons_of_mem first later)

/-- A list is split in the one way in which joining gives it back and no part holds the
separator. -/
theorem splitOn_eq_iff {sep : α} {l : List α} {parts : List (List α)} :
    l.splitOn sep = parts ↔
      [sep].intercalate parts = l ∧ parts ≠ [] ∧ ∀ part ∈ parts, sep ∉ part := by
  constructor
  · rintro rfl
    exact ⟨List.intercalate_splitOn sep, List.splitOn_ne_nil sep l,
      fun part member => not_mem_of_mem_splitOn member⟩
  · rintro ⟨rfl, some, free⟩
    exact List.splitOn_intercalate sep free some

omit [DecidableEq α] in
theorem mem_intercalate {sep : List α} {parts : List (List α)} {a : α}
    (member : a ∈ sep.intercalate parts) : a ∈ sep ∨ ∃ part ∈ parts, a ∈ part := by
  induction parts with
  | nil => simp at member
  | cons first rest ih =>
    cases rest with
    | nil => exact .inr ⟨first, List.mem_cons_self, by simpa using member⟩
    | cons second more =>
      rw [List.intercalate_cons_cons, List.mem_append, List.mem_append] at member
      rcases member with (here | between) | later
      · exact .inr ⟨first, List.mem_cons_self, here⟩
      · exact .inl between
      · rcases ih later with between | ⟨part, among, inside⟩
        · exact .inl between
        · exact .inr ⟨part, List.mem_cons_of_mem first among, inside⟩

omit [DecidableEq α] in
theorem intercalate_append (sep : List α) {parts others : List (List α)} (some : parts ≠ [])
    (some' : others ≠ []) :
    sep.intercalate (parts ++ others) = sep.intercalate parts ++ sep ++ sep.intercalate others := by
  induction parts with
  | nil => exact absurd rfl some
  | cons first rest ih =>
    cases rest with
    | nil => simp [List.intercalate_cons_of_ne_nil some']
    | cons second more =>
      rw [List.cons_append, List.cons_append, List.intercalate_cons_cons, ← List.cons_append,
        ih (List.cons_ne_nil second more), List.intercalate_cons_cons]
      simp only [List.append_assoc]

omit [DecidableEq α] in
theorem subset_intercalate {part : List α} {parts : List (List α)} (sep : List α)
    (member : part ∈ parts) : part ⊆ sep.intercalate parts := by
  induction parts with
  | nil => cases member
  | cons first rest ih =>
    cases rest with
    | nil =>
      rw [List.mem_singleton.mp member]
      simp
    | cons second more =>
      intro a inside
      rw [List.intercalate_cons_cons, List.mem_append, List.mem_append]
      rcases List.mem_cons.mp member with rfl | later
      · exact .inl (.inl inside)
      · exact .inr (ih later inside)

omit [DecidableEq α] in
theorem flatMap_intercalate {β : Type} (f : α → List β) (sep : List α) (parts : List (List α)) :
    (sep.intercalate parts).flatMap f =
      (sep.flatMap f).intercalate (parts.map fun part => part.flatMap f) := by
  induction parts with
  | nil => simp
  | cons first rest ih =>
    cases rest with
    | nil => simp
    | cons second more =>
      rw [List.intercalate_cons_cons, List.flatMap_append, List.flatMap_append, ih]
      simp only [List.map_cons, List.intercalate_cons_cons]

end

theorem split_eq_splitOn (sep : Char) (l : List Char) : split sep l = l.splitOn sep := by
  induction l with
  | nil => rfl
  | cons c r ih =>
    rw [split, List.splitOn_cons_eq_if_modifyHead, ih]
    by_cases same : c = sep
    · simp [same]
    · have miss : (c == sep) = false := by simp [same]
      rw [if_neg same, miss]
      cases fields : r.splitOn sep with
      | nil => exact absurd fields (List.splitOn_ne_nil sep r)
      | cons f fs => rfl

theorem split_eq_iff {sep : Char} {l : List Char} {fields : List (List Char)} :
    split sep l = fields ↔
      [sep].intercalate fields = l ∧ fields ≠ [] ∧ ∀ field ∈ fields, sep ∉ field := by
  rw [split_eq_splitOn, splitOn_eq_iff]

theorem split_intercalate {sep : Char} {fields : List (List Char)}
    (free : ∀ field ∈ fields, sep ∉ field) (some : fields ≠ []) :
    split sep ([sep].intercalate fields) = fields :=
  split_eq_iff.mpr ⟨rfl, some, free⟩

theorem cutAt_append {first : Char} {a : List Char} (absent : first ∉ a) (rest b : List Char) :
    cutAt (first :: rest) (a ++ (first :: rest) ++ b) = some (a, b) := by
  simp only [List.append_assoc, List.cons_append]
  induction a with
  | nil =>
    have starts : (first :: rest).isPrefixOf (first :: (rest ++ b)) = true := by
      simp [List.isPrefixOf_iff_prefix]
    simp [cutAt, starts]
  | cons c a ih =>
    simp only [List.mem_cons, not_or] at absent
    have starts : (first :: rest).isPrefixOf (c :: (a ++ first :: (rest ++ b))) = false := by
      simp [List.isPrefixOf, absent.1]
    simp [cutAt, starts, ih absent.2]

/-- A text before a separator whose first character it lacks is the one that is cut off. -/
theorem cutAt_eq_some_iff {first : Char} {rest l a b : List Char} (absent : first ∉ a) :
    cutAt (first :: rest) l = some (a, b) ↔ l = a ++ (first :: rest) ++ b := by
  constructor
  · exact append_of_cutAt
  · rintro rfl
    exact cutAt_append absent rest b

end RemoteDevice.Text
