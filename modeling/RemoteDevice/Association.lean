/-!
Lists of keys with their values, in which the first pair of a key counts.
-/
set_option autoImplicit false

namespace RemoteDevice.Association

variable {α β : Type} [BEq α] [LawfulBEq α] [DecidableEq α]

theorem lookup_cons_eq_ite (key other : α) (value : β) (l : List (α × β)) :
    ((key, value) :: l).lookup other = if other = key then some value else l.lookup other := by
  by_cases same : other = key
  · simp [same]
  · have miss : (other == key) = false := by simp [same]
    simp only [List.lookup_cons, miss, if_neg same]

omit [DecidableEq α] in
theorem forall_bne_iff {key : α} {l : List (α × β)} :
    (∀ entry ∈ l, (key != entry.1) = true) ↔ key ∉ l.map Prod.fst := by
  induction l with
  | nil => simp
  | cons entry l ih =>
    rw [List.forall_mem_cons, List.map_cons, List.mem_cons, not_or, ih, bne_iff_ne]

omit [DecidableEq α] in
theorem lookup_eq_none_iff {key : α} {l : List (α × β)} :
    l.lookup key = none ↔ key ∉ l.map Prod.fst := by
  rw [List.lookup_eq_none_iff, forall_bne_iff]

omit [DecidableEq α] in
theorem lookup_eq_some_iff {key : α} {value : β} {l : List (α × β)}
    (once : (l.map Prod.fst).Nodup) :
    l.lookup key = some value ↔ (key, value) ∈ l := by
  induction l with
  | nil => simp
  | cons entry l ih =>
    obtain ⟨own, first⟩ := entry
    obtain ⟨fresh, once⟩ := List.nodup_cons.mp once
    rw [List.lookup_cons, List.mem_cons, Prod.mk.injEq]
    by_cases same : key = own
    · have later : (own, value) ∉ l := fun member => fresh (List.mem_map.mpr ⟨_, member, rfl⟩)
      simp [same, later, eq_comm]
    · have miss : (key == own) = false := by simp [same]
      simp [miss, same, ih once]

/-- Where each pair replaces what is known of its key, the last pair of a key counts. -/
theorem get_foldl {σ : Type} {get : σ → α → Option β} {step : σ → α × β → σ}
    (replaces : ∀ s entry key,
      get (step s entry) key = if key = entry.1 then some entry.2 else get s key)
    (entries : List (α × β)) (start : σ) (key : α) :
    get (entries.foldl step start) key = (entries.reverse.lookup key).or (get start key) := by
  induction entries generalizing start with
  | nil => rfl
  | cons entry rest ih =>
    obtain ⟨own, value⟩ := entry
    rw [List.foldl_cons, ih, replaces, List.reverse_cons, List.lookup_append,
      lookup_cons_eq_ite, Option.or_assoc]
    by_cases same : key = own
    · simp [same]
    · simp [same]

/-- What is known of a key stays known where the pairs of this key stay. -/
theorem lookup_filter (stays : α → Bool) (key : α) (l : List (α × β)) :
    (l.filter fun entry => stays entry.1).lookup key =
      if stays key then l.lookup key else none := by
  induction l with
  | nil => simp
  | cons entry l ih =>
    obtain ⟨own, value⟩ := entry
    rw [List.filter_cons]
    by_cases same : key = own
    · subst same
      cases kept : stays key <;> simp [kept, ih]
    · cases stays own <;> simp [ih, lookup_cons_eq_ite, same]

/-- What is known of other keys outlives the removal of a key. -/
theorem lookup_filter_ne {key other : α} (h : other ≠ key) (l : List (α × β)) :
    (l.filter fun entry => entry.1 ≠ key).lookup other = l.lookup other := by
  rw [lookup_filter (fun own => decide (own ≠ key)), if_pos (decide_eq_true h)]

/-- A pair in front of a list without its key decides about this key and no other. -/
theorem lookup_cons_filter (key other : α) (value : β) (l : List (α × β)) :
    ((key, value) :: l.filter fun entry => entry.1 ≠ key).lookup other =
      if other = key then some value else l.lookup other := by
  rw [lookup_cons_eq_ite]
  by_cases same : other = key
  · rw [if_pos same, if_pos same]
  · rw [if_neg same, if_neg same]
    exact lookup_filter_ne same l

end RemoteDevice.Association
