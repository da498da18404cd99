import Mathlib.Data.List.Induction
import Mathlib.Data.List.Nodup
import RemoteDevice.Association
import RemoteDevice.Property.Basic

/-!
# Names in the order of their first mention

What inserting and erasing do to the names and to the texts under them. Pairs inserted one after
the other give the names in the order in which each was first mentioned, with the texts that were
mentioned last.
-/
set_option autoImplicit false

namespace RemoteDevice.Properties

/-! ## Single pairs -/

theorem keys_insertPair (key value : String) (pairs : List (String × String)) :
    (insertPair key value pairs).map Prod.fst =
      if key ∈ pairs.map Prod.fst then pairs.map Prod.fst else pairs.map Prod.fst ++ [key] := by
  induction pairs with
  | nil => simp [insertPair]
  | cons pair rest ih =>
    obtain ⟨k, v⟩ := pair
    rw [insertPair]
    by_cases same : k = key
    · simp [same]
    · rw [if_neg same, List.map_cons, ih]
      by_cases known : key ∈ rest.map Prod.fst
      · simp [known]
      · simp [known, Ne.symm same]

theorem lookup_insertPair (key value other : String) (pairs : List (String × String)) :
    (insertPair key value pairs).lookup other =
      if other = key then some value else pairs.lookup other := by
  induction pairs with
  | nil => rw [insertPair, Association.lookup_cons_eq_ite]
  | cons pair rest ih =>
    obtain ⟨k, v⟩ := pair
    rw [insertPair]
    by_cases same : k = key
    · rw [if_pos same, same, Association.lookup_cons_eq_ite, Association.lookup_cons_eq_ite]
      by_cases asked : other = key
      · rw [if_pos asked, if_pos asked]
      · rw [if_neg asked, if_neg asked, if_neg asked]
    · rw [if_neg same, Association.lookup_cons_eq_ite, Association.lookup_cons_eq_ite, ih]
      by_cases first : other = k
      · have differs : other ≠ key := fun asked => same (first.symm.trans asked)
        rw [if_pos first, if_neg differs, if_pos first]
      · rw [if_neg first, if_neg first]

theorem mem_insertPair {key value : String} {pairs : List (String × String)}
    {pair : String × String} (member : pair ∈ insertPair key value pairs) :
    pair = (key, value) ∨ pair ∈ pairs := by
  induction pairs with
  | nil => exact .inl (List.mem_singleton.mp member)
  | cons first rest ih =>
    obtain ⟨k, v⟩ := first
    rw [insertPair] at member
    by_cases same : k = key
    · rw [if_pos same, same] at member
      rcases List.mem_cons.mp member with here | later
      · exact .inl here
      · exact .inr (List.mem_cons_of_mem _ later)
    · rw [if_neg same] at member
      rcases List.mem_cons.mp member with here | later
      · exact .inr (here ▸ List.mem_cons_self)
      · rcases ih later with new | old
        · exact .inl new
        · exact .inr (List.mem_cons_of_mem _ old)

theorem insertPair_of_not_mem {key : String} {pairs : List (String × String)}
    (fresh : key ∉ pairs.map Prod.fst) (value : String) :
    insertPair key value pairs = pairs ++ [(key, value)] := by
  induction pairs with
  | nil => rfl
  | cons first rest ih =>
    obtain ⟨k, v⟩ := first
    rw [List.map_cons, List.mem_cons, not_or] at fresh
    rw [insertPair, if_neg (Ne.symm fresh.1), ih fresh.2, List.cons_append]

theorem erasePair_sublist (key : String) (pairs : List (String × String)) :
    (erasePair key pairs).Sublist pairs := by
  induction pairs with
  | nil => exact List.Sublist.refl []
  | cons first rest ih =>
    obtain ⟨k, v⟩ := first
    rw [erasePair]
    by_cases same : k = key
    · rw [if_pos same]
      exact List.sublist_cons_self _ rest
    · rw [if_neg same]
      exact ih.cons_cons _

/-! ## Whole properties -/

theorem keys_insert (p : Properties) (key value : String) :
    (p.insert key value).keys = if key ∈ p.keys then p.keys else p.keys ++ [key] :=
  keys_insertPair key value p.pairs

theorem get?_insert (p : Properties) (key value other : String) :
    (p.insert key value).get? other = if other = key then some value else p.get? other :=
  lookup_insertPair key value other p.pairs

theorem insertAll_append (p : Properties) (first second : List (String × String)) :
    p.insertAll (first ++ second) = (p.insertAll first).insertAll second :=
  List.foldl_append

/-- No name is there twice. -/
def Distinct (p : Properties) : Prop := p.keys.Nodup

theorem distinct_empty : Distinct ∅ := List.nodup_nil

theorem Distinct.insert {p : Properties} (h : p.Distinct) (key value : String) :
    (p.insert key value).Distinct := by
  rw [Distinct, keys_insert]
  by_cases known : key ∈ p.keys
  · rw [if_pos known]
    exact h
  · rw [if_neg known]
    exact List.nodup_append.mpr ⟨h, List.nodup_singleton key, by
      intro a among b single same
      rw [same, List.mem_singleton.mp single] at among
      exact known among⟩

theorem Distinct.insertAll {p : Properties} (h : p.Distinct) (pairs : List (String × String)) :
    (p.insertAll pairs).Distinct := by
  induction pairs generalizing p with
  | nil => exact h
  | cons pair rest ih => exact ih (h.insert pair.1 pair.2)

theorem Distinct.erase {p : Properties} (h : p.Distinct) (key : String) :
    (p.erase key).Distinct :=
  h.sublist ((erasePair_sublist key p.pairs).map Prod.fst)

theorem mem_insertAll {p : Properties} {pairs : List (String × String)} {pair : String × String}
    (member : pair ∈ (p.insertAll pairs).pairs) : pair ∈ p.pairs ∨ pair ∈ pairs := by
  induction pairs generalizing p with
  | nil => exact .inl member
  | cons first rest ih =>
    rcases ih (p := p.insert first.1 first.2) member with before | later
    · rcases mem_insertPair before with new | old
      · exact .inr (new ▸ List.mem_cons_self)
      · exact .inl old
    · exact .inr (List.mem_cons_of_mem first later)

/-- Properties are what they answer, given the order of their names. -/
theorem Distinct.eq_of_get? {p q : Properties} (h : p.Distinct) (names : p.keys = q.keys)
    (texts : ∀ key, p.get? key = q.get? key) : p = q := by
  obtain ⟨left⟩ := p
  obtain ⟨right⟩ := q
  congr 1
  simp only [Distinct, keys, get?] at h names texts
  induction left generalizing right with
  | nil => exact (List.map_eq_nil_iff.mp names.symm).symm
  | cons first left ih =>
    obtain ⟨k, v⟩ := first
    cases right with
    | nil => cases names
    | cons other right =>
      obtain ⟨k', v'⟩ := other
      obtain ⟨same, later⟩ := List.cons.inj names
      obtain ⟨fresh, h⟩ := List.nodup_cons.mp h
      simp only [Association.lookup_cons_eq_ite] at texts
      dsimp only at same
      subst same
      have value : v = v' := by simpa using texts k
      rw [value]
      congr 1
      apply ih h right later
      intro key
      by_cases asked : key = k
      · -- the name of the first pair is in neither rest
        rw [asked, Association.lookup_eq_none_iff.mpr fresh,
          Association.lookup_eq_none_iff.mpr (later ▸ fresh)]
      · have answers := texts key
        rwa [if_neg asked, if_neg asked] at answers

/-! ## Names left out -/

theorem erasePair_eq_filter {key : String} {pairs : List (String × String)}
    (once : (pairs.map Prod.fst).Nodup) :
    erasePair key pairs = pairs.filter fun pair => pair.1 ≠ key := by
  induction pairs with
  | nil => rfl
  | cons first rest ih =>
    obtain ⟨k, v⟩ := first
    obtain ⟨fresh, once⟩ := List.nodup_cons.mp once
    rw [erasePair]
    by_cases same : k = key
    · subst same
      have others : ∀ pair ∈ rest, pair.1 ≠ k := fun pair member here =>
        fresh (List.mem_map.mpr ⟨pair, member, here⟩)
      rw [if_pos rfl, List.filter_cons_of_neg (by simp)]
      exact (List.filter_eq_self.mpr fun pair member => decide_eq_true (others pair member)).symm
    · rw [if_neg same, ih once, List.filter_cons_of_pos (by simpa using same)]

section Erased

variable {p q : Properties}

/-- The pairs of other names stay, in their order. -/
theorem Distinct.pairs_eraseAll (h : p.Distinct) (names : List String) :
    (names.foldl Properties.erase p).pairs = p.pairs.filter fun pair => pair.1 ∉ names := by
  induction names generalizing p with
  | nil => simp
  | cons name names ih =>
    have erased : (p.erase name).pairs = p.pairs.filter fun pair => pair.1 ≠ name :=
      erasePair_eq_filter h
    rw [List.foldl_cons, ih (h.erase name), erased, List.filter_filter]
    apply List.filter_congr
    intro pair _
    simp [Bool.and_comm]

/-- The order of the pairs has no part in what a name answers. -/
theorem Distinct.get?_of_perm (h : p.Distinct) (same : q.pairs.Perm p.pairs) (key : String) :
    q.get? key = p.get? key := by
  have once : (q.pairs.map Prod.fst).Nodup := (same.map Prod.fst).nodup_iff.mpr h
  ext value
  rw [get?, get?, Association.lookup_eq_some_iff once, Association.lookup_eq_some_iff h,
    same.mem_iff]

end Erased

/-! ## What was mentioned -/

/-- The properties hold each name that the pairs mention, in the order of the first mentions, with
the text of the last one. -/
structure Collects (p : Properties) (pairs : List (String × String)) : Prop where
  keys_eq : p.keys = (pairs.map Prod.fst).eraseDups
  get?_eq : ∀ key, p.get? key = pairs.reverse.lookup key

theorem keys_insertAll (pairs : List (String × String)) :
    ((∅ : Properties).insertAll pairs).keys = (pairs.map Prod.fst).eraseDups := by
  induction pairs using List.reverseRecOn with
  | nil => rfl
  | append_singleton pairs pair ih =>
    have last : (∅ : Properties).insertAll (pairs ++ [pair]) =
        ((∅ : Properties).insertAll pairs).insert pair.1 pair.2 := insertAll_append _ pairs [pair]
    rw [last, keys_insert, ih, List.map_append, List.eraseDups_append]
    by_cases known : pair.1 ∈ pairs.map Prod.fst
    · simp [known, List.removeAll]
    · simp [known, List.removeAll, List.eraseDups_cons]

theorem get?_insertAll (pairs : List (String × String)) (key : String) :
    ((∅ : Properties).insertAll pairs).get? key = pairs.reverse.lookup key := by
  have replaces : ∀ (p : Properties) (pair : String × String) (other : String),
      (p.insert pair.1 pair.2).get? other = if other = pair.1 then some pair.2 else p.get? other :=
    fun p pair other => p.get?_insert pair.1 pair.2 other
  have found := Association.get_foldl replaces pairs ∅ key
  have nothing : (∅ : Properties).get? key = none := rfl
  rw [nothing, Option.or_none] at found
  exact found

theorem collects_insertAll (pairs : List (String × String)) :
    ((∅ : Properties).insertAll pairs).Collects pairs :=
  ⟨keys_insertAll pairs, get?_insertAll pairs⟩

theorem collects_iff {p : Properties} {pairs : List (String × String)} :
    p.Collects pairs ↔ (∅ : Properties).insertAll pairs = p := by
  have inserted := collects_insertAll pairs
  constructor
  · intro h
    have distinct := distinct_empty.insertAll pairs
    refine distinct.eq_of_get? ?_ ?_
    · rw [inserted.keys_eq, h.keys_eq]
    · intro key
      rw [inserted.get?_eq, h.get?_eq]
  · rintro rfl
    exact inserted

theorem insertAll_of_nodup {p : Properties} {pairs : List (String × String)}
    (h : (p.keys ++ pairs.map Prod.fst).Nodup) : p.insertAll pairs = ⟨p.pairs ++ pairs⟩ := by
  induction pairs generalizing p with
  | nil => simp [insertAll]
  | cons pair rest ih =>
    have fresh : pair.1 ∉ p.pairs.map Prod.fst := by
      intro known
      exact (List.nodup_append.mp h).2.2 pair.1 known pair.1 List.mem_cons_self rfl
    have step : p.insert pair.1 pair.2 = ⟨p.pairs ++ [pair]⟩ :=
      congrArg mk (insertPair_of_not_mem fresh pair.2)
    have later := ih (p := ⟨p.pairs ++ [pair]⟩) (by simpa [keys] using h)
    rw [List.append_assoc] at later
    rw [← step] at later
    exact later

/-- Inserting the pairs of properties from the start gives these properties. -/
theorem Distinct.insertAll_pairs {p : Properties} (h : p.Distinct) :
    (∅ : Properties).insertAll p.pairs = p :=
  insertAll_of_nodup h

end RemoteDevice.Properties
