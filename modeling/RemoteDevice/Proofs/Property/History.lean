import Mathlib.Data.Set.Card
import RemoteDevice.Proofs.Property.RoundTrip

/-!
# Properties and what was done to them

Properties say what the insertions and removals before it lead to: under each name the text that was
inserted last, if the name was not removed since, and the names in the order in which each came to
stay. One more insertion or removal changes this for its own name only.
-/
set_option autoImplicit false

namespace RemoteDevice.Properties

inductive Change where
  | insert (key value : String)
  | remove (key : String)
deriving DecidableEq, Repr

namespace Change

/-- The name that the change is about. -/
def key : Change → String
  | insert key _ => key
  | remove key => key

def apply (p : Properties) : Change → Properties
  | insert key value => p.insert key value
  | remove key => (p.take key).2

end Change

/-! ## What a history says, the last change at its end -/

/-- The last change of the name inserts it with this text. -/
def Stands (history : List Change) (key value : String) : Prop :=
  ∃ before after, history = before ++ .insert key value :: after ∧ ∀ c ∈ after, c.key ≠ key

/-- The change at place `n` inserts the name when it is not there, and it is not removed since. -/
def Entered (history : List Change) (key : String) (n : Nat) : Prop :=
  ∃ before value after, history = before ++ .insert key value :: after ∧ before.length = n ∧
    .remove key ∉ after ∧ ∀ old, ¬ Stands before key old

section

variable {history before after : List Change} {c d : Change} {key value other : String} {n : Nat}

/-- A change in a longer history is the last one, or it stands in the history before. -/
theorem snoc_eq_iff :
    history ++ [c] = before ++ d :: after ↔
      (after = [] ∧ before = history ∧ d = c) ∨
        ∃ rest, after = rest ++ [c] ∧ history = before ++ d :: rest := by
  constructor
  · intro parts
    rcases List.eq_nil_or_concat' after with rfl | ⟨rest, last, rfl⟩
    · obtain ⟨rfl, same⟩ := List.append_inj' parts rfl
      exact .inl ⟨rfl, rfl, (List.singleton_inj.mp same).symm⟩
    · rw [← List.cons_append, ← List.append_assoc] at parts
      obtain ⟨rfl, same⟩ := List.append_inj' parts rfl
      exact .inr ⟨rest, by rw [same], rfl⟩
  · intro parts
    rcases parts with ⟨rfl, rfl, rfl⟩ | ⟨rest, rfl, rfl⟩
    · rfl
    · simp

theorem stands_snoc_own (own : c.key = key) :
    Stands (history ++ [c]) key value ↔ c = .insert key value := by
  constructor
  · intro stands
    obtain ⟨before, after, parts, untouched⟩ := stands
    rcases snoc_eq_iff.mp parts with ⟨-, -, same⟩ | ⟨rest, rfl, -⟩
    · exact same.symm
    · exact absurd own (untouched c (by simp))
  · intro same
    exact ⟨history, [], by rw [same], by simp⟩

theorem stands_snoc_other (other : c.key ≠ key) :
    Stands (history ++ [c]) key value ↔ Stands history key value := by
  constructor
  · intro stands
    obtain ⟨before, after, parts, untouched⟩ := stands
    rcases snoc_eq_iff.mp parts with ⟨-, -, rfl⟩ | ⟨rest, rfl, earlier⟩
    · exact absurd rfl other
    · refine ⟨before, rest, earlier, ?_⟩
      intro d member
      exact untouched d (List.mem_append_left _ member)
  · intro stands
    obtain ⟨before, after, rfl, untouched⟩ := stands
    refine ⟨before, after ++ [c], by simp, ?_⟩
    intro d member
    rcases List.mem_append.mp member with earlier | last
    · exact untouched d earlier
    · rw [List.mem_singleton.mp last]
      exact other

/-- What was inserted and never removed since stands with some text. -/
theorem exists_stands (before : List Change) (key value : String) (after : List Change)
    (kept : .remove key ∉ after) :
    ∃ last, Stands (before ++ .insert key value :: after) key last := by
  induction after using List.reverseRecOn with
  | nil => exact ⟨value, before, [], rfl, by simp⟩
  | append_singleton after c ih =>
    rw [List.mem_append, List.mem_singleton, not_or] at kept
    rw [← List.cons_append, ← List.append_assoc]
    by_cases own : c.key = key
    · cases c with
      | insert key' last =>
        cases own
        exact ⟨last, (stands_snoc_own rfl).mpr rfl⟩
      | remove key' =>
        cases own
        exact absurd rfl kept.2
    · obtain ⟨last, stands⟩ := ih kept.1
      exact ⟨last, (stands_snoc_other own).mpr stands⟩

theorem Entered.lt_length (h : Entered history key n) : n < history.length := by
  obtain ⟨before, value, after, rfl, rfl, -⟩ := h
  rw [List.length_append, List.length_cons]
  omega

theorem Entered.snoc (h : Entered history key n) (kept : c ≠ .remove key) :
    Entered (history ++ [c]) key n := by
  obtain ⟨before, value, after, rfl, rfl, unremoved, fresh⟩ := h
  refine ⟨before, value, after ++ [c], by simp, rfl, ?_, fresh⟩
  rw [List.mem_append, List.mem_singleton, not_or]
  exact ⟨unremoved, kept.symm⟩

/-- A name that entered did so by the last change or earlier, and then the last change is not its
removal. -/
theorem Entered.cases_snoc (h : Entered (history ++ [c]) key n) :
    (∃ value, c = .insert key value ∧ n = history.length ∧ ∀ old, ¬ Stands history key old) ∨
      c ≠ .remove key ∧ Entered history key n := by
  obtain ⟨before, value, after, parts, rfl, unremoved, fresh⟩ := h
  rcases snoc_eq_iff.mp parts with ⟨-, rfl, same⟩ | ⟨rest, rfl, earlier⟩
  · exact .inl ⟨value, same.symm, rfl, fresh⟩
  · rw [List.mem_append, List.mem_singleton, not_or] at unremoved
    exact .inr ⟨Ne.symm unremoved.2, before, value, rest, earlier, rfl, unremoved.1, fresh⟩

end

/-! ## What properties make of it -/

theorem mem_keys_iff {p : Properties} {key : String} :
    key ∈ p.keys ↔ ∃ value, p.get? key = some value := by
  rw [← Option.isSome_iff_exists, ← not_iff_not, Option.not_isSome_iff_eq_none, get?,
    Association.lookup_eq_none_iff]
  rfl

theorem Distinct.get?_erase {p : Properties} (h : p.Distinct) (key other : String) :
    (p.erase key).get? other = if other = key then none else p.get? other := by
  have others := Association.lookup_filter (fun own => decide (own ≠ key)) other p.pairs
  rw [get?, Properties.erase, erasePair_eq_filter h, others]
  by_cases same : other = key
  · rw [if_pos same, if_neg (by simp [same])]
  · rw [if_neg same, if_pos (by simp [same])]
    rfl

/-- The properties are what the history leads to. -/
structure Reflects (p : Properties) (history : List Change) : Prop where
  distinct : p.Distinct
  get?_iff : ∀ key value, p.get? key = some value ↔ Stands history key value
  entered_iff : ∀ key, key ∈ p.keys ↔ ∃ n, Entered history key n
  ordered : p.keys.Pairwise fun earlier later =>
    ∀ m n, Entered history earlier m → Entered history later n → m < n

theorem reflects_empty : Reflects ∅ [] where
  distinct := distinct_empty
  get?_iff := by
    intro key value
    constructor
    · intro found
      cases found
    · intro stands
      obtain ⟨before, after, parts, -⟩ := stands
      simp at parts
  entered_iff := by
    intro key
    constructor
    · intro member
      cases member
    · intro entered
      obtain ⟨n, before, value, after, parts, -⟩ := entered
      simp at parts
  ordered := .nil

section

variable {p : Properties} {history : List Change}

theorem Reflects.known_iff (h : p.Reflects history) (key : String) :
    key ∈ p.keys ↔ ∃ old, Stands history key old := by
  rw [mem_keys_iff]
  simp only [h.get?_iff]

theorem Reflects.get?_insert_iff (h : p.Reflects history) (key value other text : String) :
    (p.insert key value).get? other = some text ↔
      Stands (history ++ [.insert key value]) other text := by
  rw [get?_insert]
  by_cases same : other = key
  · rw [if_pos same, stands_snoc_own (c := .insert key value) same.symm, same]
    simp
  · rw [if_neg same, stands_snoc_other (Ne.symm same)]
    exact h.get?_iff other text

/-- A name that is there enters no more. -/
theorem Reflects.entered_insert_known (h : p.Reflects history) {key : String} (known : key ∈ p.keys)
    (value other : String) (n : Nat) :
    Entered (history ++ [.insert key value]) other n ↔ Entered history other n := by
  constructor
  · intro entered
    rcases entered.cases_snoc with ⟨text, same, -, fresh⟩ | ⟨-, earlier⟩
    · cases same
      obtain ⟨old, stands⟩ := (h.known_iff key).mp known
      exact absurd stands (fresh old)
    · exact earlier
  · intro earlier
    exact earlier.snoc (by simp)

theorem Reflects.entered_insert_new (h : p.Reflects history) {key : String} (new : key ∉ p.keys)
    (value : String) (n : Nat) :
    Entered (history ++ [.insert key value]) key n ↔ n = history.length := by
  rw [h.known_iff, not_exists] at new
  constructor
  · intro entered
    rcases entered.cases_snoc with ⟨text, -, last, -⟩ | ⟨-, before, old, after, rfl, -, kept, -⟩
    · exact last
    · obtain ⟨last, stands⟩ := exists_stands before key old after kept
      exact absurd stands (new last)
  · intro last
    exact ⟨history, value, [], rfl, last.symm, by simp, new⟩

theorem entered_insert_other {key other : String} (differs : other ≠ key) (value : String)
    (n : Nat) : Entered (history ++ [.insert key value]) other n ↔ Entered history other n := by
  constructor
  · intro entered
    rcases entered.cases_snoc with ⟨text, same, -⟩ | ⟨-, earlier⟩
    · cases same
      exact absurd rfl differs
    · exact earlier
  · intro earlier
    exact earlier.snoc (by simp)

theorem entered_remove {key other : String} (n : Nat) :
    Entered (history ++ [.remove key]) other n ↔ other ≠ key ∧ Entered history other n := by
  constructor
  · intro entered
    rcases entered.cases_snoc with ⟨text, same, -⟩ | ⟨kept, earlier⟩
    · cases same
    · exact ⟨fun same => kept (same ▸ rfl), earlier⟩
  · intro earlier
    exact earlier.2.snoc fun same => earlier.1 (Change.remove.inj same).symm

theorem Reflects.insert (h : p.Reflects history) (key value : String) :
    (p.insert key value).Reflects (history ++ [.insert key value]) := by
  by_cases known : key ∈ p.keys
  · have keys : (p.insert key value).keys = p.keys := by rw [keys_insert, if_pos known]
    refine ⟨h.distinct.insert key value, h.get?_insert_iff key value, ?_, ?_⟩
    · intro other
      rw [keys]
      simp only [h.entered_insert_known known]
      exact h.entered_iff other
    · rw [keys]
      simp only [h.entered_insert_known known]
      exact h.ordered
  · have keys : (p.insert key value).keys = p.keys ++ [key] := by rw [keys_insert, if_neg known]
    have differs : ∀ other ∈ p.keys, other ≠ key := by
      intro other member same
      exact known (same ▸ member)
    refine ⟨h.distinct.insert key value, h.get?_insert_iff key value, ?_, ?_⟩
    · intro other
      rw [keys, List.mem_append, List.mem_singleton]
      by_cases same : other = key
      · simp only [same, h.entered_insert_new known, or_true, exists_eq]
      · simp only [entered_insert_other same, same, or_false]
        exact h.entered_iff other
    · rw [keys, List.pairwise_append]
      refine ⟨?_, List.pairwise_singleton _ _, ?_⟩
      · refine h.ordered.imp_of_mem ?_
        intro earlier later member member' before m n first second
        rw [entered_insert_other (differs _ member)] at first
        rw [entered_insert_other (differs _ member')] at second
        exact before m n first second
      · intro earlier member last among m n first second
        rw [List.mem_singleton.mp among, h.entered_insert_new known] at second
        rw [entered_insert_other (differs _ member)] at first
        rw [second]
        exact first.lt_length

theorem Reflects.remove (h : p.Reflects history) (key : String) :
    (p.erase key).Reflects (history ++ [.remove key]) where
  distinct := h.distinct.erase key
  get?_iff := by
    intro other text
    rw [h.distinct.get?_erase]
    by_cases same : other = key
    · rw [if_pos same, stands_snoc_own (c := .remove key) same.symm]
      simp
    · rw [if_neg same, stands_snoc_other (Ne.symm same)]
      exact h.get?_iff other text
  entered_iff := by
    intro other
    simp only [entered_remove, exists_and_left, ← h.entered_iff, mem_keys_iff,
      h.distinct.get?_erase]
    by_cases same : other = key
    · simp [same]
    · simp [same]
  ordered := by
    have fewer : (p.erase key).keys.Sublist p.keys := (erasePair_sublist key p.pairs).map Prod.fst
    refine (h.ordered.sublist fewer).imp ?_
    intro earlier later before m n first second
    exact before m n ((entered_remove m).mp first).2 ((entered_remove n).mp second).2

theorem reflects_foldl (history : List Change) :
    Reflects (history.foldl Change.apply ∅) history := by
  induction history using List.reverseRecOn with
  | nil => exact reflects_empty
  | append_singleton history c ih =>
    rw [List.foldl_append]
    cases c with
    | insert key value => exact ih.insert key value
    | remove key => exact ih.remove key

/-! ## One more change -/

theorem Reflects.size_eq (h : p.Reflects history) :
    p.size = {key | ∃ value, Stands history key value}.ncard := by
  have present : {key | ∃ value, Stands history key value} = (p.keys.toFinset : Set String) := by
    ext key
    rw [Set.mem_ofPred_eq, ← h.known_iff, List.coe_toFinset, Set.mem_ofPred_eq]
  rw [present, Set.ncard_coe_finset, List.toFinset_card_of_nodup h.distinct, keys, List.length_map]
  rfl

section

variable {key : String} {before after : List (String × String)}

theorem insertPair_between (fresh : key ∉ before.map Prod.fst) (old value : String) :
    insertPair key value (before ++ (key, old) :: after) = before ++ (key, value) :: after := by
  induction before with
  | nil => exact if_pos rfl
  | cons first rest ih =>
    obtain ⟨k, v⟩ := first
    rw [List.map_cons, List.mem_cons, not_or] at fresh
    rw [List.cons_append, insertPair, if_neg (Ne.symm fresh.1), ih fresh.2, List.cons_append]

theorem erasePair_between (fresh : key ∉ before.map Prod.fst) (old : String) :
    erasePair key (before ++ (key, old) :: after) = before ++ after := by
  induction before with
  | nil => exact if_pos rfl
  | cons first rest ih =>
    obtain ⟨k, v⟩ := first
    rw [List.map_cons, List.mem_cons, not_or] at fresh
    rw [List.cons_append, erasePair, if_neg (Ne.symm fresh.1), ih fresh.2, List.cons_append]

theorem lookup_between (fresh : key ∉ before.map Prod.fst) (old : String) :
    (before ++ (key, old) :: after).lookup key = some old := by
  rw [List.lookup_append, Association.lookup_eq_none_iff.mpr fresh, Option.none_or,
    Association.lookup_cons_eq_ite, if_pos rfl]

end

/-- The pair of a name that is there, and no other one, is what insertions and removals of the name
are about. -/
theorem Distinct.at_pair (h : p.Distinct) {key old : String} {before after : List (String × String)}
    (there : p.pairs = before ++ (key, old) :: after) :
    p.get? key = some old ∧ (∀ value, p.insert key value = ⟨before ++ (key, value) :: after⟩) ∧
      p.take key = (some old, ⟨before ++ after⟩) := by
  have fresh : key ∉ before.map Prod.fst := by
    intro member
    rw [Distinct, keys, there, List.map_append, List.nodup_append] at h
    exact h.2.2 key member key List.mem_cons_self rfl
  have found : p.get? key = some old := by rw [get?, there, lookup_between fresh]
  refine ⟨found, ?_, ?_⟩
  · intro value
    rw [Properties.insert, there, insertPair_between fresh]
  · rw [take, found, Properties.erase, there, erasePair_between fresh]

theorem Distinct.take_of_not_mem (h : p.Distinct) {key : String} (absent : key ∉ p.keys) :
    p.take key = (none, p) := by
  have unknown : p.get? key = none := Association.lookup_eq_none_iff.mpr absent
  have same : erasePair key p.pairs = p.pairs := by
    rw [erasePair_eq_filter h, List.filter_eq_self]
    intro pair member
    apply decide_eq_true
    intro own
    exact absent (List.mem_map.mpr ⟨pair, member, own⟩)
  rw [take, unknown, Properties.erase, same]

end

/-- Where a history starts: from nothing, or from a text, whose pairs are inserted from left to
right. -/
inductive Origin : Properties → List Change → Prop
  | empty : Origin ∅ []
  | text {s : String} {p : Properties} {f : Form} {pairs : List (String × String)}
      (read : parse s = .ok p) (of : f.Of s) (spoken : f.Says pairs) :
      Origin p (pairs.map fun pair => .insert pair.1 pair.2)

theorem Origin.foldl_eq {start : Properties} {past : List Change} (h : Origin start past) :
    past.foldl Change.apply ∅ = start := by
  cases h with
  | empty => rfl
  | @text s p f pairs read of spoken =>
    have collected := parse_eq_ok_iff.mpr ⟨f, of, pairs, spoken, collects_insertAll pairs⟩
    rw [read] at collected
    rw [List.foldl_map]
    exact (Except.ok.inj collected).symm

/-- Whatever is inserted and removed after the start, the names are pairwise different, each has the
text that was inserted last and not removed since, and they stand in the order in which they came to
stay. There are as many pairs as names with a text. An insertion under a name that is there changes
its pair and nothing else; a removal gives what the name had, and takes nothing else away. -/
theorem Origin.insertion_ordered {start p : Properties} {past changes : List Change}
    (origin : Origin start past) (reached : changes.foldl Change.apply start = p) :
    p.Reflects (past ++ changes) ∧
    p.size = {key | ∃ value, Stands (past ++ changes) key value}.ncard ∧
    (∀ key old before after, p.pairs = before ++ (key, old) :: after →
      (∀ value, p.insert key value = ⟨before ++ (key, value) :: after⟩) ∧
        p.take key = (some old, ⟨before ++ after⟩)) ∧
    (∀ key, key ∉ p.keys → p.take key = (none, p)) ∧
    ∀ key, (p.take key).1 = p.get? key ∧ (p.take key).2.get? key = none := by
  have reflects := reflects_foldl (past ++ changes)
  rw [List.foldl_append, origin.foldl_eq, reached] at reflects
  have distinct := reflects.distinct
  refine ⟨reflects, reflects.size_eq, ?_, ?_, ?_⟩
  · intro key old before after there
    exact (distinct.at_pair there).2
  · intro key absent
    exact distinct.take_of_not_mem absent
  · intro key
    exact ⟨rfl, (distinct.get?_erase key key).trans (if_pos rfl)⟩

/-- A name that was removed comes back at the end, and one that was inserted again stays where it
was. -/
theorem Origin.insertion_ordered_rates :
    ∃ p, [.insert "b" "5", .remove "a", .insert "c" "", .insert "a" "4"].foldl Change.apply
        ⟨[("a", "3"), ("b", "2")]⟩ = p ∧ p.keys = ["b", "c", "a"] ∧ p.size = 3 ∧
      ∃ past, Origin ⟨[("a", "3"), ("b", "2")]⟩ past ∧
        p.Reflects (past ++ [.insert "b" "5", .remove "a", .insert "c" "", .insert "a" "4"]) ∧
        p.take "b" = (some "5", ⟨[("c", ""), ("a", "4")]⟩) := by
  have read : parse "a=1;b=2;a=3" = .ok ⟨[("a", "3"), ("b", "2")]⟩ := by decide +kernel
  obtain ⟨f, of, pairs, spoken, -⟩ := parse_eq_ok_iff.mp read
  have reached : [.insert "b" "5", .remove "a", .insert "c" "", .insert "a" "4"].foldl Change.apply
      ⟨[("a", "3"), ("b", "2")]⟩ = ⟨[("b", "5"), ("c", ""), ("a", "4")]⟩ := by decide
  have origin := Origin.text read of spoken
  obtain ⟨reflects, -, at_pair, -⟩ := Origin.insertion_ordered origin reached
  exact ⟨_, reached, rfl, rfl, _, origin, reflects, (at_pair "b" "5" [] _ rfl).2⟩

end RemoteDevice.Properties
