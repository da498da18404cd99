import RemoteDevice.Proofs.Property.RoundTrip

/-!
# Property texts put together

A text that is read with a semicolon and another text after it says what both say, the second over
the first. One that is refused stays refused for the same reason, unless it ends in a backslash that
escapes nothing: that one then escapes the semicolon.
-/
set_option autoImplicit false

namespace RemoteDevice.Properties

/-! ## Properties over properties -/

/-- The names of the first properties keep their places and the other names of the second follow.
What the second ones say of a name counts. -/
structure Overlays (p q whole : Properties) : Prop where
  keys_eq : whole.keys = p.keys ++ q.keys.filter fun key => key ∉ p.keys
  get?_eq : ∀ key, whole.get? key = (q.get? key).or (p.get? key)

section

variable {p q whole : Properties}

theorem overlays_empty (p : Properties) : p.Overlays ∅ p where
  keys_eq := (List.append_nil p.keys).symm
  get?_eq _ := rfl

theorem Overlays.insert (h : p.Overlays q whole) (key value : String) :
    p.Overlays (q.insert key value) (whole.insert key value) where
  keys_eq := by
    rw [keys_insert, keys_insert, h.keys_eq]
    by_cases first : key ∈ p.keys
    · by_cases second : key ∈ q.keys
      · simp [first, second]
      · simp [first, second, List.filter_append]
    · by_cases second : key ∈ q.keys
      · simp [first, second]
      · simp [first, second, List.filter_append]
  get?_eq := by
    intro other
    rw [get?_insert, get?_insert, h.get?_eq]
    by_cases same : other = key
    · rw [if_pos same, if_pos same, Option.some_or]
    · rw [if_neg same, if_neg same]

theorem overlays_insertAll (p : Properties) (pairs : List (String × String)) :
    p.Overlays ((∅ : Properties).insertAll pairs) (p.insertAll pairs) := by
  induction pairs using List.reverseRecOn with
  | nil => exact overlays_empty p
  | append_singleton pairs pair ih =>
    rw [insertAll_append, insertAll_append]
    exact ih.insert pair.1 pair.2

theorem Distinct.overlays (h : q.Distinct) (p : Properties) :
    p.Overlays q (p.insertAll q.pairs) := by
  have inserted := overlays_insertAll p q.pairs
  rwa [h.insertAll_pairs] at inserted

/-- Pairs may be collected on their own before they are inserted. -/
theorem Distinct.insertAll_collected (h : p.Distinct) (pairs : List (String × String)) :
    p.insertAll ((∅ : Properties).insertAll pairs).pairs = p.insertAll pairs := by
  have collected := (distinct_empty.insertAll pairs).overlays p
  have direct := overlays_insertAll p pairs
  apply (h.insertAll _).eq_of_get?
  · rw [collected.keys_eq, direct.keys_eq]
  · intro key
    rw [collected.get?_eq, direct.get?_eq]

end

/-! ## Forms side by side -/

namespace Form

/-- The clauses of the second form after those of the first. -/
def join (f g : Form) : Form := ⟨f.clauses ++ g.clauses, g.dangling⟩

variable {f g : Form} {a b : String}

theorem text_join (whole : f.dangling = false) (first : f.clauses ≠ []) (second : g.clauses ≠ []) :
    (f.join g).text = f.text ++ ';' :: g.text := by
  have some : f.clauses.map Clause.source ≠ [] := by simpa using first
  have some' : g.clauses.map Clause.source ≠ [] := by simpa using second
  rw [text, text, text, join, whole, List.map_append, Text.intercalate_append [';'] some some']
  simp

theorem Of.join (first : f.Of a) (whole : f.dangling = false) (second : g.Of b) :
    (f.join g).Of (a ++ ";" ++ b) where
  text_eq := by
    rw [text_join whole first.some_clause second.some_clause, first.text_eq, second.text_eq,
      String.toList_append, String.toList_append]
    simp
  some_clause := List.append_ne_nil_of_left_ne_nil first.some_clause _
  proper c member := (List.mem_append.mp member).elim (first.proper c) (second.proper c)

theorem Says.join {first second : List (String × String)} (h : f.Says first) (h' : g.Says second) :
    (f.join g).Says (first ++ second) := by
  obtain ⟨-, parts, spoken, rfl⟩ := h
  obtain ⟨whole, parts', spoken', rfl⟩ := h'
  exact ⟨whole, parts ++ parts', List.rel_append spoken spoken',
    List.reduceOption_append parts parts'⟩

theorem sound_of_spoken {clauses : List Clause} {parts : List (Option (String × String))}
    (spoken : List.Forall₂ Clause.Says clauses parts) : ∀ c ∈ clauses, ∃ said, c.Says said := by
  induction spoken with
  | nil => simp
  | @cons c said clauses parts first later ih =>
    exact List.forall_mem_cons.mpr ⟨⟨said, first⟩, ih⟩

theorem Fails.join {pairs : List (String × String)} {e : PropertyError} (h : f.Says pairs)
    (h' : g.Fails e) : (f.join g).Fails e := by
  obtain ⟨-, parts, spoken, -⟩ := h
  obtain ⟨before, c, after, split, sound, fails⟩ := h'
  refine ⟨f.clauses ++ before, c, after, ?_, ?_, fails⟩
  · rw [Form.join, split, List.append_assoc]
  · intro b member
    exact (List.mem_append.mp member).elim (sound_of_spoken spoken b) (sound b)

theorem of_text {f : Form} (some_clause : f.clauses ≠ []) (proper : ∀ c ∈ f.clauses, c.Proper) :
    f.Of (String.ofList f.text) :=
  ⟨String.toList_ofList.symm, some_clause, proper⟩

/-- A clause that a semicolon ends stays as it is, and so do those before it, whatever follows. -/
theorem Of.exists_append {before after : List Clause} {c : Clause} (h : f.Of a)
    (split : f.clauses = before ++ c :: after) (ended : ¬ (f.dangling = true ∧ after = []))
    (b : String) :
    ∃ g : Form, g.Of (a ++ ";" ++ b) ∧ ∃ rest, rest ≠ [] ∧ g.clauses = before ++ c :: rest := by
  by_cases last : after = []
  · have whole : f.dangling = false := by simpa [last] using ended
    have second := of_find b
    refine ⟨f.join (find b), h.join whole second, (find b).clauses, second.some_clause, ?_⟩
    rw [Form.join, split, last, List.append_assoc]
    rfl
  · -- the text is cut at the semicolon that ends the clause
    have proper := h.proper
    rw [split] at proper
    have head : Form.Of ⟨before ++ [c], false⟩ (String.ofList (text ⟨before ++ [c], false⟩)) := by
      apply of_text (by simp)
      intro d member
      apply proper d
      rw [List.append_cons]
      exact List.mem_append_left after member
    have tail : Form.Of ⟨after, f.dangling⟩ (String.ofList (text ⟨after, f.dangling⟩)) := by
      apply of_text last
      intro d member
      exact proper d (List.mem_append_right before (List.mem_cons_of_mem c member))
    have parts : Form.join ⟨before ++ [c], false⟩ ⟨after, f.dangling⟩ = f := by
      rw [Form.join, ← List.append_cons, ← split]
    have cut := (head.join rfl tail).text_eq
    rw [parts, h.text_eq, String.toList_inj] at cut
    have second := of_find (String.ofList (text ⟨after, f.dangling⟩) ++ ";" ++ b)
    have whole := head.join rfl second
    rw [← String.append_assoc, ← String.append_assoc, ← cut] at whole
    refine ⟨_, whole, _, second.some_clause, ?_⟩
    rw [Form.join, ← List.append_cons]

end Form

/-! ## Texts with a semicolon between them -/

/-- A text that is read goes on after a semicolon with any other text, whose fault is then the fault
of both. If the other one is read as well, both are read as the first properties with the pairs of
the second inserted, which overlay them. A text that is refused is refused for the same reason
whatever comes after a semicolon, unless its last backslash would escape that. -/
theorem parse_append (a b : String) :
    (∀ p, parse a = .ok p →
      (∀ e, parse b = .error e → parse (a ++ ";" ++ b) = .error e) ∧
      ∀ q, parse b = .ok q → parse (a ++ ";" ++ b) = .ok (p.insertAll q.pairs) ∧
        p.Overlays q (p.insertAll q.pairs)) ∧
    ∀ e, e ≠ .trailingEscape → parse a = .error e → parse (a ++ ";" ++ b) = .error e := by
  constructor
  · intro p read
    obtain ⟨f, of, pairs, spoken, collects⟩ := parse_eq_ok_iff.mp read
    constructor
    · intro e refused
      obtain ⟨g, of', fails⟩ := parse_eq_error_iff.mp refused
      exact parse_eq_error_iff.mpr ⟨f.join g, of.join spoken.1 of', Form.Fails.join spoken fails⟩
    · intro q read'
      obtain ⟨g, of', others, spoken', collects'⟩ := parse_eq_ok_iff.mp read'
      have collected : (∅ : Properties).insertAll (pairs ++ others) = p.insertAll q.pairs := by
        rw [insertAll_append, collects_iff.mp collects, ← collects_iff.mp collects',
          (distinct_of_parse read).insertAll_collected]
      constructor
      · exact parse_eq_ok_iff.mpr ⟨f.join g, of.join spoken.1 of', pairs ++ others,
          spoken.join spoken', collects_iff.mpr collected⟩
      · exact (distinct_of_parse read').overlays p
  · intro e other refused
    obtain ⟨f, of, before, c, after, split, sound, fails⟩ := parse_eq_error_iff.mp refused
    have ended : ¬ (f.dangling = true ∧ after = []) := by
      intro cut
      rw [if_pos cut] at fails
      exact other fails
    rw [if_neg ended] at fails
    obtain ⟨g, of', rest, more, parts⟩ := of.exists_append split ended b
    refine parse_eq_error_iff.mpr ⟨g, of', before, c, rest, parts, sound, ?_⟩
    rw [if_neg fun cut => more cut.2]
    exact fails

/-- A name of both texts keeps its place and takes the later text, and a fault stays. -/
theorem parse_append_rate :
    parse "rate=1;unit=m;rate=2;step=\\\\;" = .ok ⟨[("rate", "2"), ("unit", "m"), ("step", "\\")]⟩ ∧
    parse "rate=1;oops;=" = .error (.missingSeparator "oops") := by
  have first : parse "rate=1;unit=m" = .ok ⟨[("rate", "1"), ("unit", "m")]⟩ := by decide +kernel
  have second : parse "rate=2;step=\\\\;" = .ok ⟨[("rate", "2"), ("step", "\\")]⟩ := by
    decide +kernel
  have refused : parse "rate=1;oops" = .error (.missingSeparator "oops") := by decide +kernel
  obtain ⟨read, -⟩ := parse_append "rate=1;unit=m" "rate=2;step=\\\\;"
  obtain ⟨-, kept⟩ := parse_append "rate=1;oops" "="
  exact ⟨((read _ first).2 _ second).1, kept _ (by decide) refused⟩

/-- The backslash at the seam is the exception: it takes the semicolon into the value. -/
example : parse "rate=1\\" = .error .trailingEscape ∧
    parse ("rate=1\\" ++ ";" ++ "unit=m") = .ok ⟨[("rate", "1;unit=m")]⟩ := by decide +kernel

end RemoteDevice.Properties
