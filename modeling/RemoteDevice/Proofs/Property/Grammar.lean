import RemoteDevice.Proofs.Outcome
import RemoteDevice.Proofs.Property.Form
import RemoteDevice.Proofs.Property.Ordered
import RemoteDevice.Proofs.Text.Blank

/-!
# The grammar of property texts

What the form of a text says: each of its clauses nothing or a pair, or something is wrong with it,
and then the leftmost clause at fault decides. The reader reads just that.
-/
set_option autoImplicit false

namespace RemoteDevice.Properties

/-! ## Single clauses -/

namespace Clause

/-- The marks stand for nothing but blanks. -/
def Blank (marks : List Mark) : Prop := ∀ m ∈ marks, Text.isBlank m.char = true

/-- The text is what the marks stand for, without the blanks around it. -/
def Content (marks : List Mark) (text : String) : Prop :=
  Text.Trims (marks.map Mark.char) text.toList

/-- The text is the clause as it was written, without the blanks around it. -/
def Excerpt (c : Clause) (text : String) : Prop := Text.Trims c.source text.toList

inductive Says : Clause → Option (String × String) → Prop
  | nothing {key : List Mark} (blank : Blank key) : Says ⟨key, none⟩ none
  | pair {key value : List Mark} {name text : String} (named : ¬Blank key)
      (name_of : Content key name) (text_of : Content value text) :
      Says ⟨key, some value⟩ (some (name, text))

inductive Fails : Clause → PropertyError → Prop
  | missingSeparator {key : List Mark} {excerpt : String} (written : ¬Blank key)
      (excerpt_of : Excerpt ⟨key, none⟩ excerpt) : Fails ⟨key, none⟩ (.missingSeparator excerpt)
  | emptyKey {key value : List Mark} {excerpt : String} (blank : Blank key)
      (excerpt_of : Excerpt ⟨key, some value⟩ excerpt) :
      Fails ⟨key, some value⟩ (.emptyKey excerpt)

end Clause

theorem content_eq_iff {marks : List Mark} {text : String} :
    content marks = text ↔ Clause.Content marks text := by
  rw [Clause.Content, ← Text.trimChars_eq_iff, content, ← String.toList_inj, String.toList_ofList]

theorem content_isEmpty_iff {marks : List Mark} :
    (content marks).isEmpty = true ↔ Clause.Blank marks := by
  rw [String.isEmpty_iff, content_eq_iff, Clause.Content, String.toList_empty, Text.trims_nil_iff]
  simp only [Clause.Blank, List.forall_mem_map]

theorem sourceText_eq_iff {c : Clause} {text : String} :
    sourceText c.marks = text ↔ c.Excerpt text := by
  rw [Clause.Excerpt, ← Text.trimChars_eq_iff, sourceText, ← String.toList_inj,
    String.toList_ofList]
  rfl

namespace Clause

theorem readSegment_nothing {key : List Mark} (separated : .plain '=' ∉ key) (blank : Blank key) :
    readSegment (marks ⟨key, none⟩) = .ok none := by
  rw [readSegment, separate_marks separated]
  exact if_pos (content_isEmpty_iff.mpr blank)

theorem readSegment_pair {key value : List Mark} (separated : .plain '=' ∉ key)
    (named : ¬Blank key) :
    readSegment (marks ⟨key, some value⟩) = .ok (some (content key, content value)) := by
  rw [readSegment, separate_marks separated]
  exact if_neg (content_isEmpty_iff.not.mpr named)

theorem readSegment_missingSeparator {key : List Mark} (separated : .plain '=' ∉ key)
    (written : ¬Blank key) :
    readSegment (marks ⟨key, none⟩) =
      .error (.missingSeparator (sourceText (marks ⟨key, none⟩))) := by
  rw [readSegment, separate_marks separated]
  exact if_neg (content_isEmpty_iff.not.mpr written)

theorem readSegment_emptyKey {key value : List Mark} (separated : .plain '=' ∉ key)
    (blank : Blank key) :
    readSegment (marks ⟨key, some value⟩) =
      .error (.emptyKey (sourceText (marks ⟨key, some value⟩))) := by
  rw [readSegment, separate_marks separated]
  exact if_pos (content_isEmpty_iff.mpr blank)

variable {c : Clause}

theorem readSegment_of_spoken {said : Option (String × String)} (separated : .plain '=' ∉ c.key)
    (h : c.Says said) : readSegment c.marks = .ok said := by
  cases h with
  | nothing blank => exact readSegment_nothing separated blank
  | pair named name_of text_of =>
    rw [readSegment_pair separated named, content_eq_iff.mpr name_of, content_eq_iff.mpr text_of]

theorem readSegment_of_fails {e : PropertyError} (separated : .plain '=' ∉ c.key)
    (h : c.Fails e) : readSegment c.marks = .error e := by
  cases h with
  | missingSeparator written excerpt_of =>
    rw [readSegment_missingSeparator separated written, sourceText_eq_iff.mpr excerpt_of]
  | emptyKey blank excerpt_of =>
    rw [readSegment_emptyKey separated blank, sourceText_eq_iff.mpr excerpt_of]

theorem says_or_fails (c : Clause) : (∃ said, c.Says said) ∨ ∃ e, c.Fails e := by
  obtain ⟨key, value⟩ := c
  by_cases blank : Blank key
  · cases value with
    | none => exact .inl ⟨_, .nothing blank⟩
    | some value => exact .inr ⟨_, .emptyKey blank (sourceText_eq_iff.mp rfl)⟩
  · cases value with
    | none => exact .inr ⟨_, .missingSeparator blank (sourceText_eq_iff.mp rfl)⟩
    | some value =>
      exact .inl ⟨_, .pair blank (content_eq_iff.mp rfl) (content_eq_iff.mp rfl)⟩

end Clause

/-! ## Whole texts -/

namespace Form

/-- Nothing is wrong with the form, and these are its pairs from left to right. -/
def Says (f : Form) (pairs : List (String × String)) : Prop :=
  f.dangling = false ∧
    ∃ parts, List.Forall₂ Clause.Says f.clauses parts ∧ parts.reduceOption = pairs

/-- The leftmost clause at fault decides the error. A backslash at the end of the text that escapes
nothing is a fault of the last clause, whatever else is wrong with that. -/
def Fails (f : Form) (e : PropertyError) : Prop :=
  ∃ before c after, f.clauses = before ++ c :: after ∧ (∀ b ∈ before, ∃ said, b.Says said) ∧
    if f.dangling = true ∧ after = [] then e = .trailingEscape else c.Fails e

section

variable {clauses : List Clause} {dangling : Bool}

theorem says_or_fails (some_clause : clauses ≠ []) :
    (∃ pairs, Says ⟨clauses, dangling⟩ pairs) ∨ ∃ e, Fails ⟨clauses, dangling⟩ e := by
  induction clauses with
  | nil => exact absurd rfl some_clause
  | cons c rest ih =>
    by_cases cut : dangling = true ∧ rest = []
    · exact .inr ⟨.trailingEscape, [], c, rest, rfl, by simp, by rw [if_pos cut]⟩
    rcases c.says_or_fails with ⟨said, spoken⟩ | ⟨e, fails⟩
    · cases rest with
      | nil =>
        have whole : dangling = false := by simpa using cut
        exact .inl ⟨_, whole, [said], .cons spoken .nil, rfl⟩
      | cons next rest =>
        rcases ih (by simp) with ⟨pairs, whole, parts, later, -⟩ |
          ⟨e, before, bad, after, split, sound, fails⟩
        · exact .inl ⟨_, whole, said :: parts, .cons spoken later, rfl⟩
        · refine .inr ⟨e, c :: before, bad, after, congrArg (c :: ·) split, ?_, fails⟩
          exact List.forall_mem_cons.mpr ⟨⟨said, spoken⟩, sound⟩
    · exact .inr ⟨e, [], c, rest, rfl, by simp, by rw [if_neg cut]; exact fails⟩

theorem readSegments_of_spoken {pairs : List (String × String)}
    (separated : ∀ c ∈ clauses, .plain '=' ∉ c.key) (some_clause : clauses ≠ [])
    (h : Says ⟨clauses, dangling⟩ pairs) :
    readSegments dangling (clauses.map Clause.marks) = .ok pairs := by
  obtain ⟨whole, parts, spoken, rfl⟩ := h
  dsimp only at whole spoken
  subst whole
  induction spoken with
  | nil => exact absurd rfl some_clause
  | @cons c said rest parts first spoken ih =>
    have read := Clause.readSegment_of_spoken (separated c List.mem_cons_self) first
    by_cases alone : rest = []
    · subst alone
      cases spoken
      simp only [List.map_cons, List.map_nil, readSegments, read]
      cases said <;> rfl
    · have later := ih (fun b member => separated b (List.mem_cons_of_mem c member)) alone
      rw [List.map_cons, readSegments_cons (by simpa using alone), read]
      simp only [later]
      cases said <;> rfl

theorem readSegments_of_fails {e : PropertyError}
    (separated : ∀ c ∈ clauses, .plain '=' ∉ c.key) (h : Fails ⟨clauses, dangling⟩ e) :
    readSegments dangling (clauses.map Clause.marks) = .error e := by
  obtain ⟨before, c, after, split, sound, fails⟩ := h
  dsimp only at split fails
  subst split
  induction before with
  | nil =>
    rw [List.nil_append, List.map_cons]
    have own := separated c List.mem_cons_self
    by_cases alone : after = []
    · subst alone
      rw [List.map_nil, readSegments]
      by_cases dangles : dangling = true
      · rw [if_pos ⟨dangles, rfl⟩] at fails
        rw [if_pos dangles, fails]
      · rw [if_neg fun cut => dangles cut.1] at fails
        rw [if_neg dangles, Clause.readSegment_of_fails own fails]
        rfl
    · rw [if_neg fun cut => alone cut.2] at fails
      rw [readSegments_cons (by simpa using alone), Clause.readSegment_of_fails own fails]
  | cons b before ih =>
    obtain ⟨⟨said, spoken⟩, sound⟩ := List.forall_mem_cons.mp sound
    obtain ⟨own, separated⟩ := List.forall_mem_cons.mp separated
    have later := ih sound separated fails
    rw [List.cons_append, List.map_cons, readSegments_cons (by simp),
      Clause.readSegment_of_spoken own spoken]
    simp only [later]
    rfl

/-- What a form says decides what is read, because it says something or something is wrong. -/
theorem readSegments_eq_ok_iff {pairs : List (String × String)}
    (separated : ∀ c ∈ clauses, .plain '=' ∉ c.key) (some_clause : clauses ≠ []) :
    readSegments dangling (clauses.map Clause.marks) = .ok pairs ↔
      Says ⟨clauses, dangling⟩ pairs := by
  constructor
  · intro read
    rcases says_or_fails some_clause with ⟨others, spoken⟩ | ⟨e, fails⟩
    · rw [readSegments_of_spoken separated some_clause spoken, Except.ok.injEq] at read
      exact read ▸ spoken
    · rw [readSegments_of_fails separated fails] at read
      cases read
  · exact readSegments_of_spoken separated some_clause

theorem readSegments_eq_error_iff {e : PropertyError}
    (separated : ∀ c ∈ clauses, .plain '=' ∉ c.key) (some_clause : clauses ≠ []) :
    readSegments dangling (clauses.map Clause.marks) = .error e ↔
      Fails ⟨clauses, dangling⟩ e := by
  constructor
  · intro read
    rcases says_or_fails some_clause with ⟨pairs, spoken⟩ | ⟨other, fails⟩
    · rw [readSegments_of_spoken separated some_clause spoken] at read
      cases read
    · rw [readSegments_of_fails separated fails, Except.error.injEq] at read
      exact read ▸ fails
  · exact readSegments_of_fails separated

end

theorem parse_eq_find (s : String) :
    parse s = (readSegments (find s).dangling ((find s).clauses.map Clause.marks)).map
      fun pairs => (∅ : Properties).insertAll pairs := by
  have found : (find s).clauses.map Clause.marks = segments (Mark.scan s.toList).1 := by
    rw [find, List.map_map]
    simp only [Function.comp_def, Clause.marks_ofMarks, List.map_id']
  rw [parse_eq_readSegments, found]
  rfl

end Form

theorem parse_eq_ok_iff {s : String} {p : Properties} :
    parse s = .ok p ↔
      ∃ f : Form, f.Of s ∧ ∃ pairs, f.Says pairs ∧ p.Collects pairs := by
  have of := Form.of_find s
  have separated := fun c member => (of.proper c member).separated
  simp only [Form.of_iff, exists_eq_left, collects_iff]
  rw [Form.parse_eq_find, map_eq_ok_iff]
  simp only [Form.readSegments_eq_ok_iff separated of.some_clause]

theorem parse_eq_error_iff {s : String} {e : PropertyError} :
    parse s = .error e ↔ ∃ f : Form, f.Of s ∧ f.Fails e := by
  have of := Form.of_find s
  have separated := fun c member => (of.proper c member).separated
  simp only [Form.of_iff, exists_eq_left]
  rw [Form.parse_eq_find, map_eq_error_iff, Form.readSegments_eq_error_iff separated of.some_clause]

/-- Every text is taken apart in one way. It is read if nothing is wrong with any of its clauses, as
the properties that collect their pairs, and else the leftmost clause at fault decides the error. -/
theorem parse_iff_spelled (s : String) :
    (∃! f : Form, f.Of s) ∧
      (∀ p, parse s = .ok p ↔
        ∃ f : Form, f.Of s ∧ ∃ pairs, f.Says pairs ∧ p.Collects pairs) ∧
      ∀ e, parse s = .error e ↔ ∃ f : Form, f.Of s ∧ f.Fails e :=
  ⟨⟨Form.find s, Form.of_find s, fun _ h => h.eq_find⟩, fun _ => parse_eq_ok_iff,
    fun _ => parse_eq_error_iff⟩

end RemoteDevice.Properties
