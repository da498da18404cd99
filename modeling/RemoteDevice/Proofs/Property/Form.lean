import RemoteDevice.Proofs.Property.Marks
import RemoteDevice.Proofs.Text.Split

/-!
# Property texts taken apart

A `Form` is a property text with its parts as they stand in it: clauses between the plain
semicolons, each a key and, after its first plain `=`, a value. Every text has exactly one form, and
it is the one that the reader finds.
-/
set_option autoImplicit false

namespace RemoteDevice.Properties

/-! ## Marks -/

namespace Mark

/-- The text of some marks, with a backslash after them if one escapes nothing. -/
def spelled (marks : List Mark) (dangling : Bool) : List Char :=
  marks.flatMap source ++ if dangling then ['\\'] else []

theorem spelled_scan (l : List Char) : spelled (scan l).1 (scan l).2 = l := by
  fun_induction scan l with
  | case1 => rfl
  | case2 => rfl
  | case3 c rest marks dangling read ih =>
    rw [read] at ih
    rw [← ih]
    rfl
  | case4 c rest _ _ marks dangling read ih =>
    rw [read] at ih
    rw [← ih]
    rfl

theorem ne_of_mem_scan {l : List Char} {m : Mark} (member : m ∈ (scan l).1) :
    m ≠ .plain '\\' := by
  fun_induction scan l with
  | case1 => cases member
  | case2 => cases member
  | case3 c rest marks dangling read ih =>
    rw [read] at ih
    rcases List.mem_cons.mp member with rfl | later
    · intro same
      cases same
    · exact ih later
  | case4 c rest alone followed marks dangling read ih =>
    rw [read] at ih
    rcases List.mem_cons.mp member with rfl | later
    · rintro ⟨rfl⟩
      -- a backslash is either the last character or followed by one
      cases rest with
      | nil => exact alone rfl rfl
      | cons next rest => exact followed next rest rfl rfl
    · exact ih later

theorem scan_spelled {marks : List Mark} {dangling : Bool}
    (proper : ∀ m ∈ marks, m ≠ .plain '\\') :
    scan (spelled marks dangling) = (marks, dangling) := by
  induction marks with
  | nil => cases dangling <;> rfl
  | cons m marks ih =>
    have later := ih fun other among => proper other (List.mem_cons_of_mem m among)
    cases m with
    | plain c =>
      have plainly : c ≠ '\\' := fun same => proper _ List.mem_cons_self (same ▸ rfl)
      have step : spelled (plain c :: marks) dangling = c :: spelled marks dangling := rfl
      rw [step, scan_of_ne plainly, later]
    | escaped c =>
      have step : spelled (escaped c :: marks) dangling = '\\' :: c :: spelled marks dangling := rfl
      rw [step, scan, later]

theorem scan_eq_iff {l : List Char} {marks : List Mark} {dangling : Bool} :
    scan l = (marks, dangling) ↔
      spelled marks dangling = l ∧ ∀ m ∈ marks, m ≠ .plain '\\' := by
  constructor
  · intro read
    have spells := spelled_scan l
    rw [read] at spells
    refine ⟨spells, fun m member => ne_of_mem_scan (l := l) ?_⟩
    rw [read]
    exact member
  · rintro ⟨rfl, proper⟩
    exact scan_spelled proper

end Mark

theorem segments_eq_splitOn (marks : List Mark) : segments marks = marks.splitOn (.plain ';') := by
  induction marks with
  | nil => rfl
  | cons m rest ih =>
    rw [segments, List.splitOn_cons_eq_if_modifyHead, ih]
    by_cases same : m = .plain ';'
    · simp [same]
    · have miss : (m == .plain ';') = false := by simp [same]
      rw [if_neg same, miss]
      cases parts : rest.splitOn (.plain ';') with
      | nil => exact absurd parts (List.splitOn_ne_nil _ rest)
      | cons first more => rfl

/-! ## Clauses -/

/-- What stands between two semicolons: a key, and a value if there is an `=`. -/
structure Clause where
  key : List Mark
  value : Option (List Mark)
deriving DecidableEq, Repr

namespace Clause

def marks (c : Clause) : List Mark :=
  c.key ++ match c.value with
    | none => []
    | some value => .plain '=' :: value

/-- The clause as it was written. -/
def source (c : Clause) : List Char := c.marks.flatMap Mark.source

def ofMarks (marks : List Mark) : Clause := ⟨(separate marks).1, (separate marks).2⟩

/-- Plain characters in a clause stand for themselves: none escapes, none ends the clause, and none
ends the key. -/
structure Proper (c : Clause) : Prop where
  escaping : ∀ m ∈ c.marks, m ≠ .plain '\\'
  closed : .plain ';' ∉ c.marks
  separated : .plain '=' ∉ c.key

theorem marks_ofMarks (marks : List Mark) : (ofMarks marks).marks = marks := by
  induction marks with
  | nil => rfl
  | cons m rest ih =>
    rw [ofMarks, separate]
    by_cases ends : m = .plain '='
    · rw [if_pos ends, ends]
      rfl
    · rw [if_neg ends]
      exact congrArg (m :: ·) ih

theorem separated_ofMarks (marks : List Mark) : .plain '=' ∉ (ofMarks marks).key := by
  induction marks with
  | nil => exact List.not_mem_nil
  | cons m rest ih =>
    rw [ofMarks, separate]
    by_cases ends : m = .plain '='
    · rw [if_pos ends]
      exact List.not_mem_nil
    · rw [if_neg ends]
      intro member
      rcases List.mem_cons.mp member with same | later
      · exact ends same.symm
      · exact ih later

theorem separate_marks {c : Clause} (separated : .plain '=' ∉ c.key) :
    separate c.marks = (c.key, c.value) := by
  obtain ⟨key, value⟩ := c
  induction key with
  | nil => cases value <;> rfl
  | cons m key ih =>
    have inside : m ≠ .plain '=' := fun same => separated (same ▸ List.mem_cons_self)
    have later := ih fun member => separated (List.mem_cons_of_mem m member)
    have step : marks ⟨m :: key, value⟩ = m :: marks ⟨key, value⟩ := rfl
    rw [step, separate, if_neg inside, later]

theorem ofMarks_marks {c : Clause} (separated : .plain '=' ∉ c.key) : ofMarks c.marks = c := by
  rw [ofMarks, separate_marks separated]

end Clause

/-! ## Whole texts -/

structure Form where
  clauses : List Clause
  /-- Whether a backslash at the end escapes nothing. -/
  dangling : Bool
deriving DecidableEq, Repr

namespace Form

/-- The clauses joined by semicolons. -/
def text (f : Form) : List Char :=
  [';'].intercalate (f.clauses.map Clause.source) ++ if f.dangling then ['\\'] else []

/-- The form is the text taken apart. -/
structure Of (f : Form) (s : String) : Prop where
  text_eq : f.text = s.toList
  some_clause : f.clauses ≠ []
  proper : ∀ c ∈ f.clauses, c.Proper

/-- The form that the reader finds. -/
def find (s : String) : Form where
  clauses := (segments (Mark.scan s.toList).1).map Clause.ofMarks
  dangling := (Mark.scan s.toList).2

def marks (f : Form) : List Mark := [.plain ';'].intercalate (f.clauses.map Clause.marks)

theorem text_eq_spelled (f : Form) : f.text = Mark.spelled f.marks f.dangling := by
  rw [text, Mark.spelled, marks, Text.flatMap_intercalate, List.map_map]
  rfl

theorem of_find (s : String) : (find s).Of s := by
  have read : Mark.scan s.toList = ((Mark.scan s.toList).1, (Mark.scan s.toList).2) := rfl
  obtain ⟨spelled, escaping⟩ := Mark.scan_eq_iff.mp read
  have parts := segments_eq_splitOn (Mark.scan s.toList).1
  obtain ⟨joined, some, closed⟩ := Text.splitOn_eq_iff.mp parts.symm
  have marks_find : (find s).marks = (Mark.scan s.toList).1 := by
    rw [marks, find, List.map_map]
    simp only [Function.comp_def, Clause.marks_ofMarks, List.map_id']
    exact joined
  refine ⟨?_, by simpa [find] using some, ?_⟩
  · rw [text_eq_spelled, marks_find]
    exact spelled
  · intro c member
    obtain ⟨part, among, rfl⟩ := List.mem_map.mp member
    have within := Text.subset_intercalate [.plain ';'] among
    rw [joined] at within
    refine ⟨?_, ?_, Clause.separated_ofMarks part⟩
    · rw [Clause.marks_ofMarks]
      exact fun m inside => escaping m (within inside)
    · rw [Clause.marks_ofMarks]
      exact closed part among

theorem Of.eq_find {f : Form} {s : String} (h : f.Of s) : f = find s := by
  have escaping : ∀ m ∈ f.marks, m ≠ .plain '\\' := by
    intro m member
    rcases Text.mem_intercalate member with between | ⟨part, among, inside⟩
    · rw [List.mem_singleton.mp between]
      intro same
      cases same
    · obtain ⟨c, clause, rfl⟩ := List.mem_map.mp among
      exact (h.proper c clause).escaping m inside
  have read : Mark.scan s.toList = (f.marks, f.dangling) := by
    rw [Mark.scan_eq_iff, ← text_eq_spelled]
    exact ⟨h.text_eq, escaping⟩
  have parts : segments f.marks = f.clauses.map Clause.marks := by
    rw [segments_eq_splitOn, Text.splitOn_eq_iff]
    refine ⟨rfl, by simpa using h.some_clause, ?_⟩
    intro part among
    obtain ⟨c, clause, rfl⟩ := List.mem_map.mp among
    exact (h.proper c clause).closed
  have clauses : f.clauses.map (Clause.ofMarks ∘ Clause.marks) = f.clauses.map id :=
    List.map_congr_left fun c member => Clause.ofMarks_marks (h.proper c member).separated
  rw [find, read, parts, List.map_map, clauses, List.map_id]

theorem of_iff {f : Form} {s : String} : f.Of s ↔ f = find s := by
  constructor
  · exact Of.eq_find
  · rintro rfl
    exact of_find s

end Form

end RemoteDevice.Properties
