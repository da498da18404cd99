import Mathlib.Data.List.ReduceOption
import RemoteDevice.Property.Printer
import RemoteDevice.Proofs.Property.Grammar

/-!
# Reading back what was printed

The printed form of properties is the text of a form with a clause for each pair, so what is read
from it is known from the grammar. It is the properties themselves unless trimming takes something
away, and of properties that were read it never does.
-/
set_option autoImplicit false

namespace RemoteDevice.Properties

/-! ## Printed texts and their forms -/

/-- The mark by which a character is printed. -/
def printMark (c : Char) : Mark := if isSpecial c then .escaped c else .plain c

def printMarks (s : String) : List Mark := s.toList.map printMark

theorem char_printMark (c : Char) : (printMark c).char = c := by
  rw [printMark]
  split <;> rfl

theorem map_char_printMarks (s : String) : (printMarks s).map Mark.char = s.toList := by
  rw [printMarks, List.map_map]
  simp [Function.comp_def, char_printMark]

theorem source_printMarks (s : String) :
    (printMarks s).flatMap Mark.source = escape s.toList := by
  rw [printMarks]
  induction s.toList with
  | nil => rfl
  | cons c rest ih =>
    rw [List.map_cons, List.flatMap_cons, ih, escape, printMark]
    split <;> rfl

theorem plain_not_mem_printMarks {c : Char} (special : isSpecial c = true) (s : String) :
    .plain c ∉ printMarks s := by
  intro member
  obtain ⟨d, -, same⟩ := List.mem_map.mp member
  rw [printMark] at same
  split at same
  · cases same
  next ordinary =>
    cases same
    exact ordinary special

namespace Clause

def ofPair (pair : String × String) : Clause :=
  ⟨printMarks pair.1, some (printMarks pair.2)⟩

theorem source_ofPair (pair : String × String) : (ofPair pair).source = printPair pair := by
  have spelled : (ofPair pair).source = (printMarks pair.1).flatMap Mark.source ++
      '=' :: (printMarks pair.2).flatMap Mark.source := by
    rw [source, marks, ofPair, List.flatMap_append]
    rfl
  rw [spelled, source_printMarks, source_printMarks, printPair]

theorem plain_not_mem_ofPair {c : Char} (special : isSpecial c = true) (other : c ≠ '=')
    (pair : String × String) : .plain c ∉ (ofPair pair).marks := by
  intro member
  rcases List.mem_append.mp member with inKey | after
  · exact plain_not_mem_printMarks special pair.1 inKey
  · rcases List.mem_cons.mp after with same | inValue
    · exact other (Mark.plain.inj same)
    · exact plain_not_mem_printMarks special pair.2 inValue

theorem proper_ofPair (pair : String × String) : (ofPair pair).Proper where
  escaping := by
    rintro m member rfl
    exact plain_not_mem_ofPair rfl (by decide) pair member
  closed := plain_not_mem_ofPair rfl (by decide) pair
  separated := plain_not_mem_printMarks rfl pair.1

end Clause

namespace Form

/-- A clause for each pair, and a blank one if there is none. -/
def ofPairs : List (String × String) → Form
  | [] => ⟨[⟨[], none⟩], false⟩
  | pair :: rest => ⟨(pair :: rest).map Clause.ofPair, false⟩

theorem of_print (p : Properties) : (ofPairs p.pairs).Of p.print := by
  rw [print]
  cases p.pairs with
  | nil =>
    refine ⟨rfl, by simp [ofPairs], ?_⟩
    intro c member
    rw [List.mem_singleton.mp member]
    exact ⟨by simp [Clause.marks], by simp [Clause.marks], by simp⟩
  | cons pair rest =>
    refine ⟨?_, by simp [ofPairs], ?_⟩
    · rw [String.toList_ofList, printPairs_eq_intercalate, text, ofPairs]
      simp [Function.comp_def, Clause.source_ofPair]
    · intro c member
      obtain ⟨own, -, rfl⟩ := List.mem_map.mp member
      exact Clause.proper_ofPair own

end Form

/-! ## Texts that are kept as they are -/

/-- Trimming takes nothing away, and no name is empty. -/
structure Tidy (p : Properties) : Prop where
  named : ∀ pair ∈ p.pairs, pair.1 ≠ ""
  names_trimmed : ∀ pair ∈ p.pairs, Text.trim pair.1 = pair.1
  texts_trimmed : ∀ pair ∈ p.pairs, Text.trim pair.2 = pair.2

theorem Tidy.of_subset {p q : Properties} (h : q.Tidy) (subset : p.pairs ⊆ q.pairs) : p.Tidy where
  named pair member := h.named pair (subset member)
  names_trimmed pair member := h.names_trimmed pair (subset member)
  texts_trimmed pair member := h.texts_trimmed pair (subset member)

namespace Clause

theorem content_printMarks_iff {s : String} : Content (printMarks s) s ↔ Text.trim s = s := by
  rw [← content_eq_iff, content, map_char_printMarks, Text.trim]

theorem says_ofPair {pair : String × String} (named : pair.1 ≠ "")
    (name_trimmed : Text.trim pair.1 = pair.1) (text_trimmed : Text.trim pair.2 = pair.2) :
    (ofPair pair).Says (some pair) := by
  have name_of := content_printMarks_iff.mpr name_trimmed
  refine .pair ?_ name_of (content_printMarks_iff.mpr text_trimmed)
  rw [← content_isEmpty_iff, content_eq_iff.mpr name_of, String.isEmpty_iff]
  exact named

/-- What a clause says has been trimmed. -/
theorem trimmed_of_spoken {c : Clause} {name text : String} (h : c.Says (some (name, text))) :
    name ≠ "" ∧ Text.trim name = name ∧ Text.trim text = text := by
  cases h with
  | pair named name_of text_of =>
    refine ⟨?_, ?_, ?_⟩
    · rintro rfl
      rw [← content_isEmpty_iff, content_eq_iff.mpr name_of] at named
      exact named rfl
    · rw [Text.trim, name_of.self.eq, String.ofList_toList]
    · rw [Text.trim, text_of.self.eq, String.ofList_toList]

end Clause

theorem Form.exists_clause_of_spoken {clauses : List Clause}
    {parts : List (Option (String × String))} (spoken : List.Forall₂ Clause.Says clauses parts)
    {said : Option (String × String)} (member : said ∈ parts) : ∃ c ∈ clauses, c.Says said := by
  induction spoken with
  | nil => cases member
  | @cons c own clauses parts first spoken ih =>
    rcases List.mem_cons.mp member with rfl | later
    · exact ⟨c, List.mem_cons_self, first⟩
    · obtain ⟨found, among, says_it⟩ := ih later
      exact ⟨found, List.mem_cons_of_mem c among, says_it⟩

theorem tidy_of_parse {s : String} {p : Properties} (read : parse s = .ok p) : p.Tidy := by
  obtain ⟨f, -, pairs, ⟨-, parts, spoken, rfl⟩, collects⟩ := parse_eq_ok_iff.mp read
  rw [collects_iff] at collects
  have trimmed : ∀ pair ∈ p.pairs,
      pair.1 ≠ "" ∧ Text.trim pair.1 = pair.1 ∧ Text.trim pair.2 = pair.2 := by
    intro pair member
    rw [← collects] at member
    rcases mem_insertAll member with none_before | among
    · cases none_before
    · have part : some pair ∈ parts := List.reduceOption_mem_iff.mp among
      obtain ⟨c, -, own⟩ := Form.exists_clause_of_spoken spoken part
      exact Clause.trimmed_of_spoken own
  exact ⟨fun pair member => (trimmed pair member).1, fun pair member => (trimmed pair member).2.1,
    fun pair member => (trimmed pair member).2.2⟩

theorem distinct_of_parse {s : String} {p : Properties} (read : parse s = .ok p) : p.Distinct := by
  obtain ⟨f, -, pairs, -, collects⟩ := parse_eq_ok_iff.mp read
  rw [← collects_iff.mp collects]
  exact distinct_empty.insertAll pairs

theorem Form.says_ofPairs {p : Properties} (h : p.Tidy) : (ofPairs p.pairs).Says p.pairs := by
  have spoken : ∀ pair ∈ p.pairs, (Clause.ofPair pair).Says (some pair) := fun pair member =>
    Clause.says_ofPair (h.named pair member) (h.names_trimmed pair member)
      (h.texts_trimmed pair member)
  cases listed : p.pairs with
  | nil =>
    have blank : Clause.Blank [] := fun m member => absurd member List.not_mem_nil
    exact ⟨rfl, [none], .cons (.nothing blank) .nil, rfl⟩
  | cons pair rest =>
    rw [listed] at spoken
    refine ⟨rfl, (pair :: rest).map some, ?_, by simp [List.reduceOption]⟩
    rw [ofPairs, List.forall₂_map_left_iff, List.forall₂_map_right_iff, List.forall₂_same]
    exact spoken

/-- Tidy properties come back. -/
theorem parse_print_of_tidy {p : Properties} (distinct : p.Distinct) (tidy : p.Tidy) :
    parse p.print = .ok p :=
  parse_eq_ok_iff.mpr ⟨Form.ofPairs p.pairs, Form.of_print p, p.pairs, Form.says_ofPairs tidy,
    collects_iff.mpr distinct.insertAll_pairs⟩

/-! ## Properties that can be built -/

/-- The properties that reading, inserting and erasing lead to. -/
inductive Built : Properties → Prop
  | empty : Built ∅
  | read {text : String} {p : Properties} (read : parse text = .ok p) : Built p
  | inserted {p : Properties} (key value : String) (built : Built p) : Built (p.insert key value)
  | erased {p : Properties} (key : String) (built : Built p) : Built (p.erase key)

theorem Built.distinct {p : Properties} (h : p.Built) : p.Distinct := by
  induction h with
  | empty => exact distinct_empty
  | read read => exact distinct_of_parse read
  | inserted key value _ ih => exact ih.insert key value
  | erased key _ ih => exact ih.erase key

theorem Tidy.eraseAll {p : Properties} (h : p.Tidy) (names : List String) :
    (names.foldl erase p).Tidy := by
  induction names generalizing p with
  | nil => exact h
  | cons name names ih => exact ih (h.of_subset (erasePair_sublist name p.pairs).subset)

/-- Properties that can be built are read back from their printed form as they are exactly if they
are tidy. If they were read and only lost some names since then, they are, and printing what is read
back gives the same text. -/
theorem Built.parse_print_iff {p : Properties} (built : p.Built) :
    (parse p.print = .ok p ↔ p.Tidy) ∧
      ∀ text q, parse text = .ok q → ∀ names : List String, names.foldl erase q = p →
        parse p.print = .ok p ∧ (parse p.print).map print = .ok p.print := by
  have exact_iff : parse p.print = .ok p ↔ p.Tidy :=
    ⟨tidy_of_parse, parse_print_of_tidy built.distinct⟩
  refine ⟨exact_iff, ?_⟩
  intro text q read names left
  have tidy : p.Tidy := left ▸ (tidy_of_parse read).eraseAll names
  have back := exact_iff.mpr tidy
  refine ⟨back, ?_⟩
  rw [back]
  rfl

/-- Separators in a name and a text are escaped and come back; a blank at the end of a text does
not. -/
theorem parse_print_separators :
    (Built ⟨[("k=\\", "a;b"), ("c", "")]⟩ ∧
      parse (print ⟨[("k=\\", "a;b"), ("c", "")]⟩) = .ok ⟨[("k=\\", "a;b"), ("c", "")]⟩) ∧
    Built ⟨[("unit", "m ")]⟩ ∧
      parse (print ⟨[("unit", "m ")]⟩) ≠ .ok ⟨[("unit", "m ")]⟩ := by
  have separators : Built ⟨[("k=\\", "a;b"), ("c", "")]⟩ :=
    (Built.empty.inserted "k=\\" "a;b").inserted "c" ""
  have padded : Built ⟨[("unit", "m ")]⟩ := Built.empty.inserted "unit" "m "
  refine ⟨⟨separators, separators.parse_print_iff.1.mpr ?_⟩, padded, ?_⟩
  · exact ⟨by decide, by decide, by decide⟩
  · intro back
    have tidy := padded.parse_print_iff.1.mp back
    exact absurd (tidy.texts_trimmed ("unit", "m ") List.mem_cons_self) (by decide)

end RemoteDevice.Properties
