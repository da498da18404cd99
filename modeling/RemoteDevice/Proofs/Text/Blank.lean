import Mathlib.Data.List.DropRight
import RemoteDevice.Text.Blank

/-!
# What trimming comes to

`Trims` says what a trimmed text is without regard to how it is computed, and `trimChars` computes
just that.
-/
set_option autoImplicit false

namespace RemoteDevice.Text

theorem isBlank_of_isDigit {c : Char} (digit : c.isDigit = true) : isBlank c = false := by
  have bounds : 48 ≤ c.toNat ∧ c.toNat ≤ 57 := by
    simpa [Char.isDigit, UInt32.le_iff_toNat_le] using digit
  simp only [isBlank, Bool.or_eq_false_iff, Bool.and_eq_false_iff, decide_eq_false_iff_not]
  omega

/-- `core` is `text` without the blanks at its two ends. -/
structure Trims (text core : List Char) : Prop where
  around : ∃ before after, text = before ++ core ++ after ∧
    (∀ c ∈ before, isBlank c = true) ∧ ∀ c ∈ after, isBlank c = true
  first : ∀ c ∈ core.head?, isBlank c = false
  last : ∀ c ∈ core.getLast?, isBlank c = false

theorem dropWhile_of_head? {l : List Char} (first : ∀ c ∈ l.head?, isBlank c = false) :
    l.dropWhile isBlank = l := by
  cases l with
  | nil => rfl
  | cons c r => simp [first c (by simp)]

theorem trims_trimChars (text : List Char) : Trims text (trimChars text) := by
  have front : text.takeWhile isBlank ++ trimStart text = text := List.takeWhile_append_dropWhile
  have back : trimChars text ++ (trimStart text).rtakeWhile isBlank = trimStart text :=
    List.rdropWhile_append_rtakeWhile
  refine ⟨⟨text.takeWhile isBlank, (trimStart text).rtakeWhile isBlank, ?_, ?_, ?_⟩, ?_, ?_⟩
  · rw [List.append_assoc, back, front]
  · intro c member
    exact List.mem_takeWhile_imp member
  · intro c member
    exact List.mem_rtakeWhile_imp member
  · intro c first
    -- what is left after the end has been trimmed starts as before
    have start : c ∈ (trimStart text).head? := by
      rw [← back, List.head?_append, Option.mem_def, Option.mem_def.mp first, Option.some_or]
    have stopped := List.head?_dropWhile_not isBlank text
    rw [trimStart, Option.mem_def] at start
    rw [start] at stopped
    exact stopped
  · intro c last
    rw [trimChars, trimEnd, List.getLast?_reverse, Option.mem_def] at last
    have stopped := List.head?_dropWhile_not isBlank (trimStart text).reverse
    rw [last] at stopped
    exact stopped

theorem Trims.eq {text core : List Char} (h : Trims text core) : trimChars text = core := by
  obtain ⟨before, after, rfl, blankBefore, blankAfter⟩ := h.around
  have blankBack : ∀ c ∈ after.reverse, isBlank c = true := by simpa using blankAfter
  rw [trimChars, trimStart, List.append_assoc, List.dropWhile_append_of_pos blankBefore]
  cases core with
  | nil =>
    rw [List.nil_append, List.dropWhile_eq_nil_iff.mpr blankAfter]
    rfl
  | cons c rest =>
    have start : ∀ d ∈ (c :: rest ++ after).head?, isBlank d = false := h.first
    have stop : ∀ d ∈ (c :: rest).reverse.head?, isBlank d = false := by
      rw [List.head?_reverse]
      exact h.last
    rw [dropWhile_of_head? start, trimEnd, List.reverse_append,
      List.dropWhile_append_of_pos blankBack, dropWhile_of_head? stop, List.reverse_reverse]

theorem trimChars_eq_iff {text core : List Char} : trimChars text = core ↔ Trims text core := by
  constructor
  · rintro rfl
    exact trims_trimChars text
  · exact Trims.eq

theorem Trims.subset {text core : List Char} (h : Trims text core) : core ⊆ text := by
  obtain ⟨before, after, rfl, -, -⟩ := h.around
  intro c member
  simp [member]

theorem trims_nil_iff {text : List Char} : Trims text [] ↔ ∀ c ∈ text, isBlank c = true := by
  constructor
  · intro h
    obtain ⟨before, after, rfl, blankBefore, blankAfter⟩ := h.around
    intro c member
    rw [List.append_nil, List.mem_append] at member
    rcases member with front | back
    · exact blankBefore c front
    · exact blankAfter c back
  · intro blank
    exact ⟨⟨text, [], by simp, blank, by simp⟩, by simp, by simp⟩

/-- A trimmed text has nothing to trim. -/
theorem Trims.self {text core : List Char} (h : Trims text core) : Trims core core where
  around := ⟨[], [], by simp, by simp, by simp⟩
  first := h.first
  last := h.last

theorem trimChars_of_unblank {l : List Char} (unblank : ∀ c ∈ l, isBlank c = false) :
    trimChars l = l := by
  refine Trims.eq ⟨⟨[], [], by simp, by simp, by simp⟩, ?_, ?_⟩
  · intro c first
    exact unblank c (List.mem_of_head? first)
  · intro c last
    exact unblank c (List.mem_of_getLast? last)

theorem toList_trim (s : String) : (trim s).toList = trimChars s.toList := by
  simp [trim]

end RemoteDevice.Text
