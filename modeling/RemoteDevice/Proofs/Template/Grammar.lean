import RemoteDevice.Template.Piece

/-!
# The grammar of templates

`Cuts` says how a template falls into characters and directives, each directive with its parts as
they are spelled: flags, the digits of the width, the digits after a point, and the conversion. A
part ends before the first character that it cannot take. Every template has exactly one cut, and
the pieces of a template are read off its cut from the left.
-/
set_option autoImplicit false

namespace RemoteDevice.Template

/-! ## The longest beginning of a text -/

section Munch

variable {p : Char → Bool} {body rest : List Char}

theorem takeWhile_append_of_head? (inside : ∀ c ∈ body, p c = true)
    (stops : ∀ c ∈ rest.head?, p c = false) : (body ++ rest).takeWhile p = body := by
  rw [List.takeWhile_append_of_pos inside]
  cases rest with
  | nil => simp
  | cons c rest => simp [stops c rfl]

theorem dropWhile_append_of_head? (inside : ∀ c ∈ body, p c = true)
    (stops : ∀ c ∈ rest.head?, p c = false) : (body ++ rest).dropWhile p = rest := by
  rw [List.dropWhile_append_of_pos inside]
  cases rest with
  | nil => simp
  | cons c rest => simp [stops c rfl]

theorem head?_dropWhile_eq_false (l : List Char) : ∀ c ∈ (l.dropWhile p).head?, p c = false := by
  intro c first
  have boundary := List.head?_dropWhile_not p l
  rw [Option.mem_def.mp first] at boundary
  exact boundary

end Munch

/-! ## Numbers -/

/-- The number that decimal digits stand for, however long they are. -/
def number (digits : List Char) : Nat := Nat.ofDigitChars 10 digits 0

theorem appendDigit_min (n : Nat) (c : Char) :
    appendDigit (min n numberLimit) c =
      min (10 * n + (c.toNat - '0'.toNat)) numberLimit := by
  simp only [appendDigit]
  omega

theorem foldl_appendDigit (digits : List Char) (n : Nat) :
    digits.foldl appendDigit (min n numberLimit) =
      min (Nat.ofDigitChars 10 digits n) numberLimit := by
  induction digits generalizing n with
  | nil => rfl
  | cons c digits ih => rw [List.foldl_cons, appendDigit_min, ih, Nat.ofDigitChars_cons]

/-- A number is read to its last digit, and its value is exact up to the limit. -/
theorem takeNumber_eq {digits rest : List Char} (inside : ∀ c ∈ digits, c.isDigit = true)
    (stops : ∀ c ∈ rest.head?, c.isDigit = false) :
    takeNumber (digits ++ rest) =
      (if digits = [] then none else some (min (number digits) numberLimit), rest) := by
  have folded := foldl_appendDigit digits 0
  rw [Nat.zero_min] at folded
  rw [takeNumber, takeWhile_append_of_head? inside stops, dropWhile_append_of_head? inside stops,
    folded]
  simp only [List.isEmpty_iff, number]

/-- Where there are no digits, the number is taken as zero. -/
theorem takeNumber_append {digits rest : List Char} (inside : ∀ c ∈ digits, c.isDigit = true)
    (stops : ∀ c ∈ rest.head?, c.isDigit = false) :
    (takeNumber (digits ++ rest)).1.getD 0 = min (number digits) numberLimit ∧
      (takeNumber (digits ++ rest)).2 = rest := by
  rw [takeNumber_eq inside stops]
  refine ⟨?_, rfl⟩
  cases digits with
  | nil => rfl
  | cons c digits => rfl

/-! ## Directives -/

/-- What stands between the `%` of a directive and its conversion. -/
structure Spelling where
  flags : List Char
  width : List Char
  /-- The digits after the point, if there is a point. -/
  precision : Option (List Char)
deriving DecidableEq, Repr

namespace Spelling

def places (s : Spelling) : List Char :=
  match s.precision with
  | none => []
  | some digits => '.' :: digits

def text (s : Spelling) : List Char := s.flags ++ (s.width ++ s.places)

/-- Zeros in front of a width are flags. -/
structure Proper (s : Spelling) : Prop where
  flags : ∀ c ∈ s.flags, isFlag c = true
  width : ∀ c ∈ s.width, c.isDigit = true
  width_head : s.width.head? ≠ some '0'
  precision : ∀ digits, s.precision = some digits → ∀ c ∈ digits, c.isDigit = true

/-- None of the parts can take the character too. -/
def StopsAt (s : Spelling) (c : Char) : Prop :=
  c.isDigit = false ∧ (s.precision = none → c ≠ '.' ∧ (s.width = [] → isFlag c = false))

def Stops (s : Spelling) (rest : List Char) : Prop := ∀ c ∈ rest.head?, s.StopsAt c

/-- The layout that a directive asks for, with its numbers as they are spelled. -/
def layout (s : Spelling) : Directive :=
  { ofFlags s.flags with width := number s.width, precision := s.precision.map number }

def Oversize (s : Spelling) : Prop :=
  maxField < number s.width ∨ ∃ digits, s.precision = some digits ∧ maxField < number digits

instance (s : Spelling) : Decidable s.Oversize :=
  decidable_of_iff (maxField < number s.width ∨ ∃ digits ∈ s.precision, maxField < number digits)
    Iff.rfl

theorem isDigit_of_isFlag {c : Char} (flag : isFlag c = true) (nonzero : c ≠ '0') :
    c.isDigit = false := by
  simp only [isFlag, Bool.or_eq_true, decide_eq_true_eq] at flag
  rcases flag with (((rfl | zero) | rfl) | rfl) | rfl
  case inl.inl.inl.inr => exact absurd zero nonzero
  all_goals rfl

theorem isFlag_of_isDigit {c : Char} (digit : c.isDigit = true) (nonzero : c ≠ '0') :
    isFlag c = false := by
  rw [← Bool.not_eq_true]
  intro flag
  rw [isDigit_of_isFlag flag nonzero] at digit
  cases digit

section Munch

variable {s : Spelling} {rest : List Char}

/-- After the flags comes no other flag. -/
theorem Proper.flags_stop (proper : s.Proper) (stops : s.Stops rest) :
    ∀ c ∈ (s.width ++ (s.places ++ rest)).head?, isFlag c = false := by
  intro c first
  cases width : s.width with
  | cons digit digits =>
    simp only [width, List.cons_append, List.head?_cons, Option.mem_some_iff] at first
    subst first
    apply isFlag_of_isDigit
    · exact proper.width digit (by simp [width])
    · rintro rfl
      exact proper.width_head (by simp [width])
  | nil =>
    cases precision : s.precision with
    | some digits =>
      simp only [width, places, precision, List.nil_append, List.cons_append, List.head?_cons,
        Option.mem_some_iff] at first
      subst first
      rfl
    | none =>
      simp only [width, places, precision, List.nil_append] at first
      exact ((stops c first).2 precision).2 width

theorem Stops.width_stop (stops : s.Stops rest) :
    ∀ c ∈ (s.places ++ rest).head?, c.isDigit = false := by
  intro c first
  cases precision : s.precision with
  | some digits =>
    simp only [places, precision, List.cons_append, List.head?_cons, Option.mem_some_iff] at first
    subst first
    rfl
  | none =>
    simp only [places, precision, List.nil_append] at first
    exact (stops c first).1

/-- Reading a layout takes the longest parts. -/
theorem Proper.readLayout_eq (proper : s.Proper) (stops : s.Stops rest) :
    readLayout (s.text ++ rest) =
      ({ ofFlags s.flags with
          width := min (number s.width) numberLimit
          precision := s.precision.map fun digits => min (number digits) numberLimit }, rest) := by
  have inside := proper.flags
  have flags_stop := proper.flags_stop stops
  obtain ⟨width, after⟩ := takeNumber_append proper.width stops.width_stop
  rw [text, List.append_assoc, List.append_assoc, readLayout,
    takeWhile_append_of_head? inside flags_stop, dropWhile_append_of_head? inside flags_stop]
  simp only [width, after]
  cases precision : s.precision with
  | none =>
    simp only [places, precision, List.nil_append, Option.map_none]
    split
    next tail =>
      exact absurd rfl ((stops '.' rfl).2 precision).1
    next => rfl
  | some digits =>
    obtain ⟨value, tail⟩ :=
      takeNumber_append (proper.precision digits precision) fun c first => (stops c first).1
    simp only [places, precision, List.cons_append, value, tail, Option.map_some]

theorem Proper.readLayout_rest (proper : s.Proper) (stops : s.Stops rest) :
    (readLayout (s.text ++ rest)).2 = rest := by
  rw [proper.readLayout_eq stops]

theorem Proper.isOversize_iff (proper : s.Proper) (stops : s.Stops rest) :
    isOversize (readLayout (s.text ++ rest)).1 = true ↔ s.Oversize := by
  rw [proper.readLayout_eq stops, Oversize]
  have above : maxField < numberLimit := by decide
  have bounded : ∀ n, maxField < min n numberLimit ↔ maxField < n := by omega
  cases s.precision with
  | none => simp only [isOversize, bounded, Option.map_none, Option.getD_none, Nat.not_lt_zero,
      decide_false, Bool.or_false, decide_eq_true_eq, reduceCtorEq, false_and, exists_const,
      or_false]
  | some digits => simp only [isOversize, bounded, Option.map_some, Option.getD_some,
      Bool.or_eq_true, decide_eq_true_eq, Option.some.injEq, exists_eq_left']

theorem Proper.readLayout_layout (proper : s.Proper) (stops : s.Stops rest)
    (within : ¬s.Oversize) : (readLayout (s.text ++ rest)).1 = s.layout := by
  rw [proper.readLayout_eq stops, layout]
  have above : maxField < numberLimit := by decide
  simp only [Oversize, not_or, not_exists, not_and, Nat.not_lt] at within
  obtain ⟨width, places⟩ := within
  have exact_width : min (number s.width) numberLimit = number s.width := by omega
  rw [exact_width]
  cases precision : s.precision with
  | none => rfl
  | some digits =>
    have le := places digits precision
    have exact_places : min (number digits) numberLimit = number digits := by omega
    simp only [Option.map_some, exact_places]

end Munch

/-- Every text begins with a spelling, if only with an empty one. -/
theorem exists_text (l : List Char) :
    ∃ (s : Spelling) (rest : List Char), s.Proper ∧ s.Stops rest ∧ l = s.text ++ rest := by
  have flags := List.takeWhile_append_dropWhile (p := isFlag) (l := l)
  have width := List.takeWhile_append_dropWhile (p := Char.isDigit) (l := l.dropWhile isFlag)
  have flags_stop := head?_dropWhile_eq_false (p := isFlag) l
  have width_stop := head?_dropWhile_eq_false (p := Char.isDigit) (l.dropWhile isFlag)
  have isFlags : ∀ c ∈ l.takeWhile isFlag, isFlag c = true :=
    List.all_eq_true.mp List.all_takeWhile
  have isDigits : ∀ c ∈ (l.dropWhile isFlag).takeWhile Char.isDigit, c.isDigit = true :=
    List.all_eq_true.mp List.all_takeWhile
  generalize l.takeWhile isFlag = f at flags isFlags
  generalize l.dropWhile isFlag = l₁ at flags flags_stop width width_stop isDigits
  generalize l₁.takeWhile Char.isDigit = w at width isDigits
  generalize l₁.dropWhile Char.isDigit = l₂ at width width_stop
  subst flags
  subst width
  have nonzero : w.head? ≠ some '0' := by
    intro zero
    have first : '0' ∈ (w ++ l₂).head? := by simp [zero]
    exact absurd (flags_stop '0' first) (by decide)
  by_cases point : l₂.head? = some '.'
  · obtain ⟨tail, rfl⟩ := List.head?_eq_some_iff.mp point
    have places := List.takeWhile_append_dropWhile (p := Char.isDigit) (l := tail)
    refine ⟨⟨f, w, some (tail.takeWhile Char.isDigit)⟩, tail.dropWhile Char.isDigit,
      ⟨isFlags, isDigits, nonzero, ?_⟩, ?_, ?_⟩
    · rintro digits ⟨rfl⟩
      exact List.all_eq_true.mp List.all_takeWhile
    · intro c first
      exact ⟨head?_dropWhile_eq_false tail c first, fun none => by cases none⟩
    · simp [text, Spelling.places, places]
  · refine ⟨⟨f, w, none⟩, l₂, ⟨isFlags, isDigits, nonzero, fun digits none => by cases none⟩,
      ?_, ?_⟩
    · intro c first
      refine ⟨width_stop c first, fun _ => ⟨?_, ?_⟩⟩
      · rintro rfl
        exact point first
      · rintro rfl
        exact flags_stop c first
    · simp [text, Spelling.places]

/-- A text begins with one spelling only. -/
theorem Proper.text_inj {s t : Spelling} {rest tail : List Char} (proper : s.Proper)
    (stops : s.Stops rest) (proper' : t.Proper) (stops' : t.Stops tail)
    (same : s.text ++ rest = t.text ++ tail) : s = t ∧ rest = tail := by
  obtain ⟨flags, width, precision⟩ := s
  obtain ⟨flags', width', precision'⟩ := t
  have after : rest = tail := by
    rw [← proper.readLayout_rest stops, same, proper'.readLayout_rest stops']
  simp only [text, List.append_assoc] at same
  have flags_eq : flags = flags' := by
    have taken := takeWhile_append_of_head? proper.flags (proper.flags_stop stops)
    have taken' := takeWhile_append_of_head? proper'.flags (proper'.flags_stop stops')
    exact taken.symm.trans ((congrArg _ same).trans taken')
  subst after flags_eq
  have same := List.append_cancel_left same
  have width_eq : width = width' := by
    have taken := takeWhile_append_of_head? proper.width stops.width_stop
    have taken' := takeWhile_append_of_head? proper'.width stops'.width_stop
    exact taken.symm.trans ((congrArg _ same).trans taken')
  subst width_eq
  have same := List.append_cancel_right (List.append_cancel_left same)
  refine ⟨?_, rfl⟩
  cases precision <;> cases precision' <;> simp only [places] at same <;> cases same <;> rfl

end Spelling

/-! ## Templates -/

inductive Segment where
  | literal (c : Char)
  /-- A directive, which the end of the template may cut off before its conversion. -/
  | directive (spelling : Spelling) (conversion : Option Char)
deriving DecidableEq, Repr

def Segment.text : Segment → List Char
  | literal c => [c]
  | directive s conversion => '%' :: (s.text ++ conversion.toList)

inductive Cuts : List Char → List Segment → Prop
  | nil : Cuts [] []
  | literal {c : Char} {rest : List Char} {cut : List Segment} (plain : c ≠ '%')
      (more : Cuts rest cut) : Cuts (c :: rest) (.literal c :: cut)
  | directive {s : Spelling} {conversion : Char} {rest : List Char} {cut : List Segment}
      (proper : s.Proper) (stops : s.StopsAt conversion) (more : Cuts rest cut) :
      Cuts ('%' :: (s.text ++ conversion :: rest)) (.directive s (some conversion) :: cut)
  | unfinished {s : Spelling} (proper : s.Proper) : Cuts ('%' :: s.text) [.directive s none]

namespace Spelling

theorem StopsAt.stops {s : Spelling} {c : Char} (stops : s.StopsAt c) (rest : List Char) :
    s.Stops (c :: rest) := by
  rintro first ⟨rfl⟩
  exact stops

theorem stops_nil (s : Spelling) : s.Stops [] := by
  intro c first
  cases first

end Spelling

namespace Cuts

variable {l : List Char} {cut other : List Segment}

theorem text_eq (cuts : Cuts l cut) : cut.flatMap Segment.text = l := by
  induction cuts with
  | nil => rfl
  | literal plain more ih => simp [Segment.text, ih]
  | directive proper stops more ih => simp [Segment.text, ih]
  | unfinished proper => simp [Segment.text]

theorem total (l : List Char) : ∃ cut, Cuts l cut := by
  induction h : l.length using Nat.strongRecOn generalizing l with
  | ind n ih =>
    cases l with
    | nil => exact ⟨[], .nil⟩
    | cons c rest =>
      by_cases percent : c = '%'
      · obtain ⟨s, tail, proper, stops, rfl⟩ := Spelling.exists_text rest
        subst percent
        cases tail with
        | nil =>
          rw [List.append_nil]
          exact ⟨_, .unfinished proper⟩
        | cons conversion tail =>
          simp only [List.length_cons, List.length_append] at h
          obtain ⟨cut, more⟩ := ih tail.length (by omega) tail rfl
          exact ⟨_, .directive proper (stops conversion rfl) more⟩
      · simp only [List.length_cons] at h
        obtain ⟨cut, more⟩ := ih rest.length (by omega) rest rfl
        exact ⟨_, .literal percent more⟩

theorem unique (cuts : Cuts l cut) (cuts' : Cuts l other) : cut = other := by
  induction cuts generalizing other with
  | nil => cases cuts'; rfl
  | literal plain more ih =>
    cases cuts' with
    | literal plain' more' => rw [ih more']
    | directive => exact absurd rfl plain
    | unfinished => exact absurd rfl plain
  | @directive s conversion rest cut proper stops more ih =>
    generalize same : '%' :: (s.text ++ conversion :: rest) = l at cuts'
    cases cuts' with
    | nil => cases same
    | literal plain' more' =>
      cases same
      exact absurd rfl plain'
    | directive proper' stops' more' =>
      obtain ⟨rfl, tail⟩ :=
        proper.text_inj (stops.stops _) proper' (stops'.stops _) (List.cons.inj same).2
      cases tail
      rw [ih more']
    | @unfinished t proper' =>
      have same : s.text ++ conversion :: rest = t.text ++ [] := by
        rw [List.append_nil]
        exact (List.cons.inj same).2
      obtain ⟨-, tail⟩ := proper.text_inj (stops.stops _) proper' t.stops_nil same
      cases tail
  | @unfinished s proper =>
    generalize same : '%' :: s.text = l at cuts'
    cases cuts' with
    | nil => cases same
    | literal plain' more' =>
      cases same
      exact absurd rfl plain'
    | @directive t conversion rest cut proper' stops' more' =>
      have same : s.text ++ [] = t.text ++ conversion :: rest := by
        rw [List.append_nil]
        exact (List.cons.inj same).2
      obtain ⟨-, tail⟩ := proper.text_inj s.stops_nil proper' (stops'.stops _) same
      cases tail
    | @unfinished t proper' =>
      have same : s.text ++ [] = t.text ++ [] := by
        rw [List.append_nil, List.append_nil]
        exact (List.cons.inj same).2
      obtain ⟨rfl, -⟩ := proper.text_inj s.stops_nil proper' t.stops_nil same
      rfl

end Cuts

/-! ## The pieces of a cut -/

section Pieces

variable {s : Spelling} {conversion : Char} {rest : List Char}

theorem pieces_literal {c : Char} (plain : c ≠ '%') (rest : List Char) :
    pieces (c :: rest) = .literal c :: pieces rest := by
  rw [pieces, if_pos plain]

theorem pieces_oversize (proper : s.Proper) (stops : s.Stops rest) (oversize : s.Oversize) :
    pieces ('%' :: (s.text ++ rest)) = [.oversize ('%' :: (s.text ++ rest))] := by
  rw [pieces, if_neg (not_not_intro rfl), if_pos ((proper.isOversize_iff stops).mpr oversize)]

theorem pieces_unfinished (proper : s.Proper) (within : ¬s.Oversize) :
    pieces ('%' :: s.text) = [.unfinished ('%' :: s.text)] := by
  have read := proper.readLayout_rest s.stops_nil
  have layout := mt (proper.isOversize_iff s.stops_nil).mp within
  rw [List.append_nil] at read layout
  rw [pieces, if_neg (not_not_intro rfl), if_neg layout]
  split
  next => rfl
  next eq =>
    rw [read] at eq
    cases eq

theorem pieces_directive (proper : s.Proper) (stops : s.StopsAt conversion) (within : ¬s.Oversize) :
    pieces ('%' :: (s.text ++ conversion :: rest)) =
      .directive s.layout conversion (Segment.directive s (some conversion)).text ::
        pieces rest := by
  have stops := stops.stops rest
  have read := proper.readLayout_rest stops
  have layout := mt (proper.isOversize_iff stops).mp within
  rw [pieces, if_neg (not_not_intro rfl), if_neg layout, proper.readLayout_layout stops within]
  split
  next eq =>
    rw [read] at eq
    cases eq
  next first after eq =>
    rw [read] at eq
    cases eq
    have text : (s.text ++ conversion :: rest).take
        ((s.text ++ conversion :: rest).length - rest.length) = s.text ++ [conversion] := by
      rw [List.append_cons, List.length_append, Nat.add_sub_cancel, List.take_left]
    rw [text]
    rfl

end Pieces

end RemoteDevice.Template
