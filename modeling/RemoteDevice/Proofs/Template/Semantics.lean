import RemoteDevice.Proofs.Template.Offsets
import RemoteDevice.Proofs.Template.Verdict

/-!
# What a template renders to

The cut of a template decides how it renders: every segment is shown in its place, unless one of
them is at fault, and then the leftmost of these decides the error (`render_iff_cut`).
-/
set_option autoImplicit false

namespace RemoteDevice.Template

namespace Segment

/-- Whether the segment is the place of the argument. -/
def consumes : Segment → Bool
  | directive _ (some conversion) => Template.consumes conversion
  | _ => false

def shown (arg : Argument) : Segment → List Char
  | literal c => [c]
  | directive _ none => []
  | directive s (some conversion) =>
    if conversion = '%' then s.layout.pad [] ['%']
    else if conversion = 'n' then ['\n']
    else (s.layout.field conversion arg).toOption.getD []

/-- A literal is never wrong. A directive has to be within the limits and to end in a conversion
that is known and that takes the kind of argument, if it takes one. -/
def Fits (kind : ArgumentKind) : Segment → Prop
  | literal _ => True
  | directive s conversion =>
    ¬s.Oversize ∧ ∃ c, conversion = some c ∧
      (c = '%' ∨ c = 'n' ∨ Template.consumes c = true) ∧
      (Template.consumes c = true → takes kind c = true)

/-- What is wrong with a segment, where `spent` tells that another one has used up the argument and
`rest` is the template after the segment. Of several faults the first in this order counts. -/
def fault? (kind : ArgumentKind) (spent : Bool) (rest : List Char) : Segment → Option TemplateError
  | literal _ => none
  | directive s conversion =>
    let text := (directive s conversion).text
    if s.Oversize then some (.oversize (String.ofList (text ++ rest)))
    else
      match conversion with
      | none => some (.unknownConversion (String.ofList text))
      | some c =>
        if c = '%' ∨ c = 'n' then none
        else if !Template.consumes c then some (.unknownConversion (String.ofList text))
        else if spent then some (.missingArgument (String.ofList text))
        else if takes kind c then none
        else some (.illegalConversion c kind)

theorem fault?_eq_none_iff {kind : ArgumentKind} {spent : Bool} {rest : List Char}
    {segment : Segment} :
    segment.fault? kind spent rest = none ↔
      segment.Fits kind ∧ (segment.consumes = true → spent = false) := by
  cases segment with
  | literal c => simp [fault?, Fits, consumes]
  | directive s conversion =>
    by_cases oversize : s.Oversize
    · simp [fault?, Fits, oversize]
    · cases conversion with
      | none => simp [fault?, Fits, oversize]
      | some c =>
        have percent : c = '%' ∨ c = 'n' → Template.consumes c = false := by
          rintro (rfl | rfl) <;> rfl
        simp only [fault?, Fits, consumes, oversize, if_false, not_false_eq_true, true_and,
          Option.some.injEq, exists_eq_left']
        by_cases escape : c = '%' ∨ c = 'n'
        · simp [escape, percent escape]
        · have nor := not_or.mp escape
          cases Template.consumes c <;> cases spent <;> simp [nor]

end Segment

/-! ## Templates that render -/

/-- Every segment fits, and at most one of them is the place of the argument. -/
structure Renders (kind : ArgumentKind) (spent : Bool) (cut : List Segment) : Prop where
  fits : ∀ segment ∈ cut, segment.Fits kind
  once : cut.countP Segment.consumes + spent.toNat ≤ 1

/-- The segments in front of the leftmost one at fault would render by themselves. -/
def FirstFault (kind : ArgumentKind) (spent : Bool) (cut : List Segment) (e : TemplateError) :
    Prop :=
  ∃ before segment after, cut = before ++ segment :: after ∧ Renders kind spent before ∧
    segment.fault? kind (spent || before.any Segment.consumes) (after.flatMap Segment.text) = some e

section Cut

variable {kind : ArgumentKind} {spent : Bool} {segment : Segment} {cut : List Segment}

theorem renders_nil : Renders kind spent [] where
  fits := by simp
  once := by cases spent <;> decide

theorem renders_cons_iff (rest : List Char) :
    Renders kind spent (segment :: cut) ↔
      segment.fault? kind spent rest = none ∧ Renders kind (spent || segment.consumes) cut := by
  have count : (segment :: cut).countP Segment.consumes + spent.toNat ≤ 1 ↔
      (segment.consumes = true → spent = false) ∧
        cut.countP Segment.consumes + (spent || segment.consumes).toNat ≤ 1 := by
    rw [List.countP_cons]
    cases segment.consumes <;> cases spent <;> simp
  rw [Segment.fault?_eq_none_iff]
  constructor
  · rintro ⟨fits, once⟩
    obtain ⟨free, once⟩ := count.mp once
    rw [List.forall_mem_cons] at fits
    exact ⟨⟨fits.1, free⟩, fits.2, once⟩
  · rintro ⟨⟨fits, free⟩, others, once⟩
    exact ⟨List.forall_mem_cons.mpr ⟨fits, others⟩, count.mpr ⟨free, once⟩⟩

theorem renders_or_firstFault (kind : ArgumentKind) (spent : Bool) (cut : List Segment) :
    Renders kind spent cut ∨ ∃ e, FirstFault kind spent cut e := by
  induction cut generalizing spent with
  | nil => exact .inl renders_nil
  | cons segment cut ih =>
    cases fault : segment.fault? kind spent (cut.flatMap Segment.text) with
    | some e =>
      refine .inr ⟨e, [], segment, cut, rfl, renders_nil, ?_⟩
      rw [List.any_nil, Bool.or_false]
      exact fault
    | none =>
      rcases ih (spent || segment.consumes) with
        renders | ⟨e, before, bad, after, rfl, renders, at_fault⟩
      · exact .inl ((renders_cons_iff _).mpr ⟨fault, renders⟩)
      · refine .inr ⟨e, segment :: before, bad, after, rfl, ?_, ?_⟩
        · exact (renders_cons_iff _).mpr ⟨fault, renders⟩
        · rw [List.any_cons, ← Bool.or_assoc]
          exact at_fault

end Cut

/-! ## From segment to segment -/

theorem field_eq_ok_of_takes {d : Directive} {conversion : Char} {arg : Argument}
    (taken : takes arg.kind conversion = true) :
    d.field conversion arg = .ok ((d.field conversion arg).toOption.getD []) := by
  have formatted := outcome_field d conversion arg
  rw [if_pos taken, outcome_eq_ok_iff] at formatted
  obtain ⟨field, done⟩ := formatted
  rw [done]
  rfl

theorem field_eq_error_of_not_takes {d : Directive} {conversion : Char} {arg : Argument}
    (refused : ¬takes arg.kind conversion = true) :
    d.field conversion arg = .error (.illegalConversion conversion arg.kind) := by
  have formatted := outcome_field d conversion arg
  rw [if_neg refused] at formatted
  exact outcome_eq_error_iff.mp formatted

/-- Rendering goes from segment to segment. -/
theorem renderPieces_cons (arg : Argument) (spent : Bool) {l : List Char} {segment : Segment}
    {cut : List Segment} (cuts : Cuts l (segment :: cut)) :
    ∃ rest, Cuts rest cut ∧
      renderPieces arg spent (pieces l) =
        match segment.fault? arg.kind spent (cut.flatMap Segment.text) with
        | some e => .error e
        | none =>
          (renderPieces arg (spent || segment.consumes) (pieces rest)).map
            (segment.shown arg ++ ·) := by
  cases cuts with
  | @literal c rest _ plain more =>
    refine ⟨rest, more, ?_⟩
    rw [pieces_literal plain, renderPieces]
    cases spent <;> rfl
  | @unfinished s proper =>
    refine ⟨[], .nil, ?_⟩
    by_cases oversize : s.Oversize
    · have piece := pieces_oversize proper s.stops_nil oversize
      rw [List.append_nil] at piece
      simp [piece, renderPieces, Segment.fault?, oversize, Segment.text]
    · simp [pieces_unfinished proper oversize, renderPieces, Segment.fault?, oversize, Segment.text]
  | @directive s conversion rest _ proper stops more =>
    refine ⟨rest, more, ?_⟩
    rw [more.text_eq]
    by_cases oversize : s.Oversize
    · simp [pieces_oversize proper (stops.stops rest) oversize, renderPieces, Segment.fault?,
        oversize, Segment.text]
    rw [pieces_directive proper stops oversize, renderPieces]
    by_cases percent : conversion = '%'
    · subst percent
      simp [Segment.fault?, oversize, Segment.shown, Segment.consumes, consumes]
    by_cases newline : conversion = 'n'
    · subst newline
      simp [Segment.fault?, oversize, Segment.shown, Segment.consumes, consumes]
    rw [if_neg percent, if_neg newline]
    simp only [Segment.fault?, if_neg oversize, percent, newline, or_self, if_false,
      Segment.shown, Segment.consumes]
    cases consumes conversion with
    | false => rfl
    | true =>
      cases spent with
      | true => rfl
      | false =>
        by_cases taken : takes arg.kind conversion = true
        · rw [field_eq_ok_of_takes taken]
          simp [taken, Except.toOption]
        · rw [field_eq_error_of_not_takes taken]
          simp [taken]

section Render

variable {arg : Argument} {spent : Bool} {l : List Char} {cut : List Segment}

theorem renderPieces_of_renders (cuts : Cuts l cut) (renders : Renders arg.kind spent cut) :
    renderPieces arg spent (pieces l) = .ok (cut.flatMap (Segment.shown arg)) := by
  induction cut generalizing l spent with
  | nil =>
    cases cuts
    rw [pieces]
    rfl
  | cons segment cut ih =>
    obtain ⟨rest, more, step⟩ := renderPieces_cons arg spent cuts
    obtain ⟨fault, renders⟩ := (renders_cons_iff (cut.flatMap Segment.text)).mp renders
    rw [step, fault, ih more renders]
    rfl

theorem renderPieces_of_firstFault {e : TemplateError} (cuts : Cuts l cut)
    (fault : FirstFault arg.kind spent cut e) :
    renderPieces arg spent (pieces l) = .error e := by
  obtain ⟨before, bad, after, rfl, renders, at_fault⟩ := fault
  induction before generalizing l spent with
  | nil =>
    obtain ⟨rest, more, step⟩ := renderPieces_cons arg spent cuts
    rw [List.any_nil, Bool.or_false] at at_fault
    rw [step, at_fault]
  | cons segment before ih =>
    obtain ⟨rest, more, step⟩ := renderPieces_cons arg spent cuts
    obtain ⟨fits, renders⟩ :=
      (renders_cons_iff ((before ++ bad :: after).flatMap Segment.text)).mp renders
    rw [List.any_cons, ← Bool.or_assoc] at at_fault
    rw [step, List.append_eq, fits, ih more renders at_fault]
    rfl

theorem renderPieces_eq_ok_iff (cuts : Cuts l cut) {text : List Char} :
    renderPieces arg spent (pieces l) = .ok text ↔
      Renders arg.kind spent cut ∧ text = cut.flatMap (Segment.shown arg) := by
  constructor
  · intro rendered
    rcases renders_or_firstFault arg.kind spent cut with renders | ⟨e, fault⟩
    · rw [renderPieces_of_renders cuts renders] at rendered
      cases rendered
      exact ⟨renders, rfl⟩
    · rw [renderPieces_of_firstFault cuts fault] at rendered
      cases rendered
  · rintro ⟨renders, rfl⟩
    exact renderPieces_of_renders cuts renders

theorem renderPieces_eq_error_iff (cuts : Cuts l cut) {e : TemplateError} :
    renderPieces arg spent (pieces l) = .error e ↔ FirstFault arg.kind spent cut e := by
  constructor
  · intro rendered
    rcases renders_or_firstFault arg.kind spent cut with renders | ⟨e', fault⟩
    · rw [renderPieces_of_renders cuts renders] at rendered
      cases rendered
    · rw [renderPieces_of_firstFault cuts fault] at rendered
      cases rendered
      exact fault
  · exact renderPieces_of_firstFault cuts

theorem exists_render_iff {template : String} (cuts : Cuts template.toList cut) :
    (∃ text, render template arg = .ok text) ↔ Renders arg.kind false cut := by
  constructor
  · rintro ⟨text, rendered⟩
    rw [render, map_eq_ok_iff] at rendered
    obtain ⟨shown, rendered, -⟩ := rendered
    exact ((renderPieces_eq_ok_iff cuts).mp rendered).1
  · intro renders
    exact ⟨_, map_eq_ok_iff.mpr ⟨_, renderPieces_of_renders cuts renders, rfl⟩⟩

end Render

/-! ## One directive among literals -/

theorem Cuts.literals {a rest : List Char} {cut : List Segment} (plain : '%' ∉ a)
    (more : Cuts rest cut) : Cuts (a ++ rest) (a.map Segment.literal ++ cut) := by
  induction a with
  | nil => exact more
  | cons c a ih =>
    rw [List.mem_cons, not_or] at plain
    exact .literal (Ne.symm plain.1) (ih plain.2)

theorem flatMap_shown_literals (arg : Argument) (a : List Char) :
    (a.map Segment.literal).flatMap (Segment.shown arg) = a := by
  induction a with
  | nil => rfl
  | cons c a ih =>
    rw [List.map_cons, List.flatMap_cons, ih]
    rfl

theorem countP_consumes_literals (a : List Char) :
    (a.map Segment.literal).countP Segment.consumes = 0 := by
  rw [List.countP_map]
  exact List.countP_eq_zero.mpr fun c _ consumed => by cases consumed

theorem renders_between {kind : ArgumentKind} {s : Spelling} {conversion : Char} {a b : List Char}
    (within : ¬s.Oversize) (known : consumes conversion = true)
    (taken : takes kind conversion = true) :
    Renders kind false
      (a.map .literal ++ .directive s (some conversion) :: b.map .literal) where
  fits := by
    intro segment member
    rcases List.mem_append.mp member with left | here
    · obtain ⟨c, -, rfl⟩ := List.mem_map.mp left
      trivial
    rcases List.mem_cons.mp here with rfl | right
    · exact ⟨within, conversion, rfl, .inr (.inr known), fun _ => taken⟩
    · obtain ⟨c, -, rfl⟩ := List.mem_map.mp right
      trivial
  once := by
    rw [List.countP_append, List.countP_cons, countP_consumes_literals, countP_consumes_literals]
    simp [Segment.consumes, known]

/-- Around its only directive a template is taken as it stands. -/
theorem render_between {arg : Argument} {s : Spelling} {conversion : Char}
    {a b field : List Char} (plain : '%' ∉ a) (plain' : '%' ∉ b) (proper : s.Proper)
    (stops : s.StopsAt conversion) (within : ¬s.Oversize) (known : consumes conversion = true)
    (formatted : s.layout.field conversion arg = .ok field) :
    render (String.ofList (a ++ '%' :: (s.text ++ conversion :: b))) arg =
      .ok (String.ofList (a ++ field ++ b)) := by
  have cuts : Cuts (a ++ '%' :: (s.text ++ conversion :: b))
      (a.map .literal ++ .directive s (some conversion) :: b.map .literal) := by
    have tail := Cuts.literals plain' .nil
    rw [List.append_nil, List.append_nil] at tail
    exact .literals plain (.directive proper stops tail)
  have taken : takes arg.kind conversion = true := by
    have verdict := outcome_field s.layout conversion arg
    rw [formatted] at verdict
    by_contra refused
    rw [if_neg refused] at verdict
    cases verdict
  have percent : conversion ≠ '%' := by
    rintro rfl
    cases known
  have newline : conversion ≠ 'n' := by
    rintro rfl
    cases known
  have rendered :=
    renderPieces_of_renders cuts (renders_between within known taken)
  have shown : (Segment.directive s (some conversion)).shown arg = field := by
    rw [Segment.shown, if_neg percent, if_neg newline, formatted]
    rfl
  rw [List.flatMap_append, List.flatMap_cons, flatMap_shown_literals, flatMap_shown_literals,
    shown, ← List.append_assoc] at rendered
  rw [render, String.toList_ofList, rendered]
  rfl

/-! ## All templates -/

/-- Every template has one cut, which decides how it renders: if its segments fit and the argument
has one place at most, to what the segments show one after the other, and otherwise with the fault
of the leftmost segment that has one. A reader by offset finds the same, without ever cutting the
template inside a character. -/
theorem render_iff_cut (template : String) (arg : Argument) :
    ∃ cut, Cuts template.toList cut ∧ (∀ other, Cuts template.toList other → other = cut) ∧
      (∀ text, render template arg = .ok text ↔
        Renders arg.kind false cut ∧ text.toList = cut.flatMap (Segment.shown arg)) ∧
      (∀ e, render template arg = .error e ↔ FirstFault arg.kind false cut e) ∧
      renderAt template arg false (indexed 0 template.toList) =
        some ((render template arg).map String.toList) := by
  obtain ⟨cut, cuts⟩ := Cuts.total template.toList
  refine ⟨cut, cuts, fun other cuts' => cuts'.unique cuts, ?_, ?_, ?_⟩
  · intro text
    rw [render, map_eq_ok_iff]
    constructor
    · rintro ⟨chars, rendered, rfl⟩
      obtain ⟨renders, rfl⟩ := (renderPieces_eq_ok_iff cuts).mp rendered
      exact ⟨renders, String.toList_ofList⟩
    · rintro ⟨renders, shown⟩
      refine ⟨text.toList, ?_, String.ofList_toList⟩
      rw [renderPieces_eq_ok_iff cuts]
      exact ⟨renders, shown⟩
  · intro e
    rw [render, map_eq_error_iff]
    exact renderPieces_eq_error_iff cuts
  · have same := renderAt_indexed template arg cuts false [] rfl
    rw [String.utf8Len_nil] at same
    rw [same, render]
    cases renderPieces arg false (pieces template.toList) with
    | error e => rfl
    | ok text => simp [Except.map]

end RemoteDevice.Template
