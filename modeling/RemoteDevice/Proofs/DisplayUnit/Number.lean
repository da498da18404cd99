import RemoteDevice.DisplayUnit.Display
import RemoteDevice.Proofs.DisplayUnit.Resolved
import RemoteDevice.Proofs.Template.Verdict

/-!
# Units of numbers

The template of a number is checked once, with a zero. What the check finds holds of every value:
a template that passes renders all of them, and a refused one fails for all of them with the error
that was found.
-/
set_option autoImplicit false

namespace RemoteDevice

/-- What a template is given for a raw value. -/
def Scale.argument (s : Scale) (raw : Int64) : Argument :=
  if s.isOne then .int raw else .float (s.apply raw)

namespace DisplayUnit

theorem argument_eq (u : DisplayUnit) (raw : Int64) : u.argument raw = u.scale.argument raw := rfl

/-- Values and the sample of the check are of one kind, which the scale decides. -/
theorem kind_argument (s : Scale) (raw : Int64) : (s.argument raw).kind = (sample s).kind := by
  rw [Scale.argument, sample]
  cases s.isOne <;> rfl

theorem outcome_render_argument (template : String) (s : Scale) (raw : Int64) :
    outcome (Template.render template (s.argument raw)) =
      outcome (Template.render template (sample s)) :=
  Template.outcome_render_congr (kind_argument s raw)

theorem checkFormat_number_ok_iff {s : Scale} {template : String} (raw : Int64) :
    checkFormat .none s template = .ok () ↔
      ∃ text, Template.render template (s.argument raw) = .ok text := by
  rw [← outcome_eq_ok_iff, outcome_render_argument, outcome_eq_ok_iff, checkFormat]
  cases Template.render template (sample s) <;> simp [Conversion.isTimestamp]

theorem checkFormat_number_error_iff {s : Scale} {template : String} {e : TemplateError}
    (raw : Int64) :
    checkFormat .none s template = .error (.template e) ↔
      Template.render template (s.argument raw) = .error e := by
  have sampled : Template.render template (s.argument raw) = .error e ↔
      Template.render template (sample s) = .error e := by
    rw [← outcome_eq_error_iff, outcome_render_argument, outcome_eq_error_iff]
  rw [sampled, checkFormat]
  cases Template.render template (sample s) <;> simp [Conversion.isTimestamp]

theorem render_number {u : DisplayUnit} (number : u.conversion = .none) {template text : String}
    {raw : Int64} (rendered : Template.render template (u.argument raw) = .ok text)
    (place : Offset) : u.render template raw place = .text text := by
  rw [render, number]
  simp only [renderNumber, rendered]

/-- Both formats of an accepted unit of numbers render every value. -/
theorem renders_of_parse {name config : String} {u : DisplayUnit}
    (accepted : parse name config = .ok u) (number : u.conversion = .none) (raw : Int64) :
    (∃ text, Template.render u.printFormat (u.argument raw) = .ok text) ∧
      ∃ text, Template.render u.editFormat (u.argument raw) = .ok text := by
  obtain ⟨m, reads, -⟩ := reads_of_parse accepted
  obtain ⟨-, print, edit⟩ := reads.parse_eq_ok_iff.mp accepted
  rw [number] at print edit
  rw [argument_eq]
  exact ⟨(checkFormat_number_ok_iff raw).mp print, (checkFormat_number_ok_iff raw).mp edit⟩

/-- The check of a number's template, done with a zero, is representative: a template passes exactly
if every value renders, and is refused exactly if every value fails with the error found. So a
configuration is accepted, or refused for one of its two formats, by what every value renders to,
and an accepted unit shows the rendered text of every value and never a diagnostic. -/
theorem Reads.check_exact {config : String} {m : Properties} {s : Scale}
    (h : Reads config m .none s) (name : String) {u : DisplayUnit}
    (described : resolved name m .none s = u) :
    (∀ template,
      (∀ raw, outcome (Template.render template (s.argument raw)) =
        outcome (Template.render template (sample s))) ∧
      (checkFormat .none s template = .ok () ↔
        ∀ raw, ∃ text, Template.render template (s.argument raw) = .ok text) ∧
      ∀ e, checkFormat .none s template = .error (.template e) ↔
        ∀ raw, Template.render template (s.argument raw) = .error e) ∧
    ((∃ v, parse name config = .ok v) ↔
      ∀ raw, (∃ text, Template.render u.printFormat (s.argument raw) = .ok text) ∧
        ∃ text, Template.render u.editFormat (s.argument raw) = .ok text) ∧
    (∀ e, parse name config = .error ⟨name, "formatString", .template e⟩ ↔
      ∀ raw, Template.render u.printFormat (s.argument raw) = .error e) ∧
    (∀ e, parse name config = .error ⟨name, "valueString", .template e⟩ ↔
      ∀ raw, (∃ text, Template.render u.printFormat (s.argument raw) = .ok text) ∧
        Template.render u.editFormat (s.argument raw) = .error e) ∧
    ∀ v, parse name config = .ok v → v = u ∧ ∀ raw place, ∃ printed edited,
      Template.render u.printFormat (u.argument raw) = .ok printed ∧
      Template.render u.editFormat (u.argument raw) = .ok edited ∧
      u.print raw place = .text printed ∧ (u.print raw place).shown = some printed ∧
      u.edit raw place = .text edited ∧ (u.edit raw place).shown = some edited := by
  subst described
  refine ⟨?_, ?_, ?_, ?_, ?_⟩
  · intro template
    refine ⟨outcome_render_argument template s, ?_, ?_⟩
    · rw [← forall_congr' fun raw => checkFormat_number_ok_iff raw, forall_const]
    · intro e
      rw [← forall_congr' fun raw => checkFormat_number_error_iff raw, forall_const]
  · simp only [h.parse_eq_ok_iff, exists_eq_left']
    rw [← forall_congr' fun raw => and_congr (checkFormat_number_ok_iff raw)
      (checkFormat_number_ok_iff raw), forall_const]
  · intro e
    rw [h.parse_eq_format_error_iff, ← forall_congr' fun raw => checkFormat_number_error_iff raw,
      forall_const]
  · intro e
    rw [h.parse_eq_value_error_iff, ← forall_congr' fun raw => and_congr
      (checkFormat_number_ok_iff raw) (checkFormat_number_error_iff raw), forall_const]
  · intro v accepted
    obtain ⟨rfl, -⟩ := h.parse_eq_ok_iff.mp accepted
    refine ⟨rfl, ?_⟩
    intro raw place
    obtain ⟨⟨printed, print⟩, edited, edit⟩ := renders_of_parse accepted rfl raw
    have shownPrint := render_number rfl print place
    have shownEdit := render_number rfl edit place
    refine ⟨printed, edited, print, edit, shownPrint, ?_, shownEdit, ?_⟩
    · rw [DisplayUnit.print, shownPrint]
      rfl
    · rw [DisplayUnit.edit, shownEdit]
      rfl

/-- Tenths are no whole numbers, so no value of theirs can be shown as one. -/
theorem check_exact_tenths :
    Reads "denominator=10;formatString=%d" ⟨[("denominator", "10"), ("formatString", "%d")]⟩ .none
        ⟨1, 10⟩ ∧
      (∀ raw, Template.render "%d" (Scale.argument ⟨1, 10⟩ raw) =
        .error (.illegalConversion 'd' .float)) ∧
      parse "level" "denominator=10;formatString=%d" =
        .error ⟨"level", "formatString", .template (.illegalConversion 'd' .float)⟩ := by
  have reads : Reads "denominator=10;formatString=%d"
      ⟨[("denominator", "10"), ("formatString", "%d")]⟩ .none ⟨1, 10⟩ := ⟨rfl, rfl, rfl, rfl⟩
  have cut : Template.pieces "%d".toList = [.directive {} 'd' ['%', 'd']] := by decide +kernel
  have fails : ∀ raw, Template.render "%d" (Scale.argument ⟨1, 10⟩ raw) =
      .error (.illegalConversion 'd' .float) := by
    intro raw
    rw [← outcome_eq_error_iff, Template.outcome_render, cut, kind_argument]
    rfl
  obtain ⟨-, -, refused, -⟩ := reads.check_exact "level" rfl
  exact ⟨reads, fails, (refused _).mpr fails⟩

end DisplayUnit

end RemoteDevice
