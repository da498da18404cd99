import RemoteDevice.DisplayUnit.Parser
import RemoteDevice.Proofs.Outcome

/-!
# The unit that a configuration describes

`resolved` is the unit with every default filled in, before its formats are checked; a configuration
whose conversion and scale can be read gives this unit or the error of one of the two checks.
-/
set_option autoImplicit false

namespace RemoteDevice.DisplayUnit

/-- The unit that some properties describe, given what its conversion and scale are read as. -/
def resolved (name : String) (m : Properties) (conversion : Conversion) (scale : Scale) :
    DisplayUnit :=
  let printFormat := m.getD "formatString" (standardFormat conversion scale)
  { name, printFormat, scale, conversion
    editFormat := m.getD "valueString" printFormat
    label := m.getD "label" name
    editor := (m.get? "editor").filter fun e => !e.isEmpty
    extra := recognized.foldl Properties.erase m }

/-- The configuration is a property text in which the conversion and the scale can be read. -/
structure Reads (config : String) (m : Properties) (conversion : Conversion) (scale : Scale) :
    Prop where
  properties : Properties.parse config = .ok m
  conversion : readConversion (m.get? "conversion") = .ok conversion
  numerator : readScalePart (m.get? "numerator") = .ok scale.numerator
  denominator : readScalePart (m.get? "denominator") = .ok scale.denominator

theorem checkFormat_instant_ok_iff {conversion : Conversion} {scale : Scale} {format : String}
    (instants : conversion.isTimestamp = true) :
    checkFormat conversion scale format = .ok () ↔
      ∃ items, Calendar.Pattern.parse format = .ok items := by
  rw [checkFormat, if_pos instants]
  cases Calendar.Pattern.parse format <;> simp

theorem locate_eq_ok_iff {α : Type} {name field : String} {r : Except ConfigReason α} {a : α} :
    ConfigReason.locate name field r = .ok a ↔ r = .ok a := by
  cases r <;> simp [ConfigReason.locate]

theorem locate_eq_error_iff {α : Type} {name field : String} {r : Except ConfigReason α}
    {e : ConfigError} :
    ConfigReason.locate name field r = .error e ↔
      ∃ reason, r = .error reason ∧ ⟨name, field, reason⟩ = e := by
  cases r <;> simp [ConfigReason.locate]

section

variable {config : String} {m : Properties} {conversion : Conversion} {scale : Scale}

theorem Reads.parse_eq (h : Reads config m conversion scale) (name : String) :
    parse name config = do
      let u := resolved name m conversion scale
      ConfigReason.locate name "formatString" (checkFormat conversion scale u.printFormat)
      ConfigReason.locate name "valueString" (checkFormat conversion scale u.editFormat)
      return u := by
  rw [parse, h.properties]
  dsimp only
  rw [ofProperties, h.conversion, h.numerator, h.denominator]
  rfl

theorem Reads.parse_eq_ok_iff (h : Reads config m conversion scale) {name : String}
    {u : DisplayUnit} :
    parse name config = .ok u ↔
      resolved name m conversion scale = u ∧ checkFormat conversion scale u.printFormat = .ok () ∧
        checkFormat conversion scale u.editFormat = .ok () := by
  rw [h.parse_eq]
  dsimp only
  rw [bind_unit_eq_ok_iff, bind_unit_eq_ok_iff, locate_eq_ok_iff, locate_eq_ok_iff]
  simp only [pure, Except.pure, Except.ok.injEq]
  constructor
  · rintro ⟨print, edit, rfl⟩
    exact ⟨rfl, print, edit⟩
  · rintro ⟨rfl, print, edit⟩
    exact ⟨print, edit, rfl⟩

theorem Reads.parse_eq_format_error_iff (h : Reads config m conversion scale) {name : String}
    {reason : ConfigReason} :
    parse name config = .error ⟨name, "formatString", reason⟩ ↔
      checkFormat conversion scale (resolved name m conversion scale).printFormat =
        .error reason := by
  rw [h.parse_eq]
  dsimp only
  cases checkFormat conversion scale (resolved name m conversion scale).printFormat with
  | error other => simp [ConfigReason.locate, bind, Except.bind]
  | ok _ =>
    cases checkFormat conversion scale (resolved name m conversion scale).editFormat <;>
      simp [ConfigReason.locate, bind, Except.bind, pure, Except.pure]

theorem Reads.parse_eq_value_error_iff (h : Reads config m conversion scale) {name : String}
    {reason : ConfigReason} :
    parse name config = .error ⟨name, "valueString", reason⟩ ↔
      checkFormat conversion scale (resolved name m conversion scale).printFormat = .ok () ∧
        checkFormat conversion scale (resolved name m conversion scale).editFormat =
          .error reason := by
  rw [h.parse_eq]
  dsimp only
  cases checkFormat conversion scale (resolved name m conversion scale).printFormat with
  | error other => simp [ConfigReason.locate, bind, Except.bind]
  | ok _ =>
    cases checkFormat conversion scale (resolved name m conversion scale).editFormat <;>
      simp [ConfigReason.locate, bind, Except.bind, pure, Except.pure]

end

/-- An accepted configuration can be read as far as the formats, and gives the unit it describes. -/
theorem reads_of_parse {name config : String} {u : DisplayUnit}
    (accepted : parse name config = .ok u) :
    ∃ m, Reads config m u.conversion u.scale ∧ resolved name m u.conversion u.scale = u := by
  cases properties : Properties.parse config with
  | error e =>
    rw [parse, properties] at accepted
    cases accepted
  | ok m =>
    have described := accepted
    rw [parse, properties] at described
    simp only [ofProperties, bind_eq_ok_iff, locate_eq_ok_iff] at described
    obtain
      ⟨conversion, conversionRead, numerator, numeratorRead, denominator, denominatorRead, -⟩ :=
      described
    have reads : Reads config m conversion ⟨numerator, denominator⟩ :=
      ⟨properties, conversionRead, numeratorRead, denominatorRead⟩
    obtain ⟨rfl, -, -⟩ := reads.parse_eq_ok_iff.mp accepted
    exact ⟨m, reads, rfl⟩

end RemoteDevice.DisplayUnit
