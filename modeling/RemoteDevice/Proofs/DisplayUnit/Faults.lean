import RemoteDevice.Proofs.DisplayUnit.Accounts

/-!
# What is wrong with a configuration

A field is at fault by what its own text and the texts of the fields before it say. A configuration
is refused exactly if its text is no property text or one of its fields is at fault, and the first
of these fields is the one that the error names.
-/
set_option autoImplicit false

namespace RemoteDevice.DisplayUnit

/-- The fields that can be at fault. -/
inductive Field where
  | conversion
  | numerator
  | denominator
  | formatString
  | valueString
deriving DecidableEq, Repr

namespace Field

def key : Field → String
  | conversion => "conversion"
  | numerator => "numerator"
  | denominator => "denominator"
  | formatString => "formatString"
  | valueString => "valueString"

/-- The fields in the order of their checks. -/
def all : List Field := [conversion, numerator, denominator, formatString, valueString]

end Field

/-- The format for reading, given or standard. -/
def printText (m : Properties) (conversion : Conversion) (scale : Scale) : String :=
  m.getD "formatString" (standardFormat conversion scale)

/-- The format for input fields, which is that for reading unless it is given. -/
def editText (m : Properties) (conversion : Conversion) (scale : Scale) : String :=
  m.getD "valueString" (printText m conversion scale)

/-- The conversion and the scale say something, and the format does not fit it. -/
def Misfit (m : Properties) (format : Conversion → Scale → String) : Prop :=
  ∃ conversion scale, Stated m conversion scale ∧ ¬Fits conversion scale (format conversion scale)

def Faulty (m : Properties) : Field → Prop
  | .conversion => ∀ conversion, ¬SaysConversion (m.get? "conversion") conversion
  | .numerator => ∀ n, ¬SaysScalePart (m.get? "numerator") n
  | .denominator => ∀ n, ¬SaysScalePart (m.get? "denominator") n
  | .formatString => Misfit m (printText m)
  | .valueString => Misfit m (editText m)

/-- The field is at fault, and none of those that are checked before it. -/
def FirstFault (m : Properties) (field : Field) : Prop :=
  Faulty m field ∧
    ∃ before after, Field.all = before ++ field :: after ∧ ∀ other ∈ before, ¬Faulty m other

section

variable {m : Properties} {conversion : Conversion} {scale : Scale}

theorem Stated.unique {conversion' : Conversion} {scale' : Scale} (h : Stated m conversion scale)
    (h' : Stated m conversion' scale') : conversion = conversion' ∧ scale = scale' := by
  have same : ∀ {given : Option String} {n n' : Int64}, SaysScalePart given n →
      SaysScalePart given n' → n = n' := by
    intro given n n' said said'
    rw [← readScalePart_eq_ok_iff] at said said'
    exact Except.ok.inj (said.symm.trans said')
  have read := readConversion_eq_ok_iff.mpr h.conversion
  have read' := readConversion_eq_ok_iff.mpr h'.conversion
  obtain ⟨numerator, denominator⟩ := scale
  obtain ⟨numerator', denominator'⟩ := scale'
  refine ⟨Except.ok.inj (read.symm.trans read'), ?_⟩
  rw [Scale.mk.injEq]
  exact ⟨same h.numerator h'.numerator, same h.denominator h'.denominator⟩

theorem Stated.misfit_iff (h : Stated m conversion scale)
    {format : Conversion → Scale → String} :
    Misfit m format ↔ ¬Fits conversion scale (format conversion scale) := by
  constructor
  · rintro ⟨conversion', scale', h', misfit⟩
    obtain ⟨rfl, rfl⟩ := h.unique h'
    exact misfit
  · intro misfit
    exact ⟨conversion, scale, h, misfit⟩

theorem Stated.not_faulty (h : Stated m conversion scale) :
    ∀ field ∈ [Field.conversion, .numerator, .denominator], ¬Faulty m field := by
  simp only [List.forall_mem_cons]
  exact ⟨fun faulty => faulty _ h.conversion, fun faulty => faulty _ h.numerator,
    fun faulty => faulty _ h.denominator, by simp⟩

end

section

variable {name config : String} {m : Properties} {e : ConfigError}

/-- The error names the unit and the first field at fault. An edit format is at fault only if it is
given. -/
structure Blames (name : String) (m : Properties) (e : ConfigError) : Prop where
  unit : e.unit = name
  field : ∃ field : Field, e.field = field.key ∧ FirstFault m field ∧
    (field = .valueString → ∃ text, m.get? "valueString" = some text)

theorem Blames.of_first (field : Field) (reason : ConfigReason) (first : FirstFault m field)
    (given : field ≠ .valueString) : Blames name m ⟨name, field.key, reason⟩ :=
  ⟨rfl, field, rfl, first, fun same => absurd same given⟩

theorem Reads.blames {conversion : Conversion} {scale : Scale}
    (reads : Reads config m conversion scale) (refused : parse name config = .error e) :
    Blames name m e := by
  obtain ⟨-, h⟩ := reads_iff.mp reads
  rw [reads.parse_eq] at refused
  rcases bind_eq_error_iff.mp refused with stopped | ⟨_, passed, refused⟩
  · obtain ⟨reason, failed, rfl⟩ := locate_eq_error_iff.mp stopped
    have faulty : Faulty m .formatString :=
      h.misfit_iff.mpr (not_of_eq_error checkFormat_eq_ok_iff failed ())
    exact .of_first .formatString reason ⟨faulty, _, [.valueString], rfl, h.not_faulty⟩ (by decide)
  have fits : Fits conversion scale (printText m conversion scale) :=
    checkFormat_eq_ok_iff.mp (locate_eq_ok_iff.mp passed)
  rcases bind_eq_error_iff.mp refused with stopped | ⟨_, -, accepted⟩
  · obtain ⟨reason, failed, rfl⟩ := locate_eq_error_iff.mp stopped
    have misfit : ¬Fits conversion scale (editText m conversion scale) :=
      not_of_eq_error checkFormat_eq_ok_iff failed ()
    have sound : ¬Faulty m .formatString := fun faulty => h.misfit_iff.mp faulty fits
    refine ⟨rfl, .valueString, rfl, ⟨h.misfit_iff.mpr misfit,
      [.conversion, .numerator, .denominator] ++ [.formatString], [], rfl, ?_⟩, fun _ => ?_⟩
    · exact List.forall_mem_append.mpr ⟨h.not_faulty, by simpa using sound⟩
    · -- an inherited format would fit as the one for reading does
      cases own : m.get? "valueString" with
      | some text => exact ⟨text, rfl⟩
      | none =>
        rw [editText, Properties.getD, own] at misfit
        exact absurd fits misfit
  · cases accepted

theorem blames_of_refused (properties : Properties.parse config = .ok m)
    (refused : parse name config = .error e) : Blames name m e := by
  have whole := refused
  rw [parse, properties] at refused
  rcases bind_eq_error_iff.mp refused with stopped | ⟨conversion, read, refused⟩
  · obtain ⟨reason, failed, rfl⟩ := locate_eq_error_iff.mp stopped
    have faulty : Faulty m .conversion := not_of_eq_error readConversion_eq_ok_iff failed
    exact .of_first .conversion reason ⟨faulty, [], _, rfl, by simp⟩ (by decide)
  have conversionSaid := readConversion_eq_ok_iff.mp (locate_eq_ok_iff.mp read)
  have first : ¬Faulty m .conversion := fun faulty => faulty conversion conversionSaid
  rcases bind_eq_error_iff.mp refused with stopped | ⟨numerator, read, refused⟩
  · obtain ⟨reason, failed, rfl⟩ := locate_eq_error_iff.mp stopped
    have faulty : Faulty m .numerator := not_of_eq_error readScalePart_eq_ok_iff failed
    exact .of_first .numerator reason ⟨faulty, [.conversion], _, rfl, by simpa using first⟩
      (by decide)
  have numeratorSaid := readScalePart_eq_ok_iff.mp (locate_eq_ok_iff.mp read)
  have second : ¬Faulty m .numerator := fun faulty => faulty numerator numeratorSaid
  rcases bind_eq_error_iff.mp refused with stopped | ⟨denominator, read, -⟩
  · obtain ⟨reason, failed, rfl⟩ := locate_eq_error_iff.mp stopped
    have faulty : Faulty m .denominator := not_of_eq_error readScalePart_eq_ok_iff failed
    exact .of_first .denominator reason
      ⟨faulty, [.conversion, .numerator], _, rfl, by simpa using ⟨first, second⟩⟩ (by decide)
  have denominatorSaid := readScalePart_eq_ok_iff.mp (locate_eq_ok_iff.mp read)
  have reads : Reads config m conversion ⟨numerator, denominator⟩ :=
    reads_iff.mpr ⟨properties, conversionSaid, numeratorSaid, denominatorSaid⟩
  exact reads.blames whole

theorem sound_of_accepted {u : DisplayUnit} (accepted : parse name config = .ok u)
    (properties : Properties.parse config = .ok m) (field : Field) : ¬Faulty m field := by
  obtain ⟨m', reads, described⟩ := reads_of_parse accepted
  obtain rfl : m' = m := Except.ok.inj (reads.properties.symm.trans properties)
  obtain ⟨-, print, edit⟩ := reads.parse_eq_ok_iff.mp accepted
  obtain ⟨-, stated⟩ := reads_iff.mp reads
  rw [← described, checkFormat_eq_ok_iff] at print edit
  cases field with
  | conversion => exact stated.not_faulty _ (by decide)
  | numerator => exact stated.not_faulty _ (by decide)
  | denominator => exact stated.not_faulty _ (by decide)
  | formatString => exact fun faulty => stated.misfit_iff.mp faulty print
  | valueString => exact fun faulty => stated.misfit_iff.mp faulty edit

theorem blamed_of_refused (refused : parse name config = .error e) :
    ∃ f : Properties.Form, f.Of config ∧
      ((∃ p, f.Fails p ∧ e = ⟨name, p.segment, .property p⟩) ∨
        ∃ pairs m, f.Says pairs ∧ m.Collects pairs ∧ Blames name m e) := by
  cases properties : Properties.parse config with
  | error p =>
    obtain ⟨f, of, fails⟩ := Properties.parse_eq_error_iff.mp properties
    rw [parse, properties] at refused
    cases refused
    exact ⟨f, of, .inl ⟨p, fails, rfl⟩⟩
  | ok m =>
    obtain ⟨f, of, pairs, spoken, collects⟩ := Properties.parse_eq_ok_iff.mp properties
    exact ⟨f, of, .inr ⟨pairs, m, spoken, collects, blames_of_refused properties refused⟩⟩

/-- A configuration is refused exactly if something is wrong with its text, or a field is at fault
by the last texts that the configuration gives. The error names the unit and the first of these. In
an accepted unit both sides of the scale are positive, so nothing is ever divided by zero. -/
theorem parse_exact (name config : String) :
    ((∃ e, parse name config = .error e) ↔
      ∃ f : Properties.Form, f.Of config ∧
        ((∃ p, f.Fails p) ∨
          ∃ pairs m, f.Says pairs ∧ m.Collects pairs ∧ ∃ field, Faulty m field)) ∧
    (∀ e, parse name config = .error e →
      ∃ f : Properties.Form, f.Of config ∧
        ((∃ p, f.Fails p ∧ e = ⟨name, p.segment, .property p⟩) ∨
          ∃ pairs m, f.Says pairs ∧ m.Collects pairs ∧ Blames name m e)) ∧
    ∀ u, parse name config = .ok u →
      1 ≤ u.scale.numerator.toInt ∧ 1 ≤ u.scale.denominator.toInt ∧ u.scale.denominator ≠ 0 := by
  refine ⟨⟨?_, ?_⟩, fun e refused => blamed_of_refused refused, ?_⟩
  · rintro ⟨e, refused⟩
    obtain ⟨f, of, ⟨p, fails, -⟩ | ⟨pairs, m, spoken, collects, -, field, -, ⟨faulty, -⟩, -⟩⟩ :=
      blamed_of_refused refused
    · exact ⟨f, of, .inl ⟨p, fails⟩⟩
    · exact ⟨f, of, .inr ⟨pairs, m, spoken, collects, field, faulty⟩⟩
  · rintro ⟨f, of, ⟨p, fails⟩ | ⟨pairs, m, spoken, collects, field, faulty⟩⟩
    · have properties := Properties.parse_eq_error_iff.mpr ⟨f, of, fails⟩
      exact ⟨_, by rw [parse, properties]⟩
    · have properties := Properties.parse_eq_ok_iff.mpr ⟨f, of, pairs, spoken, collects⟩
      cases result : parse name config with
      | error e => exact ⟨e, rfl⟩
      | ok u => exact absurd faulty (sound_of_accepted result properties field)
  · intro u accepted
    obtain ⟨m, reads, -⟩ := reads_of_parse accepted
    obtain ⟨-, stated⟩ := reads_iff.mp reads
    refine ⟨stated.numerator.positive, stated.denominator.positive, ?_⟩
    intro zero
    have positive := stated.denominator.positive
    rw [zero] at positive
    exact absurd positive (by decide)

end

-- the scale comes first in the text, but the conversion is checked before it
example : parse "level" "numerator=0;conversion=celsius" =
    .error ⟨"level", "conversion", .conversion ⟨"celsius"⟩⟩ := by
  decide +kernel

end RemoteDevice.DisplayUnit
