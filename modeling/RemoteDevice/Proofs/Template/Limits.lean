import RemoteDevice.Proofs.Template.IntegerField

/-!
# The limits of width and precision

A directive is refused for its width or its precision exactly when the number that is spelled, with
as many digits as it may have, is above the limit (`render_limited`). What a template that renders
puts into a field to fill it is therefore limited as well.
-/
set_option autoImplicit false

namespace RemoteDevice

/-! ## What fills a field -/

/-- The field is the bare text with blanks or with zeros put in at one place. -/
def Fills (count : Nat) (bare field : List Char) : Prop :=
  ∃ front back fill, (fill = ' ' ∨ fill = '0') ∧ bare = front ++ back ∧
    field = front ++ List.replicate count fill ++ back

theorem Fills.zero (text : List Char) : Fills 0 text text :=
  ⟨text, [], ' ', .inl rfl, by simp, by simp⟩

namespace Directive

/-- A text that a directive shows, whose width does nothing but fill it: neither the sign nor the
body depends on it, nor whether zeros may be used. -/
def FilledBy (d : Directive) (shown : Directive → List Char) : Prop :=
  ∃ zero sign body, ∀ width,
    shown { d with width := width } = { d with width := width, zero := zero }.pad sign body

section

variable (d : Directive)

theorem fills_pad (sign body : List Char) :
    Fills (d.width - (sign ++ body).length) (sign ++ body) (d.pad sign body) := by
  rw [List.length_append]
  simp only [pad]
  split
  · exact ⟨sign ++ body, [], ' ', .inl rfl, by simp, by simp⟩
  split
  · exact ⟨sign, body, '0', .inr rfl, rfl, rfl⟩
  · exact ⟨[], sign ++ body, ' ', .inl rfl, rfl, by simp⟩

variable {d}

theorem FilledBy.fills {shown : Directive → List Char} (filled : d.FilledBy shown) :
    ∃ count ≤ d.width, Fills count (shown { d with width := 0 }) (shown d) := by
  obtain ⟨zero, sign, body, width⟩ := filled
  have bare := width 0
  rw [pad_of_le (Nat.zero_le _)] at bare
  rw [bare]
  have full := width d.width
  rw [full]
  exact ⟨_, Nat.sub_le _ _, fills_pad _ sign body⟩

variable (d)

theorem filledBy_pad (sign body : List Char) : d.FilledBy fun d => d.pad sign body :=
  ⟨d.zero, sign, body, fun _ => rfl⟩

theorem filledBy_padText (text : List Char) : d.FilledBy fun d => d.padText text :=
  ⟨false, [], text, fun _ => rfl⟩

theorem filledBy_signedInteger (v : Int64) : d.FilledBy fun d => d.signedInteger v :=
  ⟨d.zero, d.sign (v < 0), d.grouped (Nat.toDigits 10 v.toInt.natAbs), fun _ => rfl⟩

theorem filledBy_fixedFloat (value : Binary64) : d.FilledBy fun d => d.fixedFloat value := by
  cases value with
  | finite negative mantissa exponent =>
    -- Without this, the digits of the number would be unfolded to be compared.
    have places : ∀ width, { d with width := width }.places = d.places := fun _ => rfl
    let body := Decimal.fixed (.ofBinary mantissa exponent) d.places
    refine ⟨d.zero, d.sign (negative && mantissa != 0),
      { body with whole := d.grouped body.whole }.text, fun width => ?_⟩
    simp only [fixedFloat, places]
    rfl
  | nan => exact d.filledBy_padText _
  | infinite negative => exact d.filledBy_padText _

theorem filledBy_scientificFloat (mark : Char) (value : Binary64) :
    d.FilledBy fun d => d.scientificFloat mark value := by
  cases value with
  | finite negative mantissa exponent =>
    let body := Decimal.scientific (.ofBinary mantissa exponent) d.places
    exact ⟨d.zero, d.sign (negative && mantissa != 0),
      body.significand.text ++ powerText mark body.power, fun _ => rfl⟩
  | nan => exact d.filledBy_padText _
  | infinite negative => exact d.filledBy_padText _

theorem filledBy_plainText (text : List Char) : d.FilledBy fun d => d.plainText text := by
  cases cut : d.precision with
  | none =>
    refine ⟨false, [], text, fun _ => ?_⟩
    simp only [plainText, cut]
    rfl
  | some places =>
    refine ⟨false, [], text.take places, fun _ => ?_⟩
    simp only [plainText, cut]
    rfl

/-- In every conversion that takes the argument, the width only fills the field. -/
theorem filledBy_field {conversion : Char} {arg : Argument}
    (taken : Template.takes arg.kind conversion = true) :
    d.FilledBy fun d => (d.field conversion arg).toOption.getD [] := by
  cases arg with
  | int v =>
    simp only [Argument.kind, Template.takes, List.contains_cons, List.contains_nil, Bool.or_false,
      Bool.or_eq_true, beq_iff_eq] at taken
    rcases taken with rfl | rfl | rfl | rfl | rfl | rfl
    · exact d.filledBy_signedInteger v
    · exact d.filledBy_signedInteger v
    · exact d.filledBy_pad [] _
    · exact d.filledBy_pad [] _
    · exact d.filledBy_pad [] _
    · exact d.filledBy_plainText _
  | float x =>
    simp only [Argument.kind, Template.takes, List.contains_cons, List.contains_nil, Bool.or_false,
      Bool.or_eq_true, beq_iff_eq] at taken
    rcases taken with rfl | rfl | rfl | rfl
    · exact d.filledBy_fixedFloat (.ofFloat x)
    · exact d.filledBy_scientificFloat 'e' (.ofFloat x)
    · exact d.filledBy_scientificFloat 'E' (.ofFloat x)
    · exact d.filledBy_plainText _

end

end Directive

namespace Template

/-- What a fitting directive fills its field with is limited by its width. -/
theorem fills_shown {s : Spelling} {conversion : Option Char} {arg : Argument}
    (fits : (Segment.directive s conversion).Fits arg.kind) :
    ∃ count ≤ number s.width,
      Fills count ((Segment.directive { s with width := [] } conversion).shown arg)
        ((Segment.directive s conversion).shown arg) := by
  obtain ⟨-, c, rfl, known, takes⟩ := fits
  simp only [Segment.shown]
  by_cases percent : c = '%'
  · rw [if_pos percent, if_pos percent]
    exact (s.layout.filledBy_pad [] ['%']).fills
  by_cases newline : c = 'n'
  · simp only [if_neg percent, if_pos newline]
    exact ⟨0, Nat.zero_le _, .zero _⟩
  · simp only [if_neg percent, if_neg newline]
    have consumes := (known.resolve_left percent).resolve_left newline
    exact (s.layout.filledBy_field (takes consumes)).fills

/-! ## What is refused for its size -/

theorem kind_eq_invalidTemplate_iff {e : TemplateError} :
    e.kind = "InvalidTemplate" ↔ ∃ text, e = .oversize text := by
  cases e <;> simp [TemplateError.kind]

namespace Segment

theorem text_ne_nil (segment : Segment) : segment.text ≠ [] := by
  cases segment <;> simp [text]

/-- The only fault of a directive above the limit is that it is above the limit. -/
theorem fault?_eq_oversize_iff {kind : ArgumentKind} {spent : Bool} {rest : List Char}
    {segment : Segment} {shown : String} :
    segment.fault? kind spent rest = some (.oversize shown) ↔
      ∃ s conversion, segment = directive s conversion ∧ s.Oversize ∧
        shown = String.ofList (segment.text ++ rest) := by
  cases segment with
  | literal c => simp [fault?]
  | directive s conversion =>
    by_cases oversize : s.Oversize
    · simp [fault?, oversize, eq_comm]
    · have other : (directive s conversion).fault? kind spent rest ≠ some (.oversize shown) := by
        simp only [fault?, if_neg oversize]
        split <;> grind
      simp [other, oversize]

/-- Where the text from a place on is the same, the place in the cut is the same. -/
theorem eq_of_flatMap_text_eq {before after before' after' : List Segment}
    (same : before ++ after = before' ++ after')
    (texts : after.flatMap text = after'.flatMap text) : after = after' := by
  have nothing : ∀ {between : List Segment} {l : List Char}, l = between.flatMap text ++ l →
      between = [] := by
    intro between l same
    have empty := List.append_left_eq_self.mp same.symm
    rw [List.flatMap_eq_nil_iff] at empty
    exact List.eq_nil_iff_forall_not_mem.mpr fun segment member =>
      segment.text_ne_nil (empty segment member)
  rcases List.append_eq_append_iff.mp same with ⟨between, -, rfl⟩ | ⟨between, -, rfl⟩
  · rw [List.flatMap_append] at texts
    rw [nothing texts.symm, List.nil_append]
  · rw [List.flatMap_append] at texts
    rw [nothing texts, List.nil_append]

end Segment

section Refusal

variable {template : String} {arg : Argument} {cut before after : List Segment}

theorem render_eq_oversize_iff (cuts : Cuts template.toList cut) {shown : String} :
    render template arg = .error (.oversize shown) ↔
      ∃ before s conversion after, cut = before ++ .directive s conversion :: after ∧
        Renders arg.kind false before ∧ s.Oversize ∧
        shown = String.ofList ((Segment.directive s conversion :: after).flatMap Segment.text) := by
  rw [render, map_eq_error_iff, renderPieces_eq_error_iff cuts]
  constructor
  · rintro ⟨before, segment, after, rfl, renders, fault⟩
    obtain ⟨s, conversion, rfl, oversize, rfl⟩ := Segment.fault?_eq_oversize_iff.mp fault
    exact ⟨before, s, conversion, after, rfl, renders, oversize, by rw [List.flatMap_cons]⟩
  · rintro ⟨before, s, conversion, after, rfl, renders, oversize, rfl⟩
    refine ⟨before, .directive s conversion, after, rfl, renders, ?_⟩
    rw [Segment.fault?_eq_oversize_iff]
    exact ⟨s, conversion, rfl, oversize, by rw [List.flatMap_cons]⟩

/-- A directive that is reached is refused, with the template from it on, exactly if it is above the
limit. -/
theorem render_eq_oversize_iff_of_reached {s : Spelling} {conversion : Option Char}
    (cuts : Cuts template.toList (before ++ .directive s conversion :: after))
    (reached : Renders arg.kind false before) :
    render template arg = .error (.oversize
        (String.ofList ((Segment.directive s conversion :: after).flatMap Segment.text))) ↔
      s.Oversize := by
  rw [render_eq_oversize_iff cuts]
  constructor
  · rintro ⟨before', s', conversion', after', same, -, oversize, shown⟩
    have here := Segment.eq_of_flatMap_text_eq same (String.ofList_injective shown)
    cases here
    exact oversize
  · intro oversize
    exact ⟨before, s, conversion, after, rfl, reached, oversize, rfl⟩

end Refusal

/-- A number is read to its last digit, and stays at the greatest of 64 bits if it is above. So a
directive that is reached is refused for its size exactly if the number that its width spells, or
its precision, is above the limit. Nothing else is refused for its size, and no directive of a
template that renders is above the limit, or fills its field with more characters than that. -/
theorem render_limited :
    (∀ digits rest : List Char, (∀ c ∈ digits, c.isDigit = true) →
      (∀ c ∈ rest.head?, c.isDigit = false) →
        takeNumber (digits ++ rest) =
          (if digits = [] then none else some (min (number digits) (2 ^ 64 - 1)), rest)) ∧
    ∀ (template : String) (arg : Argument), ∃ cut, Cuts template.toList cut ∧
      (∀ before s conversion after, cut = before ++ .directive s conversion :: after →
        Renders arg.kind false before →
          (render template arg = .error (.oversize
              (String.ofList ((Segment.directive s conversion :: after).flatMap Segment.text))) ↔
            1024 < number s.width ∨
              ∃ digits, s.precision = some digits ∧ 1024 < number digits)) ∧
      (∀ e, render template arg = .error e → e.kind = "InvalidTemplate" →
        ∃ before s conversion after, cut = before ++ .directive s conversion :: after ∧
          Renders arg.kind false before ∧
          e = .oversize
            (String.ofList ((Segment.directive s conversion :: after).flatMap Segment.text))) ∧
      ∀ text, render template arg = .ok text →
        text.toList = cut.flatMap (Segment.shown arg) ∧
        ∀ s conversion, .directive s conversion ∈ cut →
          number s.width ≤ 1024 ∧ (∀ digits, s.precision = some digits → number digits ≤ 1024) ∧
          ∃ count ≤ 1024,
            Fills count ((Segment.directive { s with width := [] } conversion).shown arg)
              ((Segment.directive s conversion).shown arg) := by
  refine ⟨fun digits rest inside stops => takeNumber_eq inside stops, fun template arg => ?_⟩
  obtain ⟨cut, cuts⟩ := Cuts.total template.toList
  refine ⟨cut, cuts, ?_, ?_, ?_⟩
  · rintro before s conversion after rfl reached
    exact render_eq_oversize_iff_of_reached cuts reached
  · intro e refused kind
    obtain ⟨shown, rfl⟩ := kind_eq_invalidTemplate_iff.mp kind
    obtain ⟨before, s, conversion, after, here, reached, -, rfl⟩ :=
      (render_eq_oversize_iff cuts).mp refused
    exact ⟨before, s, conversion, after, here, reached, rfl⟩
  · intro text rendered
    rw [render, map_eq_ok_iff] at rendered
    obtain ⟨shown, rendered, rfl⟩ := rendered
    obtain ⟨renders, rfl⟩ := (renderPieces_eq_ok_iff cuts).mp rendered
    refine ⟨String.toList_ofList, ?_⟩
    intro s conversion member
    have fits := renders.fits _ member
    have within := fits.1
    simp only [Spelling.Oversize, maxField, not_or, not_exists, not_and, Nat.not_lt] at within
    obtain ⟨width, precision⟩ := within
    obtain ⟨count, few, fills⟩ := fills_shown fits
    exact ⟨width, precision, count, few.trans width, fills⟩

/-- The width is far above 64 bits, and the directive is refused for it where it is reached. -/
theorem render_limited_beyond_word :
    takeNumber "18446744073709551617s".toList = (some 18446744073709551615, ['s']) ∧
    render "%d of %18446744073709551617s" (.int 7) =
      .error (.oversize "%18446744073709551617s") ∧
    ∃ cut, Cuts "%d of %18446744073709551617s".toList cut ∧
      ∃ before s conversion after, cut = before ++ .directive s conversion :: after ∧
        Renders (Argument.int 7).kind false before ∧
        (1024 < number s.width ∨ ∃ digits, s.precision = some digits ∧ 1024 < number digits) := by
  obtain ⟨taken, renders⟩ := render_limited
  obtain ⟨cut, cuts, refused, kinds, -⟩ := renders "%d of %18446744073709551617s" (.int 7)
  have digits : "18446744073709551617".toList.all Char.isDigit = true := by decide
  have number := taken "18446744073709551617".toList ['s'] (List.all_eq_true.mp digits) (by simp)
  have failed : render "%d of %18446744073709551617s" (.int 7) =
      .error (.oversize "%18446744073709551617s") := by decide +kernel
  obtain ⟨before, s, conversion, after, same, reached, shown⟩ := kinds _ failed rfl
  refine ⟨number.trans (by decide), failed, cut, cuts, before, s, conversion, after, same, reached,
    (refused before s conversion after same reached).mp ?_⟩
  rw [failed, shown]

end Template

end RemoteDevice
