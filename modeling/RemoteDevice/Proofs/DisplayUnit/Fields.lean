import RemoteDevice.Proofs.Decimal.Integer
import RemoteDevice.Proofs.DisplayUnit.Number
import RemoteDevice.Proofs.Template.Semantics
import RemoteDevice.Proofs.Text.Blank

/-!
# What the fields of a configuration say

The texts of the conversion and of the two sides of the scale say something or not, and a format
fits what the unit shows or not. The reader takes a field for what its text says and refuses it
where this is nothing.
-/
set_option autoImplicit false

namespace RemoteDevice

theorem Scale.isOne_iff {s : Scale} : s.isOne = true ↔ s = ⟨1, 1⟩ := by
  obtain ⟨numerator, denominator⟩ := s
  simp [isOne]

theorem Conversion.isTimestamp_iff {conversion : Conversion} :
    conversion.isTimestamp = true ↔ conversion ≠ .none := by
  cases conversion <;> simp [isTimestamp]

namespace DisplayUnit

/-! ## The conversion -/

/-- The name of a conversion counts, in letters of either case. -/
inductive SaysConversion : Option String → Conversion → Prop
  | absent : SaysConversion none .none
  | blank {text : String} (blank : ∀ c ∈ text.toList, Text.isBlank c = true) :
      SaysConversion (some text) .none
  | named {text : String} {core : List Char} {conversion : Conversion}
      (core_of : Text.Trims text.toList core)
      (letters : core.map Char.toLower = conversion.name.toList.map Char.toLower) :
      SaysConversion (some text) conversion

theorem sameLetters_trim_iff {text other : String} :
    Conversion.sameLetters (Text.trim text) other = true ↔
      (Text.trimChars text.toList).map Char.toLower = other.toList.map Char.toLower := by
  rw [Conversion.sameLetters, Text.toList_trim, beq_iff_eq]

theorem trim_isEmpty_iff {text : String} :
    (Text.trim text).isEmpty = true ↔ ∀ c ∈ text.toList, Text.isBlank c = true := by
  rw [String.isEmpty_iff, ← String.toList_inj, Text.toList_trim, String.toList_empty,
    Text.trimChars_eq_iff, Text.trims_nil_iff]

theorem says_of_readConversion {given : Option String} {conversion : Conversion}
    (read : readConversion given = .ok conversion) : SaysConversion given conversion := by
  cases given with
  | none =>
    cases read
    exact .absent
  | some text =>
    have trims := Text.trims_trimChars text.toList
    simp only [readConversion, Conversion.ofName, Bool.or_eq_true, trim_isEmpty_iff,
      sameLetters_trim_iff] at read
    by_cases first : (∀ c ∈ text.toList, Text.isBlank c = true) ∨
        (Text.trimChars text.toList).map Char.toLower = "none".toList.map Char.toLower
    · rw [if_pos first] at read
      cases read
      rcases first with blank | letters
      · exact .blank blank
      · exact .named trims letters
    rw [if_neg first] at read
    by_cases second : (Text.trimChars text.toList).map Char.toLower =
        "unixSecondsUTC".toList.map Char.toLower
    · rw [if_pos second] at read
      cases read
      exact .named trims second
    rw [if_neg second] at read
    by_cases third : (Text.trimChars text.toList).map Char.toLower =
        "unixSecondsLocal".toList.map Char.toLower
    · rw [if_pos third] at read
      cases read
      exact .named trims third
    · rw [if_neg third] at read
      cases read

theorem readConversion_eq_ok_iff {given : Option String} {conversion : Conversion} :
    readConversion given = .ok conversion ↔ SaysConversion given conversion := by
  constructor
  · exact says_of_readConversion
  · intro h
    cases h with
    | absent => rfl
    | blank blank =>
      simp only [readConversion, Conversion.ofName, trim_isEmpty_iff.mpr blank, Bool.true_or,
        if_true]
    | @named text core _ core_of letters =>
      have written : core ≠ [] := by
        rintro rfl
        cases conversion <;> cases letters
      have unblank : ¬∀ c ∈ text.toList, Text.isBlank c = true := fun blank =>
        written (core_of.eq.symm.trans (Text.trims_nil_iff.mpr blank).eq)
      simp only [readConversion, Conversion.ofName, Bool.or_eq_true, trim_isEmpty_iff, unblank,
        false_or, sameLetters_trim_iff, core_of.eq, letters]
      cases conversion <;> rfl

/-! ## The scale -/

/-- A side of the scale is a whole number from 1 on, as far as 64 bits go. -/
inductive SaysScalePart : Option String → Int64 → Prop
  | absent : SaysScalePart none 1
  | given {text : String} {core : List Char} {n : Int64} (core_of : Text.Trims text.toList core)
      (spelled : Decimal.Spells core n.toInt) (positive : 1 ≤ n.toInt) : SaysScalePart (some text) n

theorem readScalePart_eq_ok_iff {given : Option String} {n : Int64} :
    readScalePart given = .ok n ↔ SaysScalePart given n := by
  have one : (1 : Int64).toInt = 1 := rfl
  constructor
  · intro read
    cases given with
    | none =>
      cases read
      exact .absent
    | some text =>
      cases number : Decimal.readInt64 (Text.trimChars text.toList) with
      | error e =>
        simp only [readScalePart, number] at read
        cases read
      | ok v =>
        simp only [readScalePart, number] at read
        by_cases positive : 1 ≤ v
        · rw [if_pos positive] at read
          cases read
          rw [Int64.le_iff_toInt_le, one] at positive
          exact .given (Text.trims_trimChars text.toList) (Decimal.readInt64_eq_ok_iff.mp number)
            positive
        · rw [if_neg positive] at read
          cases read
  · intro h
    cases h with
    | absent => rfl
    | given core_of spelled positive =>
      have number := Decimal.readInt64_eq_ok_iff.mpr spelled
      rw [← one, ← Int64.le_iff_toInt_le] at positive
      simp only [readScalePart, core_of.eq, number, if_pos positive]

theorem SaysScalePart.positive {given : Option String} {n : Int64} (h : SaysScalePart given n) :
    1 ≤ n.toInt := by
  cases h with
  | absent => decide
  | given core_of spelled positive => exact positive

/-! ## The formats -/

/-- A number is shown by a template, which renders whole numbers as long as they are not scaled, and
an instant by a pattern. -/
inductive Fits : Conversion → Scale → String → Prop
  | whole {format : String} {cut : List Template.Segment} (cuts : Template.Cuts format.toList cut)
      (renders : Template.Renders .integer false cut) : Fits .none ⟨1, 1⟩ format
  | scaled {scale : Scale} {format : String} {cut : List Template.Segment} (scales : scale ≠ ⟨1, 1⟩)
      (cuts : Template.Cuts format.toList cut) (renders : Template.Renders .float false cut) :
      Fits .none scale format
  | instant {conversion : Conversion} {scale : Scale} {format : String}
      {items : List Calendar.Item} (instants : conversion ≠ .none)
      (read : Calendar.Pattern.parse format = .ok items) : Fits conversion scale format

theorem kind_argument_scaled {scale : Scale} (scales : scale ≠ ⟨1, 1⟩) (raw : Int64) :
    (scale.argument raw).kind = .float := by
  rw [Scale.argument, if_neg (Scale.isOne_iff.not.mpr scales)]
  rfl

theorem checkFormat_eq_ok_iff {conversion : Conversion} {scale : Scale} {format : String} :
    checkFormat conversion scale format = .ok () ↔ Fits conversion scale format := by
  constructor
  · intro checked
    by_cases number : conversion = .none
    · subst number
      obtain ⟨cut, cuts⟩ := Template.Cuts.total format.toList
      have renders :=
        (Template.exists_render_iff cuts).mp ((checkFormat_number_ok_iff 0).mp checked)
      by_cases one : scale = ⟨1, 1⟩
      · subst one
        exact .whole cuts renders
      · rw [kind_argument_scaled one] at renders
        exact .scaled one cuts renders
    · obtain ⟨items, read⟩ :=
        (checkFormat_instant_ok_iff (Conversion.isTimestamp_iff.mpr number)).mp checked
      exact .instant number read
  · intro h
    cases h with
    | whole cuts renders =>
      exact (checkFormat_number_ok_iff 0).mpr ((Template.exists_render_iff cuts).mpr renders)
    | scaled scales cuts renders =>
      rw [← kind_argument_scaled scales 0] at renders
      exact (checkFormat_number_ok_iff 0).mpr ((Template.exists_render_iff cuts).mpr renders)
    | instant instants read =>
      exact (checkFormat_instant_ok_iff (Conversion.isTimestamp_iff.mpr instants)).mpr ⟨_, read⟩

end DisplayUnit

end RemoteDevice
