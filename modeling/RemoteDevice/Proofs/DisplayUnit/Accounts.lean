import RemoteDevice.Proofs.DisplayUnit.Fields
import RemoteDevice.Proofs.Property.RoundTrip

/-!
# What becomes of the properties of a unit

Every property of an accepted configuration is either one of the recognized ones, which give the
unit its fields, or left to whoever shows the unit. None is lost, and none is used twice.
-/
set_option autoImplicit false

namespace RemoteDevice.DisplayUnit

/-- What the properties say of the conversion and of the scale. -/
structure Stated (m : Properties) (conversion : Conversion) (scale : Scale) : Prop where
  conversion : SaysConversion (m.get? "conversion") conversion
  numerator : SaysScalePart (m.get? "numerator") scale.numerator
  denominator : SaysScalePart (m.get? "denominator") scale.denominator

theorem reads_iff {config : String} {m : Properties} {conversion : Conversion} {scale : Scale} :
    Reads config m conversion scale ↔
      Properties.parse config = .ok m ∧ Stated m conversion scale := by
  constructor
  · rintro ⟨properties, conversion, numerator, denominator⟩
    exact ⟨properties, readConversion_eq_ok_iff.mp conversion, readScalePart_eq_ok_iff.mp numerator,
      readScalePart_eq_ok_iff.mp denominator⟩
  · rintro ⟨properties, conversion, numerator, denominator⟩
    exact ⟨properties, readConversion_eq_ok_iff.mpr conversion,
      readScalePart_eq_ok_iff.mpr numerator, readScalePart_eq_ok_iff.mpr denominator⟩

/-- Where each field of the unit comes from. A format that is given counts even if it is empty. -/
structure Accounts (name : String) (m : Properties) (u : DisplayUnit) : Prop where
  named : u.name = name
  stated : Stated m u.conversion u.scale
  print : u.printFormat = (m.get? "formatString").getD
    (if u.conversion ≠ .none then "[year]-[month]-[day] [hour]:[minute]:[second]"
      else if u.scale ≠ ⟨1, 1⟩ then "%f" else "%d")
  edit : u.editFormat = (m.get? "valueString").getD u.printFormat
  label : u.label = (m.get? "label").getD name
  editor : ∀ e, u.editor = some e ↔ m.get? "editor" = some e ∧ e ≠ ""
  extra : u.extra.pairs = m.pairs.filter fun pair => pair.1 ∉ recognized

section

variable {name : String} {m q : Properties} {conversion : Conversion} {scale : Scale}

theorem standardFormat_eq (conversion : Conversion) (scale : Scale) :
    standardFormat conversion scale =
      if conversion ≠ .none then "[year]-[month]-[day] [hour]:[minute]:[second]"
      else if scale ≠ ⟨1, 1⟩ then "%f" else "%d" := by
  rw [standardFormat]
  simp only [Conversion.isTimestamp_iff, Scale.isOne_iff]
  by_cases instants : conversion ≠ .none
  · rw [if_pos instants, if_pos instants]
    rfl
  · rw [if_neg instants, if_neg instants, ite_not]

theorem accounts_resolved (distinct : m.Distinct) (stated : Stated m conversion scale) :
    Accounts name m (resolved name m conversion scale) where
  named := rfl
  stated := stated
  print := by
    rw [← standardFormat_eq]
    rfl
  edit := rfl
  label := rfl
  editor := by
    intro e
    simp [resolved, Option.filter_eq_some_iff]
  extra := distinct.pairs_eraseAll recognized

/-- The order of the properties only shows in what is left of them. -/
theorem resolved_congr (same : ∀ key, q.get? key = m.get? key) :
    resolved name q conversion scale =
      { resolved name m conversion scale with extra := recognized.foldl Properties.erase q } := by
  simp only [resolved, Properties.getD, same]

theorem Stated.congr (same : ∀ key, q.get? key = m.get? key) (h : Stated m conversion scale) :
    Stated q conversion scale where
  conversion := same "conversion" ▸ h.conversion
  numerator := same "numerator" ▸ h.numerator
  denominator := same "denominator" ▸ h.denominator

end

theorem Accounts.property_eq {name : String} {m : Properties} {u : DisplayUnit}
    (h : Accounts name m u) (key fallback : String) :
    u.property key fallback =
      if key ∈ recognized then fallback else (m.get? key).getD fallback := by
  have left : u.extra.get? key = if key ∉ recognized then m.get? key else none := by
    rw [Properties.get?, h.extra, Association.lookup_filter fun name => decide (name ∉ recognized)]
    simp only [decide_eq_true_eq]
    rfl
  rw [property, Properties.getD, left, ite_not]
  by_cases known : key ∈ recognized
  · rw [if_pos known, if_pos known]
    rfl
  · rw [if_neg known, if_neg known]

/-- Each property of an accepted configuration is accounted for once: the recognized ones give the
fields, as far as they are there, and the others are left as they are, in their order. What is left
answers for every name but the recognized ones. The unit depends on the properties alone, however
they are written, and on their order only in the order of what is left. -/
theorem accounts_of_parse {name config : String} {u : DisplayUnit}
    (accepted : parse name config = .ok u) :
    ∃ m, Properties.parse config = .ok m ∧ Accounts name m u ∧
      (∀ key fallback, u.property key fallback =
        if key ∈ recognized then fallback else (m.get? key).getD fallback) ∧
      (∀ other, Properties.parse other = .ok m → parse name other = .ok u) ∧
      ∀ other q, Properties.parse other = .ok q → q.pairs.Perm m.pairs →
        ∃ v, parse name other = .ok v ∧ Accounts name q v ∧ { v with extra := u.extra } = u ∧
          v.extra.pairs.Perm u.extra.pairs := by
  obtain ⟨m, reads, described⟩ := reads_of_parse accepted
  obtain ⟨-, print, edit⟩ := reads.parse_eq_ok_iff.mp accepted
  obtain ⟨properties, stated⟩ := reads_iff.mp reads
  have distinct := Properties.distinct_of_parse properties
  have accounts : Accounts name m u := described ▸ accounts_resolved distinct stated
  refine ⟨m, properties, accounts, accounts.property_eq, ?_, ?_⟩
  · intro other same
    have reads' : Reads other m u.conversion u.scale := reads_iff.mpr ⟨same, stated⟩
    exact reads'.parse_eq_ok_iff.mpr ⟨described, print, edit⟩
  · intro other q properties' reordered
    have same := distinct.get?_of_perm reordered
    have distinct' := Properties.distinct_of_parse properties'
    have reads' : Reads other q u.conversion u.scale :=
      reads_iff.mpr ⟨properties', stated.congr same⟩
    have congr : resolved name q u.conversion u.scale =
        { u with extra := recognized.foldl Properties.erase q } := by
      rw [resolved_congr same, described]
    refine ⟨resolved name q u.conversion u.scale, ?_, ?_, ?_, ?_⟩
    · refine reads'.parse_eq_ok_iff.mpr ⟨rfl, ?_, ?_⟩
      · rw [congr]
        exact print
      · rw [congr]
        exact edit
    · exact accounts_resolved distinct' (stated.congr same)
    · rw [congr]
    · rw [(accounts_resolved distinct' (stated.congr same)).extra, accounts.extra]
      exact reordered.filter _

/-- The later of two colours counts in the place of the earlier one, and an empty editor is none. -/
theorem accounts_of_speed :
    ∃ u, parse "speed" "color=red; label = km\\/h;; color=blue; editor=; icon=dial" = .ok u ∧
      u.label = "km/h" ∧ u.editor = none ∧ u.property "label" "?" = "?" ∧
      u.property "color" "?" = "blue" ∧ u.extra.pairs = [("color", "blue"), ("icon", "dial")] ∧
      ∃ v, parse "speed" "icon=dial;label=km/h;editor=;color=blue" = .ok v ∧
        { v with extra := u.extra } = u ∧
        v.extra.pairs = [("icon", "dial"), ("color", "blue")] := by
  have accepted : parse "speed" "color=red; label = km\\/h;; color=blue; editor=; icon=dial" =
      .ok { name := "speed", label := "km/h", printFormat := "%d", editFormat := "%d", scale := {}
            conversion := .none, editor := none
            extra := ⟨[("color", "blue"), ("icon", "dial")]⟩ } := by
    decide +kernel
  have properties : Properties.parse "color=red; label = km\\/h;; color=blue; editor=; icon=dial" =
      .ok ⟨[("color", "blue"), ("label", "km/h"), ("editor", ""), ("icon", "dial")]⟩ := rfl
  have reordered : Properties.parse "icon=dial;label=km/h;editor=;color=blue" =
      .ok ⟨[("icon", "dial"), ("label", "km/h"), ("editor", ""), ("color", "blue")]⟩ := rfl
  obtain ⟨m, read, -, answers, -, others⟩ := accounts_of_parse accepted
  obtain rfl : m = _ := Except.ok.inj (read.symm.trans properties)
  obtain ⟨v, accepted', accounts, same, -⟩ := others _ _ reordered (by decide)
  refine ⟨_, accepted, rfl, rfl, ?_, ?_, rfl, v, accepted', same, accounts.extra⟩
  · exact answers "label" "?"
  · exact answers "color" "?"

end RemoteDevice.DisplayUnit
