import RemoteDevice.Proofs.Calendar.Range
import RemoteDevice.Proofs.DisplayUnit.Number

/-!
# What is shown

A value of an accepted unit is shown as its text, or, for an instant outside the calendar, as the
diagnostic that says so. The one exception are instants so close to the ends of the calendar that
the local clock has left it: these have no text of either kind.
-/
set_option autoImplicit false

namespace RemoteDevice.DisplayUnit

open Calendar (InRange)

/-- The value is an instant outside the calendar. -/
def OutsideCalendar (u : DisplayUnit) (raw : Int64) : Prop :=
  u.conversion.isTimestamp = true ∧ raw ≠ 0 ∧ ¬InRange raw.toInt

/-- The value is an instant inside the calendar that is shown by a local clock outside it. -/
def LeavesCalendar (u : DisplayUnit) (raw : Int64) (place : Offset) : Prop :=
  u.conversion = .unixSecondsLocal ∧ raw ≠ 0 ∧ InRange raw.toInt ∧
    ¬InRange (raw.toInt + place.seconds)

/-! ## Instants -/

section

variable {pattern : String} {items : List Calendar.Item} {raw : Int64} {place : Offset}

theorem renderInstant_outside (read : Calendar.Pattern.parse pattern = .ok items)
    (nonzero : raw ≠ 0) (outside : ¬InRange raw.toInt) :
    renderInstant pattern raw place = .refused (.outOfRange raw) := by
  rw [← Calendar.covers_iff, Bool.not_eq_true] at outside
  rw [renderInstant, if_neg nonzero, read]
  simp only [outside, Bool.not_false, if_true]

theorem renderInstant_off (read : Calendar.Pattern.parse pattern = .ok items)
    (nonzero : raw ≠ 0) (inside : InRange raw.toInt)
    (off : ¬InRange (raw.toInt + place.seconds)) :
    renderInstant pattern raw place = .offCalendar := by
  rw [← Calendar.covers_iff] at inside
  rw [← Calendar.covers_iff, Bool.not_eq_true] at off
  rw [renderInstant, if_neg nonzero, read]
  simp only [inside, off, Bool.not_true, Bool.not_false, Bool.false_eq_true, if_true, if_false]

theorem renderInstant_covered (read : Calendar.Pattern.parse pattern = .ok items)
    (nonzero : raw ≠ 0) (inside : InRange raw.toInt) (on : InRange (raw.toInt + place.seconds)) :
    renderInstant pattern raw place = .text (Calendar.write items ⟨raw.toInt, place⟩) := by
  rw [← Calendar.covers_iff] at inside on
  rw [renderInstant, if_neg nonzero, read]
  simp only [inside, on, Bool.not_true, Bool.false_eq_true, if_false]

theorem renderInstant_inside (read : Calendar.Pattern.parse pattern = .ok items)
    (inside : raw ≠ 0 → InRange raw.toInt)
    (on : raw ≠ 0 → InRange (raw.toInt + place.seconds)) :
    ∃ text, renderInstant pattern raw place = .text text := by
  by_cases zero : raw = 0
  · exact ⟨"", by rw [zero]; rfl⟩
  · exact ⟨_, renderInstant_covered read zero (inside zero) (on zero)⟩

end

/-! ## Units -/

section

variable {u : DisplayUnit} {format : String} {raw : Int64} {place : Offset}

theorem render_leaving (checked : checkFormat u.conversion u.scale format = .ok ())
    (leaves : u.LeavesCalendar raw place) : u.render format raw place = .offCalendar := by
  obtain ⟨conversion, nonzero, inside, off⟩ := leaves
  rw [conversion] at checked
  obtain ⟨items, read⟩ := (checkFormat_instant_ok_iff rfl).mp checked
  rw [render, conversion]
  exact renderInstant_off read nonzero inside off

theorem render_outside (checked : checkFormat u.conversion u.scale format = .ok ())
    (outside : u.OutsideCalendar raw) :
    u.render format raw place = .refused (.outOfRange raw) := by
  obtain ⟨instants, nonzero, beyond⟩ := outside
  obtain ⟨items, read⟩ := (checkFormat_instant_ok_iff instants).mp checked
  rw [render]
  cases conversion : u.conversion with
  | none =>
    rw [conversion] at instants
    cases instants
  | unixSecondsUtc => exact renderInstant_outside read nonzero beyond
  | unixSecondsLocal => exact renderInstant_outside read nonzero beyond

theorem render_otherwise (checked : checkFormat u.conversion u.scale format = .ok ())
    (stays : ¬u.LeavesCalendar raw place) (within : ¬u.OutsideCalendar raw) :
    ∃ text, u.render format raw place = .text text := by
  have inside : u.conversion.isTimestamp = true → raw ≠ 0 → InRange raw.toInt :=
    fun instants nonzero => Classical.not_not.mp fun beyond => within ⟨instants, nonzero, beyond⟩
  cases conversion : u.conversion with
  | none =>
    rw [conversion] at checked
    obtain ⟨text, rendered⟩ := (checkFormat_number_ok_iff raw).mp checked
    exact ⟨text, render_number conversion rendered place⟩
  | unixSecondsUtc =>
    have instants : u.conversion.isTimestamp = true := by rw [conversion]; rfl
    obtain ⟨items, read⟩ := (checkFormat_instant_ok_iff instants).mp checked
    -- the universal clock is the one for which the range was checked
    have on : raw ≠ 0 → InRange (raw.toInt + Offset.utc.seconds) := by
      rw [Offset.utc, Int.add_zero]
      exact inside instants
    rw [render, conversion]
    exact renderInstant_inside read (inside instants) on
  | unixSecondsLocal =>
    have instants : u.conversion.isTimestamp = true := by rw [conversion]; rfl
    obtain ⟨items, read⟩ := (checkFormat_instant_ok_iff instants).mp checked
    have on : raw ≠ 0 → InRange (raw.toInt + place.seconds) := fun nonzero =>
      Classical.not_not.mp fun off => stays ⟨conversion, nonzero, inside instants nonzero, off⟩
    rw [render, conversion]
    exact renderInstant_inside read (inside instants) on

end

/-- Every value of an accepted unit is shown, by its text or by the diagnostic of its error, unless
a local clock takes it out of the calendar, and then nothing is shown at all. The only error is that
an instant lies outside the calendar. -/
theorem shown_of_parse {name config : String} {u : DisplayUnit}
    (accepted : parse name config = .ok u) (raw : Int64) (place : Offset) :
    (¬u.LeavesCalendar raw place →
      (∃ text, u.print raw place = .text text ∧ (u.print raw place).shown = some text) ∨
      ∃ e, u.print raw place = .refused e ∧ (u.print raw place).shown = some e.diagnostic) ∧
    (u.LeavesCalendar raw place →
      u.print raw place = .offCalendar ∧ (u.print raw place).shown = none) ∧
    ∀ e, u.print raw place = .refused e ↔ u.OutsideCalendar raw ∧ e = .outOfRange raw := by
  obtain ⟨m, reads, -⟩ := reads_of_parse accepted
  obtain ⟨-, checked, -⟩ := reads.parse_eq_ok_iff.mp accepted
  rw [print]
  by_cases leaves : u.LeavesCalendar raw place
  · have off := render_leaving checked leaves
    rw [off]
    refine ⟨fun stays => absurd leaves stays, fun _ => ⟨rfl, rfl⟩, ?_⟩
    intro e
    constructor
    · intro refused
      cases refused
    · rintro ⟨⟨-, -, beyond⟩, -⟩
      exact absurd leaves.2.2.1 beyond
  by_cases outside : u.OutsideCalendar raw
  · have refused : u.render u.printFormat raw place = _ := render_outside checked outside
    rw [refused]
    refine ⟨fun _ => .inr ⟨_, rfl, rfl⟩, fun gone => absurd gone leaves, ?_⟩
    intro e
    rw [Rendering.refused.injEq, and_iff_right outside]
    exact eq_comm
  · obtain ⟨text, shown⟩ := render_otherwise checked leaves outside
    rw [shown]
    refine ⟨fun _ => .inl ⟨_, rfl, rfl⟩, fun gone => absurd gone leaves, ?_⟩
    intro e
    constructor
    · intro refused
      cases refused
    · rintro ⟨beyond, -⟩
      exact absurd beyond outside

/-- The items of the standard pattern. -/
def standardItems : List Calendar.Item :=
  [.component (.year .zero .full false false), .literal '-', .component (.month .zero .numerical),
    .literal '-', .component (.day .zero), .literal ' ', .component (.hour .zero false),
    .literal ':', .component (.minute .zero), .literal ':', .component (.second .zero)]

theorem parse_standardPattern : Calendar.Pattern.parse standardPattern = .ok standardItems := by
  decide +kernel

theorem checkFormat_standardPattern {conversion : Conversion} {scale : Scale}
    (instants : conversion.isTimestamp = true) :
    checkFormat conversion scale standardPattern = .ok () :=
  (checkFormat_instant_ok_iff instants).mpr ⟨_, parse_standardPattern⟩

/-- The unit of instants at local time, with nothing else configured. -/
def localInstants : DisplayUnit :=
  resolved "t" ⟨[("conversion", "unixSecondsLocal")]⟩ .unixSecondsLocal {}

theorem parse_localInstants : parse "t" "conversion=unixSecondsLocal" = .ok localInstants := by
  have reads : Reads "conversion=unixSecondsLocal" ⟨[("conversion", "unixSecondsLocal")]⟩
      .unixSecondsLocal {} := ⟨rfl, rfl, rfl, rfl⟩
  have pattern : checkFormat .unixSecondsLocal {} standardPattern = .ok () :=
    checkFormat_standardPattern rfl
  exact reads.parse_eq_ok_iff.mpr ⟨rfl, pattern, pattern⟩

/-- The first second beyond the calendar is refused at every place. -/
theorem shown_beyond_last :
    parse "t" "conversion=unixSecondsLocal" = .ok localInstants ∧
      ∀ place, localInstants.print 253402300800 place = .refused (.outOfRange 253402300800) := by
  refine ⟨parse_localInstants, ?_⟩
  intro place
  have outside : localInstants.OutsideCalendar 253402300800 := by
    refine ⟨rfl, by decide, ?_⟩
    rw [← Calendar.covers_iff]
    decide
  exact ((shown_of_parse parse_localInstants 253402300800 place).2.2 _).mpr ⟨outside, rfl⟩

/-- The last second of the calendar is not shown by a clock an hour ahead. -/
theorem last_second_not_shown :
    parse "t" "conversion=unixSecondsLocal" = .ok localInstants ∧
      Offset.ofParts? 1 0 0 = some ⟨3600⟩ ∧
      (localInstants.print 253402300799 ⟨3600⟩).shown = none := by
  refine ⟨parse_localInstants, rfl, ?_⟩
  decide +kernel

end RemoteDevice.DisplayUnit
