import Mathlib.Tactic.IntervalCases
import RemoteDevice.Calendar.Clock

/-!
# Clocks of the Gregorian calendar

A clock shows a count of seconds if its date exists in the proleptic Gregorian calendar and lies as
many days after the first of January 1970 as there are in the count, with the time of day left over.
There is exactly one such clock, the one that is read off the count.
-/
set_option autoImplicit false

namespace RemoteDevice.Calendar

/-! ## Dates -/

def daysInMonth (leap : Bool) : Nat → Nat
  | 2 => if leap then 29 else 28
  | 4 | 6 | 9 | 11 => 30
  | _ => 31

/-- The days from the first of January of the year 1 to that of the given year. -/
def daysBeforeYear (year : Int) : Int :=
  365 * (year - 1) + (year - 1) / 4 - (year - 1) / 100 + (year - 1) / 400

/-- The date exists, and its day of the year is right. -/
structure Date.Exists (d : Date) : Prop where
  month_pos : 1 ≤ d.month
  month_le : d.month ≤ 12
  day_pos : 1 ≤ d.day
  day_le : d.day ≤ daysInMonth (isLeap d.year) d.month
  ordinal : d.ordinal = daysBefore (isLeap d.year) d.month + d.day

/-- The days from the first of January 1970 to the date. -/
def Date.days (d : Date) : Int :=
  daysBeforeYear d.year - daysBeforeYear 1970 + ((d.ordinal : Int) - 1)

theorem isLeap_iff {year : Int} :
    isLeap year = true ↔ year % 4 = 0 ∧ (year % 100 ≠ 0 ∨ year % 400 = 0) := by
  simp [isLeap]

theorem daysBeforeYear_succ (year : Int) :
    daysBeforeYear (year + 1) = daysBeforeYear year + if isLeap year then 366 else 365 := by
  by_cases leap : isLeap year = true
  · rw [if_pos leap]
    rw [isLeap_iff] at leap
    simp only [daysBeforeYear]
    omega
  · rw [if_neg leap]
    rw [isLeap_iff] at leap
    simp only [daysBeforeYear]
    omega

theorem daysBefore_succ (leap : Bool) {month : Nat} (pos : 1 ≤ month) (less : month < 12) :
    daysBefore leap (month + 1) = daysBefore leap month + daysInMonth leap month := by
  interval_cases month <;> cases leap <;> rfl

theorem daysBeforeYear_mono {first second : Int} (le : first ≤ second) :
    daysBeforeYear first ≤ daysBeforeYear second := by
  simp only [daysBeforeYear]
  omega

theorem daysBefore_mono (leap : Bool) {first second : Nat} (pos : 1 ≤ first)
    (le : first ≤ second) (within : second ≤ 12) :
    daysBefore leap first ≤ daysBefore leap second := by
  induction second, le using Nat.le_induction with
  | base => exact Nat.le_refl _
  | succ month le ih =>
    rw [daysBefore_succ leap (by omega) (by omega)]
    exact Nat.le_trans (ih (by omega)) (Nat.le_add_right _ _)

theorem daysBefore_add_le (leap : Bool) {month : Nat} (pos : 1 ≤ month) (le : month ≤ 12) :
    daysBefore leap month + daysInMonth leap month ≤ if leap then 366 else 365 := by
  interval_cases month <;> cases leap <;> decide

namespace Date

variable {a b : Date}

theorem Exists.ordinal_pos (h : a.Exists) : 1 ≤ a.ordinal := by
  have day := h.day_pos
  rw [h.ordinal]
  omega

theorem Exists.ordinal_le (h : a.Exists) : a.ordinal ≤ if isLeap a.year then 366 else 365 := by
  have day := h.day_le
  have whole := daysBefore_add_le (isLeap a.year) h.month_pos h.month_le
  rw [h.ordinal]
  omega

theorem Exists.year_le (h : a.Exists) (h' : b.Exists) (days : a.days = b.days) :
    a.year ≤ b.year := by
  by_contra later
  have years := daysBeforeYear_mono (Int.add_one_le_of_lt (Int.lt_of_not_ge later))
  have first := h.ordinal_pos
  have last := h'.ordinal_le
  rw [daysBeforeYear_succ] at years
  simp only [Date.days] at days
  split at last <;> simp_all <;> omega

theorem Exists.month_le_of (h : a.Exists) (h' : b.Exists) (year : a.year = b.year)
    (ordinal : a.ordinal = b.ordinal) : a.month ≤ b.month := by
  by_contra later
  have before := daysBefore_mono (isLeap b.year) (Nat.le_add_left 1 b.month)
    (Nat.lt_of_not_le later) h.month_le
  have pos := h'.month_pos
  have le := h.month_le
  rw [daysBefore_succ _ pos (by omega)] at before
  have day := h.day_pos
  have day' := h'.day_le
  rw [h.ordinal, h'.ordinal, year] at ordinal
  omega

/-- No two dates are the same day. -/
theorem Exists.eq_of_days (h : a.Exists) (h' : b.Exists) (days : a.days = b.days) : a = b := by
  have year : a.year = b.year := Int.le_antisymm (h.year_le h' days) (h'.year_le h days.symm)
  have ordinal : a.ordinal = b.ordinal := by
    simp only [Date.days, year] at days
    omega
  have month : a.month = b.month := Nat.le_antisymm (h.month_le_of h' year ordinal)
    (h'.month_le_of h year.symm ordinal.symm)
  have day : a.day = b.day := by
    have same := ordinal
    rw [h.ordinal, h'.ordinal, year, month] at same
    omega
  cases a
  cases b
  simp_all

end Date

/-! ## The date of a day -/

/-- The date a number of days after the first of March of the year. -/
def dateFromMarch (year : Int) (days : Nat) : Date :=
  let fromMarch := (5 * days + 2) / 153
  let month := if fromMarch < 10 then fromMarch + 3 else fromMarch - 9
  let day := days - (153 * fromMarch + 2) / 5 + 1
  let year := year + if month ≤ 2 then 1 else 0
  ⟨year, month, day, daysBefore (isLeap year) month + day⟩

/-- The days before a month, by the months since March. January and February are those of the next
year. -/
theorem daysBefore_march (leap : Bool) {months : Nat} (few : months ≤ 11) :
    daysBefore leap (if months < 10 then months + 3 else months - 9) =
      if months < 10 then (153 * months + 2) / 5 + 59 + (if leap then 1 else 0)
      else (153 * months + 2) / 5 - 306 := by
  interval_cases months <;> cases leap <;> rfl

theorem daysInMonth_march (leap : Bool) {months : Nat} (few : months ≤ 11) :
    daysInMonth leap (if months < 10 then months + 3 else months - 9) =
      if months = 11 then (if leap then 29 else 28)
      else (153 * (months + 1) + 2) / 5 - (153 * months + 2) / 5 := by
  interval_cases months <;> cases leap <;> rfl

theorem months_bounds {days : Nat} (le : days ≤ 365) : (5 * days + 2) / 153 ≤ 11 ∧
    153 * ((5 * days + 2) / 153) ≤ 5 * days + 2 ∧
    5 * days + 2 < 153 * ((5 * days + 2) / 153) + 153 := by
  omega

theorem exists_dateFromMarch {year : Int} {days : Nat} (le : days ≤ 365)
    (leap : days = 365 → isLeap (year + 1) = true) : (dateFromMarch year days).Exists := by
  obtain ⟨few, above, below⟩ := months_bounds le
  simp only [dateFromMarch]
  generalize (5 * days + 2) / 153 = months at few above below ⊢
  refine ⟨?_, ?_, Nat.le_add_left _ _, ?_, rfl⟩
  · dsimp only
    split <;> omega
  · dsimp only
    split <;> omega
  · dsimp only
    rw [daysInMonth_march _ few]
    by_cases last : months = 11
    · -- February, which is in the next year
      subst last
      change days - 337 + 1 ≤ if isLeap (year + 1) then 29 else 28
      by_cases longest : days = 365
      · rw [if_pos (leap longest), longest]
      · split <;> omega
    · rw [if_neg last]
      omega

theorem days_dateFromMarch {year : Int} {days : Nat} (le : days ≤ 365) :
    (dateFromMarch year days).days =
      daysBeforeYear (year + 1) - daysBeforeYear 1970 + days - 306 := by
  obtain ⟨few, above, below⟩ := months_bounds le
  have next := daysBeforeYear_succ year
  simp only [dateFromMarch, Date.days]
  generalize (5 * days + 2) / 153 = months at few above below ⊢
  rw [daysBefore_march _ few]
  by_cases same : months < 10
  · rw [if_pos same, if_pos same, if_neg (by omega), Int.add_zero, next]
    split <;> omega
  · rw [if_neg same, if_neg same, if_pos (by omega)]
    omega

/-- A day of a period of 400 years in its century, four years and year. The last day of four years
makes their last year longer, and so does the last day of the period. -/
theorem exists_parts {day : Nat} (inEra : day < 146097) : ∃ century four year rest,
    day = 36524 * century + 1461 * four + 365 * year + rest ∧ century ≤ 3 ∧ four ≤ 24 ∧ year ≤ 3 ∧
      rest ≤ 365 ∧ (rest = 365 → year = 3 ∧ (four = 24 → century = 3)) := by
  refine ⟨min (day / 36524) 3, (day - 36524 * min (day / 36524) 3) / 1461,
    min ((day - 36524 * min (day / 36524) 3) % 1461 / 365) 3,
    (day - 36524 * min (day / 36524) 3) % 1461 -
      365 * min ((day - 36524 * min (day / 36524) 3) % 1461 / 365) 3, ?_⟩
  omega

/-- The year of a day in its period. -/
def yearOfEra (day : Nat) : Nat := (day - day / 1460 + day / 36524 - day / 146096) / 365

theorem yearOfEra_eq {day century four year rest : Nat}
    (parts : day = 36524 * century + 1461 * four + 365 * year + rest) (century_le : century ≤ 3)
    (four_le : four ≤ 24) (year_le : year ≤ 3) (rest_le : rest ≤ 365)
    (last : rest = 365 → year = 3 ∧ (four = 24 → century = 3)) :
    yearOfEra day = 100 * century + 4 * four + year := by
  have centuries : day / 36524 - day / 146096 = century := by
    have ends : 1461 * four + 365 * year + rest ≤ 36523 ∨ day = 146096 := by omega
    omega
  have periods : day / 146096 ≤ day / 36524 := by omega
  -- one day of the first years is taken off for each leap day before, or one more or less
  obtain ⟨more, fours, few, whole⟩ : ∃ more, day / 1460 = 25 * century + four + more ∧ more ≤ 1 ∧
      (rest = 365 → more = 1) := ⟨(24 * century + four + 365 * year + rest) / 1460, by omega⟩
  have days : day - day / 1460 + day / 36524 - day / 146096 =
      365 * (100 * century + 4 * four + year) + (rest - more) := by omega
  rw [yearOfEra, days]
  omega

/-- The years of a period start where the years before them end. -/
theorem daysBeforeYear_era {era : Int} {century four year : Nat} (century_le : century ≤ 3)
    (four_le : four ≤ 24) (year_le : year ≤ 3) :
    daysBeforeYear ((100 * century + 4 * four + year : Nat) + era * 400 + 1) =
      146097 * era + 36524 * century + 1461 * four + 365 * year := by
  simp only [daysBeforeYear]
  omega

theorem isLeap_era {era : Int} {century four : Nat} (four_le : four ≤ 24)
    (last : four = 24 → century = 3) :
    isLeap ((100 * century + 4 * four + 3 : Nat) + era * 400 + 1) = true := by
  rw [isLeap_iff]
  omega

theorem daysBeforeYear_epoch : daysBeforeYear 1970 = 719162 := rfl

theorem dateOfDays_eq (days : Int) : dateOfDays days =
    let day := ((days + 719468) % 146097).toNat
    let year := yearOfEra day
    dateFromMarch (year + (days + 719468) / 146097 * 400)
      (day - (365 * year + year / 4 - year / 100)) := rfl

/-- Each day has a date, which exists and is that of the day. -/
theorem dateOfDays_spec (days : Int) :
    (dateOfDays days).Exists ∧ (dateOfDays days).days = days := by
  rw [dateOfDays_eq]
  dsimp only
  -- the period of 400 years, and the day in it
  obtain ⟨era, day, whole, part, inEra, count⟩ : ∃ (era : Int) (day : Nat),
      (days + 719468) / 146097 = era ∧ ((days + 719468) % 146097).toNat = day ∧ day < 146097 ∧
        days + 719468 = 146097 * era + day := ⟨_, _, rfl, rfl, by omega⟩
  obtain ⟨century, four, year, rest, parts, century_le, four_le, year_le, rest_le, last⟩ :=
    exists_parts inEra
  have yearOf := yearOfEra_eq parts century_le four_le year_le rest_le last
  have dayOfYear : day - (365 * (100 * century + 4 * four + year) +
      (100 * century + 4 * four + year) / 4 - (100 * century + 4 * four + year) / 100) = rest := by
    have fours : (100 * century + 4 * four + year) / 4 = 25 * century + four := by omega
    have hundreds : (100 * century + 4 * four + year) / 100 = century := by omega
    rw [fours, hundreds]
    omega
  rw [whole, part, yearOf, dayOfYear]
  refine ⟨exists_dateFromMarch rest_le ?_, ?_⟩
  · intro longest
    obtain ⟨rfl, final⟩ := last longest
    exact isLeap_era four_le final
  · rw [days_dateFromMarch rest_le, daysBeforeYear_era century_le four_le year_le,
      daysBeforeYear_epoch]
    omega

/-! ## Clocks -/

/-- The clock shows the count of seconds. -/
structure Clock.Shows (c : Clock) (seconds : Int) : Prop where
  date : c.date.Exists
  hour : c.hour < 24
  minute : c.minute < 60
  second : c.second < 60
  count : seconds = 86400 * c.date.days + 3600 * c.hour + 60 * c.minute + c.second
  /-- The first of January 1970 was a Thursday. -/
  weekday : (c.weekday : Int) = (c.date.days + 3) % 7

/-- One clock shows the count, and it is the one that is read off it. -/
theorem shows_iff {c : Clock} {seconds : Int} : c.Shows seconds ↔ c = clockAt seconds := by
  obtain ⟨exist, days⟩ := dateOfDays_spec (seconds / 86400)
  constructor
  · intro h
    have count := h.count
    have weekday := h.weekday
    have hour := h.hour
    have minute := h.minute
    have second := h.second
    have day : c.date.days = seconds / 86400 := by omega
    have date : c.date = dateOfDays (seconds / 86400) :=
      h.date.eq_of_days exist (day.trans days.symm)
    rw [day] at count weekday
    cases c
    simp only [clockAt, Clock.mk.injEq]
    dsimp only at *
    refine ⟨date, ?_, ?_, ?_, ?_⟩ <;> omega
  · rintro rfl
    refine ⟨exist, ?_, ?_, ?_, ?_, ?_⟩ <;> simp only [clockAt, days] <;> omega

end RemoteDevice.Calendar
