import RemoteDevice.Calendar.Clock

/-!
# The range of the calendar

The seconds that the calendar covers are those whose year lies between -9999 and 9999.
-/
set_option autoImplicit false

namespace RemoteDevice.Calendar

/-- The count of seconds falls into one of the years -9999 to 9999. -/
def InRange (seconds : Int) : Prop :=
  -9999 ≤ (clockAt seconds).date.year ∧ (clockAt seconds).date.year ≤ 9999

/-- The year of a day in its period of 400 years from March on, counted from zero: the last ten
months belong to the year in which the period's year starts, January and February to the next. -/
def yearInEra (dayOfEra : Nat) : Nat :=
  let yearOfEra := (dayOfEra - dayOfEra / 1460 + dayOfEra / 36524 - dayOfEra / 146096) / 365
  let dayOfYear := dayOfEra - (365 * yearOfEra + yearOfEra / 4 - yearOfEra / 100)
  let fromMarch := (5 * dayOfYear + 2) / 153
  let month := if fromMarch < 10 then fromMarch + 3 else fromMarch - 9
  yearOfEra + (if month ≤ 2 then 1 else 0)

theorem year_dateOfDays (days : Int) :
    (dateOfDays days).year =
      yearInEra ((days + 719468) % 146097).toNat + (days + 719468) / 146097 * 400 := by
  simp only [dateOfDays, yearInEra]
  generalize ((days + 719468) % 146097).toNat = dayOfEra
  generalize (days + 719468) / 146097 = era
  split <;> split <;> omega

theorem yearInEra_le {d : Nat} (inEra : d < 146097) : yearInEra d ≤ 400 := by
  simp only [yearInEra]
  split <;> split <;> omega

theorem yearInEra_pos_iff {d : Nat} (inEra : d < 146097) : 1 ≤ yearInEra d ↔ 306 ≤ d := by
  simp only [yearInEra]
  split <;> split <;> omega

theorem yearInEra_lt_iff {d : Nat} (inEra : d < 146097) : yearInEra d < 400 ↔ d < 146037 := by
  simp only [yearInEra]
  split <;> split <;> omega

theorem covers_iff {seconds : Int} : covers seconds = true ↔ InRange seconds := by
  have inEra : ((seconds / 86400 + 719468) % 146097).toNat < 146097 := by omega
  have most := yearInEra_le inEra
  have first := yearInEra_pos_iff inEra
  have last := yearInEra_lt_iff inEra
  have year : (clockAt seconds).date.year = _ := year_dateOfDays (seconds / 86400)
  simp only [InRange, year, covers, Bool.and_eq_true, decide_eq_true_eq]
  rw [firstSecond, lastSecond]
  omega

end RemoteDevice.Calendar
