import RemoteDevice.Proofs.Calendar.Gregorian
import RemoteDevice.Proofs.DisplayUnit.Shown

/-!
# Local and universal time

A pattern of wall clock components alone is written by what the clock of the place shows, so a unit
of local instants shows a value at a place as a unit of universal instants shows the value moved by
the offset of the place. What a unit of universal instants shows is the same everywhere, and the two
kinds of unit show nothing for zero and refuse the same values.
-/
set_option autoImplicit false

namespace RemoteDevice

namespace Calendar

/-- The component is read off the wall clock. -/
def Component.isWallClock : Component → Bool
  | .offsetHour .. | .offsetMinute _ | .offsetSecond _ | .unixTimestamp .. => false
  | _ => true

def Item.isWallClock : Item → Bool
  | .literal _ => true
  | .component c => c.isWallClock

section

variable {m m' : Moment}

theorem Component.write_congr {c : Component} (wall : c.isWallClock = true)
    (clock : m.clock = m'.clock) : c.write m = c.write m' := by
  cases c with
  | offsetHour | offsetMinute | offsetSecond | unixTimestamp => cases wall
  | weekNumber p style => cases style <;> simp only [write, clock]
  | _ => simp only [write, clock]

theorem Item.write_congr {item : Item} (wall : item.isWallClock = true)
    (clock : m.clock = m'.clock) : item.write m = item.write m' := by
  cases item with
  | literal c => rfl
  | component c => exact Component.write_congr wall clock

theorem write_congr {items : List Item} (wall : ∀ item ∈ items, item.isWallClock = true)
    (clock : m.clock = m'.clock) : write items m = write items m' := by
  rw [write, write, List.flatMap_congr fun item found => Item.write_congr (wall item found) clock]

/-- What a wall clock pattern writes is decided by what the clock shows. -/
theorem write_of_shows {items : List Item} (wall : ∀ item ∈ items, item.isWallClock = true)
    {seconds : Int} (shows : m.clock.Shows seconds) (shows' : m'.clock.Shows seconds) :
    write items m = write items m' :=
  write_congr wall ((shows_iff.mp shows).trans (shows_iff.mp shows').symm)

end

theorem Moment.clock_shows (m : Moment) : m.clock.Shows (m.seconds + m.offset.seconds) :=
  shows_iff.mpr rfl

/-- The counts inside the calendar are values. -/
theorem InRange.exists_value {seconds : Int} (inside : InRange seconds) :
    ∃ raw : Int64, raw.toInt = seconds := by
  rw [← covers_iff, covers, Bool.and_eq_true, decide_eq_true_eq, decide_eq_true_eq, firstSecond,
    lastSecond] at inside
  exact ⟨.ofInt seconds, Int64.toInt_ofInt_of_le (by omega) (by omega)⟩

end Calendar

namespace DisplayUnit

open Calendar (InRange)

/-- At a place, an instant is shown as the universal clock shows the instant that is later by the
offset of the place, if the pattern has wall clock components alone. -/
theorem renderInstant_shifted {pattern : String} {items : List Calendar.Item}
    (read : Calendar.Pattern.parse pattern = .ok items)
    (wall : ∀ item ∈ items, item.isWallClock = true) {raw : Int64} {place : Offset}
    (nonzero : raw ≠ 0) (moved : raw.toInt + place.seconds ≠ 0) (inside : InRange raw.toInt)
    (on : InRange (raw.toInt + place.seconds)) :
    ∃ (shifted : Int64) (text : String), shifted.toInt = raw.toInt + place.seconds ∧
      renderInstant pattern raw place = .text text ∧
      renderInstant pattern shifted .utc = .text text ∧
      ∀ m : Calendar.Moment, m.clock.Shows (raw.toInt + place.seconds) →
        Calendar.write items m = text := by
  obtain ⟨shifted, count⟩ := on.exists_value
  have shows : (Calendar.Moment.clock ⟨raw.toInt, place⟩).Shows (raw.toInt + place.seconds) :=
    Calendar.Moment.clock_shows _
  have same : ∀ m : Calendar.Moment, m.clock.Shows (raw.toInt + place.seconds) →
      Calendar.write items m = Calendar.write items ⟨raw.toInt, place⟩ :=
    fun m shows' => Calendar.write_of_shows wall shows' shows
  have nonzero' : shifted ≠ 0 := by
    rintro rfl
    exact moved count.symm
  have universal : shifted.toInt + Offset.utc.seconds = raw.toInt + place.seconds := by
    rw [count, Offset.utc, Int.add_zero]
  refine ⟨shifted, _, count, renderInstant_covered read nonzero inside on, ?_, same⟩
  rw [renderInstant_covered read nonzero' (count ▸ on) (universal ▸ on), same]
  rw [← universal]
  exact Calendar.Moment.clock_shows _

section

variable {l u : DisplayUnit}

theorem print_local (conversion : l.conversion = .unixSecondsLocal) (raw : Int64) (place : Offset) :
    l.print raw place = renderInstant l.printFormat raw place := by
  rw [print, render, conversion]

theorem print_universal (conversion : u.conversion = .unixSecondsUtc) (raw : Int64)
    (place : Offset) : u.print raw place = renderInstant u.printFormat raw .utc := by
  rw [print, render, conversion]

theorem print_outside {name config : String} (accepted : parse name config = .ok u)
    (instants : u.conversion.isTimestamp = true) {raw : Int64} (beyond : ¬InRange raw.toInt)
    (place : Offset) : u.print raw place = .refused (.outOfRange raw) := by
  obtain ⟨m, reads, -⟩ := reads_of_parse accepted
  obtain ⟨-, checked, -⟩ := reads.parse_eq_ok_iff.mp accepted
  refine render_outside checked ⟨instants, ?_, beyond⟩
  rintro rfl
  exact beyond (Calendar.covers_iff.mp (by decide))

/-- Units of local and of universal instants agree. With the same pattern of wall clock components,
an instant at a place has the text of the universal instant later by the offset, which is the text
of every clock that shows that count of seconds. A unit of universal instants shows the same at all
places. Zero is shown as nothing, and the instants outside the calendar as the same diagnostic. -/
theorem local_agrees_with_universal {name name' config config' : String}
    (accepted : parse name config = .ok l) (accepted' : parse name' config' = .ok u)
    (conversion : l.conversion = .unixSecondsLocal) (conversion' : u.conversion = .unixSecondsUtc) :
    (∀ items, u.printFormat = l.printFormat → Calendar.Pattern.parse l.printFormat = .ok items →
      (∀ item ∈ items, item.isWallClock = true) → ∀ (raw : Int64) (place elsewhere : Offset),
        raw ≠ 0 → raw.toInt + place.seconds ≠ 0 → InRange raw.toInt →
        InRange (raw.toInt + place.seconds) →
        ∃ (shifted : Int64) (text : String), shifted.toInt = raw.toInt + place.seconds ∧
          l.print raw place = .text text ∧ u.print shifted elsewhere = .text text ∧
          ∀ m : Calendar.Moment, m.clock.Shows (raw.toInt + place.seconds) →
            Calendar.write items m = text) ∧
    (∀ raw place elsewhere, u.print raw place = u.print raw elsewhere) ∧
    (∀ place, l.print 0 place = .text "" ∧ u.print 0 place = .text "") ∧
    ∀ (raw : Int64) (place elsewhere : Offset), ¬InRange raw.toInt →
      l.print raw place = .refused (.outOfRange raw) ∧
      u.print raw elsewhere = .refused (.outOfRange raw) ∧
      (l.print raw place).shown = some (RenderError.outOfRange raw).diagnostic ∧
      (u.print raw elsewhere).shown = some (RenderError.outOfRange raw).diagnostic := by
  refine ⟨?_, ?_, ?_, ?_⟩
  · intro items same read wall raw place elsewhere nonzero moved inside on
    simp only [print_local conversion, print_universal conversion', same]
    exact renderInstant_shifted read wall nonzero moved inside on
  · intro raw place elsewhere
    rw [print_universal conversion', print_universal conversion']
  · intro place
    rw [print_local conversion, print_universal conversion']
    exact ⟨rfl, rfl⟩
  · intro raw place elsewhere beyond
    have refused := print_outside accepted (by rw [conversion]; rfl) beyond place
    have refused' := print_outside accepted' (by rw [conversion']; rfl) beyond elsewhere
    rw [refused, refused']
    exact ⟨rfl, rfl, rfl, rfl⟩

end

/-- The unit of instants at universal time, with nothing else configured. -/
def universalInstants : DisplayUnit :=
  resolved "t" ⟨[("conversion", "unixSecondsUTC")]⟩ .unixSecondsUtc {}

theorem parse_universalInstants :
    parse "t" "conversion=unixSecondsUTC" = .ok universalInstants := by
  have reads : Reads "conversion=unixSecondsUTC" ⟨[("conversion", "unixSecondsUTC")]⟩
      .unixSecondsUtc {} := ⟨rfl, rfl, rfl, rfl⟩
  have pattern : checkFormat .unixSecondsUtc {} standardPattern = .ok () :=
    checkFormat_standardPattern rfl
  exact reads.parse_eq_ok_iff.mpr ⟨rfl, pattern, pattern⟩

/-- The last second of the 28th of February 2000 at universal time is in the leap day an hour
ahead. -/
theorem local_agrees_leap_day :
    parse "t" "conversion=unixSecondsLocal" = .ok localInstants ∧
      parse "t" "conversion=unixSecondsUTC" = .ok universalInstants ∧
      Offset.ofParts? 1 0 0 = some ⟨3600⟩ ∧
      localInstants.print 951782399 ⟨3600⟩ = .text "2000-02-29 00:59:59" ∧
      universalInstants.print 951785999 ⟨3600⟩ = .text "2000-02-29 00:59:59" := by
  obtain ⟨shifted, text, count, shown, universal, -⟩ := (local_agrees_with_universal
    parse_localInstants parse_universalInstants rfl rfl).1 standardItems rfl parse_standardPattern
    (by decide) 951782399 ⟨3600⟩ ⟨3600⟩ (by decide) (by decide)
    (Calendar.covers_iff.mp (by decide)) (Calendar.covers_iff.mp (by decide))
  have known : localInstants.print 951782399 ⟨3600⟩ = .text "2000-02-29 00:59:59" := by
    decide +kernel
  rw [known] at shown
  cases shown
  have later : shifted = 951785999 := Int64.toInt_inj.mp count
  exact ⟨parse_localInstants, parse_universalInstants, rfl, known, later ▸ universal⟩

end DisplayUnit

end RemoteDevice
