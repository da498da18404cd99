import RemoteDevice.Proofs.DisplayUnit.Cache

/-!
# A cache shared by callers

Any number of callers use one cache at once. Looking a name up and inserting a unit are steps that
nothing interrupts; a caller that did not find a name reads the configuration on its own before it
comes back to insert, and until then other callers may have inserted a unit of that name. `Step`
says what one of the callers does, and `Run` puts steps of all of them in any order.
-/
set_option autoImplicit false

namespace RemoteDevice.UnitCache

/-- A call that did not find its name and has yet to come back. -/
structure Miss where
  name : String
  config : String

structure Shared where
  cache : UnitCache := ∅
  misses : List Miss := []

/-- What a caller sees of a step. -/
inductive Event where
  | looked (name : String) (known : Option DisplayUnit)
  | inserted (name : String) (known : DisplayUnit)
  | missed (name config : String)
  /-- A call with a configuration came to its end. -/
  | returned (name config : String) (result : Except ConfigError DisplayUnit)

/-- The unit that a caller was given for a name. -/
def Event.given? : Event → Option (String × DisplayUnit)
  | looked name known => known.map fun u => (name, u)
  | inserted name known => some (name, known)
  | returned name _ (.ok known) => some (name, known)
  | _ => none

/-- One step of one caller. Units are made from configurations only. -/
inductive Step (s : Shared) : Event → Shared → Prop
  | look (name : String) : Step s (.looked name (s.cache.get? name)) s
  | insert {name config : String} {u : DisplayUnit}
      (accepted : DisplayUnit.parse name config = .ok u) :
      Step s (.inserted name (s.cache.insert u).1) { s with cache := (s.cache.insert u).2 }
  | hit {name : String} (config : String) {known : DisplayUnit}
      (there : s.cache.get? name = some known) : Step s (.returned name config (.ok known)) s
  | miss {name : String} (config : String) (unknown : s.cache.get? name = none) :
      Step s (.missed name config) { s with misses := ⟨name, config⟩ :: s.misses }
  | refuse {before after : List Miss} {miss : Miss} {e : ConfigError}
      (underWay : s.misses = before ++ miss :: after)
      (refused : DisplayUnit.parse miss.name miss.config = .error e) :
      Step s (.returned miss.name miss.config (.error e)) { s with misses := before ++ after }
  | accept {before after : List Miss} {miss : Miss} {u : DisplayUnit}
      (underWay : s.misses = before ++ miss :: after)
      (accepted : DisplayUnit.parse miss.name miss.config = .ok u) :
      Step s (.returned miss.name miss.config (.ok (s.cache.insert u).1))
        { cache := (s.cache.insert u).2, misses := before ++ after }

/-- Steps one after the other, the last one at the end of the list. -/
inductive Run (start : Shared) : List Event → Shared → Prop
  | nil : Run start [] start
  | snoc {events : List Event} {s next : Shared} {event : Event} (run : Run start events s)
      (step : Step s event next) : Run start (events ++ [event]) next

variable {s next : Shared} {event : Event} {events : List Event}

/-- Without others a call is a look-up and, if need be, the step that comes back from it. -/
theorem Run.of_getOrParse (s : Shared) (name config : String) :
    (∀ known c, s.cache.getOrParse name config = .ok (known, c) →
      ∃ events, Run s (events ++ [.returned name config (.ok known)]) { s with cache := c }) ∧
    ∀ e, s.cache.getOrParse name config = .error e →
      ∃ events, Run s (events ++ [.returned name config (.error e)]) s := by
  cases there : s.cache.get? name with
  | some first =>
    have answer : s.cache.getOrParse name config = .ok (first, s.cache) := by
      rw [getOrParse, there]
    have run : Run s ([] ++ [.returned name config (.ok first)]) s := .snoc .nil (.hit config there)
    rw [answer]
    constructor
    · rintro known c ⟨⟩
      exact ⟨[], run⟩
    · rintro e ⟨⟩
  | none =>
    have missed : Run s ([] ++ [.missed name config])
        { s with misses := ⟨name, config⟩ :: s.misses } := .snoc .nil (.miss config there)
    have answer : s.cache.getOrParse name config =
        (DisplayUnit.parse name config).map s.cache.insert := by
      rw [getOrParse, there]
    rw [answer]
    cases parsed : DisplayUnit.parse name config with
    | ok u =>
      constructor
      · intro known c answered
        have same : s.cache.insert u = (known, c) := Except.ok.inj answered
        have returned := missed.snoc (@Step.accept _ [] s.misses ⟨name, config⟩ u rfl parsed)
        simp only [same] at returned
        exact ⟨_, returned⟩
      · rintro e ⟨⟩
    | error e =>
      constructor
      · rintro known c ⟨⟩
      · rintro e ⟨⟩
        exact ⟨_, missed.snoc (@Step.refuse _ [] s.misses ⟨name, config⟩ e rfl parsed)⟩

/-! ## What a step keeps -/

theorem Step.cache_eq (step : Step s event next) :
    next.cache = s.cache ∨
      ∃ name config u, DisplayUnit.parse name config = .ok u ∧
        next.cache = (s.cache.insert u).2 := by
  cases step with
  | look name => exact .inl rfl
  | insert accepted => exact .inr ⟨_, _, _, accepted, rfl⟩
  | hit config there => exact .inl rfl
  | miss config unknown => exact .inl rfl
  | refuse underWay refused => exact .inl rfl
  | accept underWay accepted => exact .inr ⟨_, _, _, accepted, rfl⟩

theorem Step.get?_of_known (step : Step s event next) {name : String} {known : DisplayUnit}
    (there : s.cache.get? name = some known) : next.cache.get? name = some known := by
  rcases step.cache_eq with same | ⟨_, _, u, -, inserted⟩
  · rw [same, there]
  · rw [inserted, get?_insert_of_known there]

theorem get?_insert_of_parse {name config : String} {u : DisplayUnit}
    (accepted : DisplayUnit.parse name config = .ok u) (c : UnitCache) :
    (c.insert u).2.get? name = some (c.insert u).1 := by
  have own := get?_insert_self c u
  rw [DisplayUnit.name_of_parse accepted] at own
  exact own

/-- Whoever is given a unit is given the one that is known when the step is over. -/
theorem Step.get?_of_given (step : Step s event next) {name : String} {u : DisplayUnit}
    (given : event.given? = some (name, u)) : next.cache.get? name = some u := by
  cases step with
  | look other =>
    obtain ⟨known, there, same⟩ := Option.map_eq_some_iff.mp given
    cases same
    exact there
  | insert accepted =>
    cases given
    exact get?_insert_of_parse accepted s.cache
  | hit config there =>
    cases given
    exact there
  | miss config unknown => cases given
  | refuse underWay refused => cases given
  | accept underWay accepted =>
    cases given
    exact get?_insert_of_parse accepted s.cache

theorem Run.get?_of_known {start : Shared} (run : Run start events s) {name : String}
    {known : DisplayUnit} (there : start.cache.get? name = some known) :
    s.cache.get? name = some known := by
  induction run with
  | nil => exact there
  | snoc run step ih => exact step.get?_of_known ih

/-- Each entry is a unit made from a configuration, under its own name and no other. -/
structure Sound (c : UnitCache) : Prop where
  distinct : c.Distinct
  parsed : ∀ entry ∈ c.entries, entry.2.name = entry.1 ∧
    ∃ config, DisplayUnit.parse entry.1 config = .ok entry.2

theorem Sound.insert {c : UnitCache} (h : c.Sound) {name config : String} {u : DisplayUnit}
    (accepted : DisplayUnit.parse name config = .ok u) : (c.insert u).2.Sound where
  distinct := h.distinct.insert u
  parsed := by
    intro entry member
    rcases mem_entries_insert member with earlier | rfl
    · exact h.parsed entry earlier
    · have named := DisplayUnit.name_of_parse accepted
      exact ⟨rfl, config, by rw [named, accepted]⟩

theorem Step.sound (step : Step s event next) (h : s.cache.Sound) : next.cache.Sound := by
  rcases step.cache_eq with same | ⟨_, _, u, accepted, inserted⟩
  · rw [same]
    exact h
  · rw [inserted]
    exact h.insert accepted

theorem Run.sound (run : Run {} events s) : s.cache.Sound := by
  induction run with
  | nil => exact ⟨distinct_empty, fun entry member => nomatch member⟩
  | snoc run step ih => exact step.sound ih

theorem Run.get?_of_given {start : Shared} (run : Run start events s) {name : String}
    {u : DisplayUnit} (member : event ∈ events) (given : event.given? = some (name, u)) :
    s.cache.get? name = some u := by
  induction run with
  | nil => cases member
  | snoc run step ih =>
    rcases List.mem_append.mp member with earlier | last
    · exact step.get?_of_known (ih earlier)
    · rw [List.mem_singleton] at last
      exact step.get?_of_given (last ▸ given)

/-! ## Agreement -/

/-- The cache only grows, with units made from configurations under their own names. Whoever was
given a unit for a name was given the one that is known under it for good, and a caller whose
look-up finds the name is given it whatever its configuration is. A configuration that is refused
changes nothing. A call with nothing in between is one of these runs. -/
theorem Run.agreement (run : Run {} events s) :
    s.cache.Sound ∧
    (∀ later t, Run s later t → ∀ name known, s.cache.get? name = some known →
      t.cache.get? name = some known) ∧
    (∀ event ∈ events, ∀ name u, event.given? = some (name, u) →
      s.cache.get? name = some u) ∧
    (∀ first ∈ events, ∀ second ∈ events, ∀ name u v, first.given? = some (name, u) →
      second.given? = some (name, v) → u = v) ∧
    (∀ name config known, s.cache.get? name = some known →
      Step s (.returned name config (.ok known)) s ∧
        ∀ next, ¬ Step s (.missed name config) next) ∧
    (∀ name config e next, Step s (.returned name config (.error e)) next →
      next.cache = s.cache ∧ DisplayUnit.parse name config = .error e) ∧
    ∀ name config,
      (∀ known c, s.cache.getOrParse name config = .ok (known, c) →
        ∃ later, Run s (later ++ [.returned name config (.ok known)]) { s with cache := c }) ∧
      ∀ e, s.cache.getOrParse name config = .error e →
        ∃ later, Run s (later ++ [.returned name config (.error e)]) s := by
  refine ⟨run.sound, ?_, ?_, ?_, ?_, ?_, Run.of_getOrParse s⟩
  · intro later t onward name known there
    exact onward.get?_of_known there
  · intro event member name u given
    exact run.get?_of_given member given
  · intro first member second member' name u v given given'
    have known := run.get?_of_given member given
    rw [run.get?_of_given member' given'] at known
    exact (Option.some.inj known).symm
  · intro name config known there
    refine ⟨.hit config there, ?_⟩
    intro next step
    cases step with
    | miss config unknown =>
      rw [there] at unknown
      cases unknown
  · intro name config e next step
    generalize seen : Event.returned name config (.error e) = event at step
    cases step with
    | refuse underWay refused =>
      cases seen
      exact ⟨rfl, refused⟩
    | _ => cases seen

/-- A unit with nothing but a label configured. -/
def labelled (name label : String) : DisplayUnit :=
  { name, label, printFormat := "%d", editFormat := "%d", scale := {}, conversion := .none
    editor := none, extra := ∅ }

/-- Two callers miss the same name, and the one that comes back later is given the other's unit. -/
theorem Run.agreement_of_race :
    ∃ s u, DisplayUnit.parse "speed" "label=km/h" = .ok u ∧
      Run {}
        [.missed "speed" "label=mph", .missed "speed" "label=km/h",
          .returned "speed" "label=km/h" (.ok u), .returned "speed" "label=mph" (.ok u)] s ∧
      ∀ later t, Run s later t → t.cache.get? "speed" = some u := by
  have metric : DisplayUnit.parse "speed" "label=km/h" = .ok (labelled "speed" "km/h") := by
    decide +kernel
  have imperial : DisplayUnit.parse "speed" "label=mph" = .ok (labelled "speed" "mph") := by
    decide +kernel
  have missed : Run {} [.missed "speed" "label=mph", .missed "speed" "label=km/h"]
      { misses := [⟨"speed", "label=km/h"⟩, ⟨"speed", "label=mph"⟩] } :=
    (Run.snoc .nil (.miss "label=mph" rfl)).snoc (.miss "label=km/h" rfl)
  have first : Run {}
      [.missed "speed" "label=mph", .missed "speed" "label=km/h",
        .returned "speed" "label=km/h" (.ok (labelled "speed" "km/h"))]
      { cache := ⟨[("speed", labelled "speed" "km/h")]⟩, misses := [⟨"speed", "label=mph"⟩] } :=
    missed.snoc (@Step.accept _ [] [⟨"speed", "label=mph"⟩] ⟨"speed", "label=km/h"⟩ _ rfl metric)
  have second : Run {}
      [.missed "speed" "label=mph", .missed "speed" "label=km/h",
        .returned "speed" "label=km/h" (.ok (labelled "speed" "km/h")),
        .returned "speed" "label=mph" (.ok (labelled "speed" "km/h"))]
      { cache := ⟨[("speed", labelled "speed" "km/h")]⟩ } :=
    first.snoc (@Step.accept _ [] [] ⟨"speed", "label=mph"⟩ _ rfl imperial)
  obtain ⟨-, stays, given, -⟩ := Run.agreement second
  have known := given (.returned "speed" "label=mph" (.ok (labelled "speed" "km/h"))) (by simp)
    "speed" _ rfl
  exact ⟨_, _, metric, second, fun later t onward => stays later t onward "speed" _ known⟩

end RemoteDevice.UnitCache
