import Mathlib.Data.List.Induction
import RemoteDevice.Proofs.Device.Fleet

/-!
# Who is told what

Each connect and each first close has one notice, which reaches the listener that was set last if it
is still there, and nobody else. A listener that was released, or is not the last of a device any
more, is left alone from then on.
-/
set_option autoImplicit false

namespace RemoteDevice.Fleet

/-- What comes of a call, with the listeners that it reaches. -/
inductive Tells (past : List Event) (event : Event) : List (Nat × Notice) → Prop
  | silent (nothing : event.notice? = none) : Tells past event []
  | heard {session listener : Nat} {n : Notice} (notice : event.notice? = some (session, n))
      (hears : Hears past session listener) : Tells past event [(listener, n)]
  | unheard {session : Nat} {n : Notice} (notice : event.notice? = some (session, n))
      (nobody : ∀ listener, ¬Hears past session listener) : Tells past event []

variable {past later : List Event} {f g next : Fleet} {event : Event} {session listener : Nat}
  {d : Device}

theorem Current.mem (h : Current past session listener) : .set session listener ∈ past := by
  obtain ⟨before, after, rfl, -, -⟩ := h
  simp

/-- The listener that the device reaches is the one that the past says. -/
theorem Sound.reachListener_iff (h : Sound past f) (there : f.devices session = some d)
    (listener : Nat) :
    d.reachListener f.hub = some listener ↔ Hears past session listener := by
  rw [Device.reachListener, Listeners.reach_eq_some_iff, (h.devices session d there).listener,
    h.alive, Hears]
  constructor
  · rintro ⟨current, -, kept⟩
    exact ⟨current, kept⟩
  · rintro ⟨current, kept⟩
    exact ⟨current, h.known session listener (.inl current.mem), kept⟩

theorem Sound.tells_of_notify (h : Sound past f) (there : f.devices session = some d) {n : Notice}
    (notice : event.notice? = some (session, n)) :
    ∃ told, Tells past event told ∧
      (f.hub.listeners.notify d.listener n).received = f.hub.listeners.received ++ told := by
  have hears := h.reachListener_iff there
  rw [Device.reachListener] at hears
  rw [Listeners.received_notify]
  cases reached : f.hub.listeners.reach d.listener with
  | some listener => exact ⟨_, .heard notice ((hears listener).mp reached), rfl⟩
  | none =>
    refine ⟨[], .unheard notice ?_, rfl⟩
    intro listener heard
    rw [← hears, reached] at heard
    cases heard

theorem Step.tells (step : Step f event next) (h : Sound past f) :
    ∃ told, Tells past event told ∧
      next.hub.listeners.received = f.hub.listeners.received ++ told := by
  cases step with
  | @connect session d there =>
    rw [put, Device.connect_hub, Device.listeners_tell, Device.listeners_countAttempt]
    cases (d.connect f.hub).1 with
    | ok done => exact h.tells_of_notify there rfl
    | error e => exact h.tells_of_notify there rfl
  | @close session d there =>
    rw [put, Device.close_hub, Device.listeners_tell]
    by_cases closed : d.state = .closed
    · have again : d.connection.close.1 = false := by
        rw [← Bool.not_eq_true, d.closedNow_iff, not_not]
        exact closed
      rw [again]
      exact ⟨[], .silent (if_neg fun both => both.1 closed), (List.append_nil _).symm⟩
    · rw [d.closedNow_iff.mpr closed]
      exact h.tells_of_notify there (if_pos ⟨closed, d.state_close f.hub⟩)
  | _ => exact ⟨[], .silent rfl, (List.append_nil _).symm⟩

/-! ## Listeners that are out of it -/

theorem session_of_notice {n : Notice} (notice : event.notice? = some (session, n)) :
    event.session? = some session := by
  cases event with
  | connected own device result =>
    cases result with
    | ok done =>
      cases notice
      rfl
    | error e =>
      cases notice
      rfl
  | closed own device before after =>
    obtain ⟨-, same⟩ := Option.ite_none_right_eq_some.mp notice
    cases same
    rfl
  | _ => cases notice

theorem Step.noticesOf_eq (step : Step f event next) (h : Sound past f)
    (deaf : ∀ session n, event.notice? = some (session, n) → ¬Hears past session listener) :
    next.hub.listeners.noticesOf listener = f.hub.listeners.noticesOf listener := by
  obtain ⟨told, tells, received⟩ := step.tells h
  rw [Listeners.noticesOf, Listeners.noticesOf, received]
  cases tells with
  | silent nothing => rw [List.append_nil]
  | unheard notice nobody => rw [List.append_nil]
  | @heard session other n notice hears =>
    have different : other ≠ listener := by
      rintro rfl
      exact deaf session n notice hears
    simp [different]

theorem Step.looked_iff {found : Option Nat} (step : Step f (.looked session found) next)
    (h : Sound past f) (listener : Nat) : found = some listener ↔ Hears past session listener := by
  cases step with
  | look there => exact h.reachListener_iff there listener

theorem Run.append {start : Fleet} (run : Run start past f) (onward : Run f later g) :
    Run start (past ++ later) g := by
  induction onward with
  | nil => simpa using run
  | snoc onward step ih =>
    rw [← List.append_assoc]
    exact ih.snoc step

theorem current_of_append (h : Current (past ++ later) session listener) :
    .set session listener ∈ later ∨ Current past session listener := by
  induction later using List.reverseRecOn with
  | nil => exact .inr (by simpa using h)
  | append_singleton later event ih =>
    rw [← List.append_assoc, current_snoc_iff] at h
    rcases h with rfl | ⟨before, -⟩
    · exact .inl (by simp)
    · exact (ih before).imp_left (List.mem_append_left _)

theorem Run.released_silent (run : Run {} past f) (released : .released listener ∈ past)
    (onward : Run f later g) :
    g.hub.listeners.noticesOf listener = f.hub.listeners.noticesOf listener ∧
      ∀ session, .looked session (some listener) ∉ later := by
  induction onward with
  | nil => exact ⟨rfl, nofun⟩
  | @snoc later g next event onward step ih =>
    have sound := (run.append onward).sound
    have deaf : ∀ session, ¬Hears (past ++ later) session listener := fun session hears =>
      hears.2 (List.mem_append_left _ released)
    refine ⟨(step.noticesOf_eq sound fun session _ _ => deaf session).trans ih.1, ?_⟩
    intro session member
    rcases List.mem_append.mp member with earlier | last
    · exact ih.2 session earlier
    · rw [← List.mem_singleton.mp last] at step
      exact deaf session ((step.looked_iff sound listener).mp rfl)

theorem Run.replaced_silent (run : Run {} past f) (replaced : ¬Hears past session listener)
    (onward : Run f later g) (unset : .set session listener ∉ later) (step : Step g event next)
    (called : event.session? = some session) :
    next.hub.listeners.noticesOf listener = g.hub.listeners.noticesOf listener ∧
      event ≠ .looked session (some listener) := by
  have sound := (run.append onward).sound
  have deaf : ¬Hears (past ++ later) session listener := by
    rintro ⟨current, kept⟩
    rcases current_of_append current with again | before
    · exact unset again
    · exact replaced ⟨before, fun released => kept (List.mem_append_left _ released)⟩
  constructor
  · refine step.noticesOf_eq sound ?_
    intro other n notice hears
    obtain rfl : other = session := Option.some.inj ((session_of_notice notice).symm.trans called)
    exact deaf hears
  · rintro rfl
    exact deaf ((step.looked_iff sound listener).mp rfl)

theorem countP_attempts (events : List Event) :
    events.countP Event.attempts = events.countP Event.fails + events.countP Event.succeeds := by
  induction events with
  | nil => rfl
  | cons event events ih =>
    rw [List.countP_cons, List.countP_cons, List.countP_cons, ih]
    cases event with
    | connected session device result =>
      cases result with
      | ok done => rfl
      | error e => exact Nat.add_right_comm _ _ 1
    | _ => rfl

/-- Every call tells what there is to tell of it once, to the listener that the device was given
last and still has, provided that this one has not been released, and to nobody else; and this is
the listener that the device shows. A released listener is not told anything more and not shown any
more, and neither is a replaced or cleared one by the device in question, unless it is set again.
The counters count the attempts to connect and those that failed, and a device has one attempt
besides the failed ones at most. -/
theorem Run.told_once (run : Run {} past f) :
    (∀ event next, Step f event next → ∃ told, Tells past event told ∧
      next.hub.listeners.received = f.hub.listeners.received ++ told) ∧
    (∀ session found next, Step f (.looked session found) next →
      ∀ listener, found = some listener ↔ Hears past session listener) ∧
    (∀ listener later g, .released listener ∈ past → Run f later g →
      g.hub.listeners.noticesOf listener = f.hub.listeners.noticesOf listener ∧
        ∀ session, .looked session (some listener) ∉ later) ∧
    (∀ session listener later g, ¬Hears past session listener → .set session listener ∉ later →
      Run f later g → ∀ event next, Step g event next → event.session? = some session →
        next.hub.listeners.noticesOf listener = g.hub.listeners.noticesOf listener ∧
          event ≠ .looked session (some listener)) ∧
    f.hub.metrics.connectAttempts = past.countP Event.attempts ∧
    f.hub.metrics.connectFailures = past.countP Event.fails ∧
    ∀ session,
      (ofSession session past).countP Event.attempts =
          (ofSession session past).countP Event.fails +
            (ofSession session past).countP Event.succeeds ∧
        (ofSession session past).countP Event.succeeds ≤ 1 := by
  have sound := run.sound
  refine ⟨fun event next step => step.tells sound, fun session found next step =>
    step.looked_iff sound, ?_, ?_, sound.attempts, sound.failures, ?_⟩
  · intro listener later g released onward
    exact run.released_silent released onward
  · intro session listener later g replaced unset onward event next step called
    exact run.replaced_silent replaced onward unset step called
  · intro session
    exact ⟨countP_attempts _, sound.once session⟩

open Device.Watched (pump pumpHub fullName_pump)

def pumpFleet : Fleet := ({} : Fleet).put 1 (some { pump with metered := true }) pumpHub

theorem Run.pump_set : Run {} [.made 1, .listening 0, .set 1 0] pumpFleet := by
  have made : Run {} [.made 1]
      (({} : Fleet).put 1 (some { pump with listener := none, metered := true })
        { sessions := 1 }) :=
    Run.nil.snoc (.make
      { typeName := "pump", descriptor := .tcp "pump" "mock" 13110, transport := .mock })
  have listening : Run {} [.made 1, .listening 0]
      (({} : Fleet).put 1 (some { pump with listener := none, metered := true }) pumpHub) :=
    made.snoc .listen
  have set := listening.snoc (@Step.set _ 1 0 _ rfl (by decide))
  rw [put_put] at set
  exact set

/-- A pump that was never prepared tells its listener that it cannot be connected. -/
theorem Run.told_once_pump :
    ∃ next, Run {} [.made 1, .listening 0, .set 1 0] pumpFleet ∧
      Step pumpFleet (.connected 1 "pump (dev-1)" (.error (.invalidState .new "connect"))) next ∧
      next.hub.listeners.received =
        [(0, .failed "pump (dev-1)" (ConnectionError.invalidState .new "connect").message)] := by
  have step := @Step.connect pumpFleet 1 _ rfl
  have name : { pump with metered := true }.fullName = "pump (dev-1)" := fullName_pump
  rw [name] at step
  refine ⟨_, Run.pump_set, step, ?_⟩
  obtain ⟨told, tells, received⟩ := (Run.told_once Run.pump_set).1 _ _ step
  have current : ∀ listener, Current [.made 1, .listening 0, .set 1 0] 1 listener ↔
      listener = 0 := by
    intro listener
    have last := @current_snoc_iff [.made 1, .listening 0] (.set 1 0) 1 listener
    simpa [eq_comm] using last
  rw [received]
  cases tells with
  | silent nothing => cases nothing
  | heard notice hears =>
    cases notice
    rw [(current _).mp hears.1]
    rfl
  | unheard notice nobody =>
    cases notice
    exact absurd ⟨(current 0).mpr rfl, by simp⟩ (nobody 0)

end RemoteDevice.Fleet
