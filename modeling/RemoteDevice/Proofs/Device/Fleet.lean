import Mathlib.Logic.Function.Basic
import RemoteDevice.Proofs.Connection.FailedCalls
import RemoteDevice.Proofs.Device.Notices

/-!
# Devices that share a hub

Callers make devices, connect and close them, and set, replace, clear and release listeners, one
call after the other and in any order. `Recorded` is what the past says of a device and `Sound` what
it says of all devices and of what they share.
-/
set_option autoImplicit false

namespace RemoteDevice

namespace Device

/-- The device never connects again. -/
def Settled (d : Device) : Prop := d.state = .connected ∨ d.state = .closed

/-- What is done with a device besides connecting and closing it. Reading and writing only concern
the transport, with which anything can happen in the meantime. -/
inductive Used (d : Device) : Device → Prop
  | prepare : Used d d.prepare.2
  | obtain (direction : Direction) : Used d (d.obtain direction).2
  | inform (info : DeviceInfo) : Used d { d with info }
  | elsewhere (transport : Transport) :
      Used d { d with connection := { d.connection with transport } }

section

variable {d next : Device}

theorem Used.keeps (used : d.Used next) :
    next.metered = d.metered ∧ next.listener = d.listener ∧ (d.Settled → next.Settled) := by
  cases used with
  | prepare =>
    refine ⟨rfl, rfl, ?_⟩
    intro settled
    have same : d.prepare.2.state = d.state :=
      congrArg Lifecycle.state (d.connection.lifecycle.prepare_settled settled _)
    rw [Settled, same]
    exact settled
  | obtain direction =>
    refine ⟨rfl, rfl, ?_⟩
    have state : (d.obtain direction).2.state = d.state := by
      rcases d.connection.lifecycle.obtain_next direction d.connection.transport.cloneStream with
        same | ⟨stream, -, -, kept⟩
      · exact congrArg Lifecycle.state same
      · exact (congrArg Lifecycle.state kept).trans (Lifecycle.state_setHandle _ _ _)
    rw [Settled, Settled, state]
    exact id
  | inform info => exact ⟨rfl, rfl, id⟩
  | elsewhere transport => exact ⟨rfl, rfl, id⟩

theorem state_connect (d : Device) (hub : Hub) :
    (d.connect hub).1 = .ok () ∧ d.state = .prepared ∧ (d.connect hub).2.1.state = .connected ∨
      (∃ e, (d.connect hub).1 = .error e) ∧ (d.connect hub).2.1.state = d.state :=
  d.connection.state_connect d.fullName

theorem Settled.connect (settled : d.Settled) (hub : Hub) :
    (∃ e, (d.connect hub).1 = .error e) ∧ (d.connect hub).2.1.Settled := by
  rcases d.state_connect hub with ⟨-, prepared, -⟩ | ⟨failed, same⟩
  · rcases settled with connected | closed
    · rw [connected] at prepared
      cases prepared
    · rw [closed] at prepared
      cases prepared
  · exact ⟨failed, by rwa [Settled, same]⟩

theorem state_close (d : Device) (hub : Hub) : (d.close hub).1.state = .closed := by
  have state : (d.close hub).1.state = d.connection.lifecycle.close.next.state := by
    simp [Device.close, Connection.close, Device.state, Connection.state]
  rw [state]
  by_cases closed : d.connection.lifecycle.state = .closed
  · rw [Lifecycle.close_closed closed]
    exact closed
  · rw [Lifecycle.close_open closed]

theorem closedNow_iff (d : Device) : d.connection.close.1 = true ↔ d.state ≠ .closed := by
  by_cases closed : d.connection.lifecycle.state = .closed
  · simp [Connection.close, Lifecycle.close_closed closed, Device.state, Connection.state, closed]
  · simp [Connection.close, Lifecycle.close_open closed, Device.state, Connection.state, closed]

/-! ## What is left of the hub -/

@[simp] theorem sessions_countAttempt (d : Device) (hub : Hub) :
    (d.countAttempt hub).sessions = hub.sessions := by
  rw [countAttempt]
  split <;> rfl

theorem sessions_tell (d : Device) (hub : Hub) (report : Report) :
    (d.tell hub report).sessions = hub.sessions := by
  cases report with
  | connect result =>
    cases result with
    | ok done => rfl
    | error e =>
      rw [tell, Device.report, Hub.notify, countFailure]
      split <;> rfl
  | close closedNow => cases closedNow <;> rfl

theorem metrics_countAttempt (metered : d.metered = true) (hub : Hub) :
    (d.countAttempt hub).metrics =
      { hub.metrics with connectAttempts := hub.metrics.connectAttempts + 1 } := by
  rw [countAttempt, if_pos metered]
  rfl

theorem metrics_tell (metered : d.metered = true) (hub : Hub) (report : Report) :
    (d.tell hub report).metrics =
      match report with
      | .connect (.error _) =>
        { hub.metrics with connectFailures := hub.metrics.connectFailures + 1 }
      | _ => hub.metrics := by
  cases report with
  | connect result =>
    cases result with
    | ok done => rfl
    | error e =>
      rw [tell, Device.report, countFailure, if_pos metered]
      rfl
  | close closedNow => cases closedNow <;> rfl

theorem count_tell (d : Device) (hub : Hub) (report : Report) :
    (d.tell hub report).listeners.count = hub.listeners.count := by
  rw [listeners_tell]
  cases report.notice? d with
  | none => rfl
  | some n => exact Listeners.count_notify _ _ n

end

end Device

/-- The devices in use under their session ids, and what they share. -/
structure Fleet where
  devices : Nat → Option Device := fun _ => none
  hub : Hub := {}

namespace Fleet

/-! ## One call after the other -/

inductive Event where
  | made (session : Nat)
  | listening (listener : Nat)
  | released (listener : Nat)
  | set (session listener : Nat)
  | cleared (session : Nat)
  | looked (session : Nat) (found : Option Nat)
  | connected (session : Nat) (device : String) (result : Except ConnectionError Unit)
  | closed (session : Nat) (device : String) (before after : ConnectionState)
  | used (session : Nat)
  | dropped (session : Nat)

namespace Event

/-- The device that was called. -/
def session? : Event → Option Nat
  | made s | set s _ | cleared s | looked s _ | connected s _ _ | closed s _ _ _ | used s
  | dropped s => some s
  | listening _ | released _ => none

def attempts : Event → Bool
  | connected _ _ _ => true
  | _ => false

def fails : Event → Bool
  | connected _ _ (.error _) => true
  | _ => false

def succeeds : Event → Bool
  | connected _ _ (.ok _) => true
  | _ => false

/-- What there is to tell, and the device whose listener is to be told. -/
def notice? : Event → Option (Nat × Notice)
  | connected s device (.ok _) => some (s, .opened device)
  | connected s device (.error e) => some (s, .failed device e.message)
  | closed s device before after =>
    if before ≠ .closed ∧ after = .closed then some (s, .closed device) else none
  | _ => none

end Event

def put (f : Fleet) (session : Nat) (d : Option Device) (hub : Hub) : Fleet :=
  ⟨Function.update f.devices session d, hub⟩

def withListeners (f : Fleet) (listeners : Listeners) : Fleet :=
  { f with hub := { f.hub with listeners } }

/-- One call. The devices share the counters, too. -/
inductive Step (f : Fleet) : Event → Fleet → Prop
  | make (b : Blueprint) :
      Step f (.made (Device.create b f.hub).1.session)
        (f.put (Device.create b f.hub).1.session
          (some { (Device.create b f.hub).1 with metered := true }) (Device.create b f.hub).2)
  | listen : Step f (.listening f.hub.listeners.add.1) (f.withListeners f.hub.listeners.add.2)
  | release {listener : Nat} (known : listener < f.hub.listeners.count) :
      Step f (.released listener) (f.withListeners (f.hub.listeners.release listener))
  | set {session listener : Nat} {d : Device} (there : f.devices session = some d)
      (known : listener < f.hub.listeners.count) :
      Step f (.set session listener) (f.put session (some (d.setListener listener)) f.hub)
  | clear {session : Nat} {d : Device} (there : f.devices session = some d) :
      Step f (.cleared session) (f.put session (some d.clearListener) f.hub)
  | look {session : Nat} {d : Device} (there : f.devices session = some d) :
      Step f (.looked session (d.reachListener f.hub)) f
  | connect {session : Nat} {d : Device} (there : f.devices session = some d) :
      Step f (.connected session d.fullName (d.connect f.hub).1)
        (f.put session (some (d.connect f.hub).2.1) (d.connect f.hub).2.2)
  | close {session : Nat} {d : Device} (there : f.devices session = some d) :
      Step f (.closed session d.fullName d.state (d.close f.hub).1.state)
        (f.put session (some (d.close f.hub).1) (d.close f.hub).2)
  | use {session : Nat} {d next : Device} (there : f.devices session = some d)
      (used : d.Used next) : Step f (.used session) (f.put session (some next) f.hub)
  | drop {session : Nat} {d : Device} (there : f.devices session = some d) :
      Step f (.dropped session) (f.put session none f.hub)

inductive Run (start : Fleet) : List Event → Fleet → Prop
  | nil : Run start [] start
  | snoc {past : List Event} {f next : Fleet} {event : Event} (run : Run start past f)
      (step : Step f event next) : Run start (past ++ [event]) next

/-! ## What the past says -/

/-- The listener was set last, and neither replaced nor cleared since. -/
def Current (past : List Event) (session listener : Nat) : Prop :=
  ∃ before after, past = before ++ .set session listener :: after ∧
    (∀ other, .set session other ∉ after) ∧ .cleared session ∉ after

/-- The listener that a device would tell something. -/
def Hears (past : List Event) (session listener : Nat) : Prop :=
  Current past session listener ∧ .released listener ∉ past

def ofSession (session : Nat) (past : List Event) : List Event :=
  past.filter fun event => event.session? = some session

structure Recorded (past : List Event) (session : Nat) (d : Device) : Prop where
  metered : d.metered = true
  listener : ∀ listener, d.listener = some listener ↔ Current past session listener
  settled : 0 < (ofSession session past).countP Event.succeeds → d.Settled

structure Sound (past : List Event) (f : Fleet) : Prop where
  devices : ∀ session d, f.devices session = some d → Recorded past session d
  sessions : ∀ session, f.hub.sessions < session →
    f.devices session = none ∧ ofSession session past = []
  known : ∀ session listener, .set session listener ∈ past ∨ .released listener ∈ past →
    listener < f.hub.listeners.count
  alive : ∀ listener, listener ∈ f.hub.listeners.alive ↔
    listener < f.hub.listeners.count ∧ .released listener ∉ past
  attempts : f.hub.metrics.connectAttempts = past.countP Event.attempts
  failures : f.hub.metrics.connectFailures = past.countP Event.fails
  once : ∀ session, (ofSession session past).countP Event.succeeds ≤ 1

section

variable {past later : List Event} {f next : Fleet} {event : Event} {session listener : Nat}
  {d : Device}

theorem current_snoc_iff :
    Current (past ++ [event]) session listener ↔
      event = .set session listener ∨
        Current past session listener ∧ (∀ other, event ≠ .set session other) ∧
          event ≠ .cleared session := by
  constructor
  · rintro ⟨before, after, parts, last, kept⟩
    rcases List.eq_nil_or_concat after with rfl | ⟨after, final, rfl⟩
    · obtain ⟨-, same⟩ := List.append_inj' parts rfl
      exact .inl (List.cons.inj same).1
    · rw [List.concat_eq_append] at parts last kept
      rw [← List.cons_append, ← List.append_assoc] at parts
      obtain ⟨rfl, same⟩ := List.append_inj' parts rfl
      obtain ⟨rfl, -⟩ := List.cons.inj same
      simp only [List.mem_append, List.mem_singleton, not_or] at last kept
      exact .inr ⟨⟨before, after, rfl, fun other => (last other).1, kept.1⟩,
        fun other => (last other).2 ∘ Eq.symm, kept.2 ∘ Eq.symm⟩
  · rintro (rfl | ⟨⟨before, after, rfl, last, kept⟩, unset, uncleared⟩)
    · exact ⟨past, [], rfl, by simp, by simp⟩
    · refine ⟨before, after ++ [event], by simp, ?_, ?_⟩
      · intro other
        simpa [last other] using (unset other).symm
      · simpa [kept] using uncleared.symm

theorem ofSession_snoc_own (own : event.session? = some session) :
    ofSession session (past ++ [event]) = ofSession session past ++ [event] := by
  simp [ofSession, own]

theorem ofSession_snoc_other (other : event.session? ≠ some session) :
    ofSession session (past ++ [event]) = ofSession session past := by
  simp [ofSession, other]

theorem devices_put (f : Fleet) (session : Nat) (d : Option Device) (hub : Hub) (other : Nat) :
    (f.put session d hub).devices other = if other = session then d else f.devices other :=
  Function.update_apply f.devices session d other

theorem put_put (f : Fleet) (session : Nat) (d now : Option Device) (hub next : Hub) :
    (f.put session d hub).put session now next = f.put session now next := by
  simp [put]

/-! ## Devices -/

theorem Recorded.elsewhere (h : Recorded past session d) (other : event.session? ≠ some session) :
    Recorded (past ++ [event]) session d where
  metered := h.metered
  listener := by
    intro listener
    rw [h.listener, current_snoc_iff]
    constructor
    · intro current
      refine .inr ⟨current, ?_, ?_⟩
      · rintro replacing rfl
        exact other rfl
      · rintro rfl
        exact other rfl
    · rintro (rfl | ⟨current, -⟩)
      · exact absurd rfl other
      · exact current
  settled := by
    rw [ofSession_snoc_other other]
    exact h.settled

theorem Recorded.snoc {now : Device} (h : Recorded past session d)
    (own : event.session? = some session) (metered : now.metered = d.metered)
    (listener : ∀ listener, now.listener = some listener ↔
      event = .set session listener ∨
        d.listener = some listener ∧ (∀ other, event ≠ .set session other) ∧
          event ≠ .cleared session)
    (settled : d.Settled → now.Settled) (connected : event.succeeds = true → now.Settled) :
    Recorded (past ++ [event]) session now where
  metered := metered ▸ h.metered
  listener := by
    intro other
    rw [listener, h.listener, current_snoc_iff]
  settled := by
    rw [ofSession_snoc_own own, List.countP_append, List.countP_singleton]
    intro once
    by_cases succeeds : event.succeeds = true
    · exact connected succeeds
    · rw [if_neg succeeds] at once
      exact settled (h.settled once)

/-- A call that leaves the listener alone. -/
theorem Recorded.called {now : Device} (h : Recorded past session d)
    (own : event.session? = some session) (unset : ∀ other, event ≠ .set session other)
    (uncleared : event ≠ .cleared session) (metered : now.metered = d.metered)
    (listener : now.listener = d.listener) (settled : d.Settled → now.Settled)
    (connected : event.succeeds = true → now.Settled) : Recorded (past ++ [event]) session now :=
  h.snoc own metered (by simp [listener, unset, uncleared]) settled connected

theorem Sound.le_sessions (h : Sound past f) (there : f.devices session = some d) :
    session ≤ f.hub.sessions := by
  by_contra beyond
  rw [(h.sessions session (by omega)).1] at there
  cases there

theorem not_current_of_unmentioned (none : ofSession session past = []) (listener : Nat) :
    ¬Current past session listener := by
  rintro ⟨before, after, rfl, -, -⟩
  simp [ofSession, Event.session?] at none

theorem Step.devices_other (step : Step f event next) (other : event.session? ≠ some session) :
    next.devices session = f.devices session := by
  cases step with
  | listen => rfl
  | release known => rfl
  | look there => rfl
  | _ =>
    rw [devices_put, if_neg]
    rintro rfl
    exact other rfl

theorem of_put {now : Option Device} {hub : Hub}
    (there : (f.put session now hub).devices session = some d) : now = some d := by
  rwa [devices_put, if_pos rfl] at there

theorem Step.recorded_called (step : Step f event next) (h : Sound past f)
    (called : event.session? = some session) (there : next.devices session = some d) :
    Recorded (past ++ [event]) session d := by
  cases step with
  | make b =>
    cases called
    cases of_put there
    have new := (h.sessions (f.hub.sessions + 1) (Nat.lt_succ_self _)).2
    refine ⟨rfl, ?_, ?_⟩
    · intro listener
      rw [current_snoc_iff]
      simp [Device.create, Hub.takeSession, not_current_of_unmentioned new]
    · rw [ofSession_snoc_own rfl, Device.create, Hub.takeSession, new]
      rintro ⟨⟩
  | listen => cases called
  | release known => cases called
  | @set own listener before earlier known =>
    cases called
    cases of_put there
    exact (h.devices session before earlier).snoc rfl rfl (by simp [Device.setListener]) id nofun
  | @clear own before earlier =>
    cases called
    cases of_put there
    exact (h.devices session before earlier).snoc rfl rfl (by simp [Device.clearListener]) id nofun
  | look earlier =>
    cases called
    exact (h.devices session d there).called rfl nofun nofun rfl rfl id nofun
  | @connect own before earlier =>
    cases called
    cases of_put there
    refine (h.devices session before earlier).called rfl nofun nofun rfl rfl
      (fun settled => (settled.connect f.hub).2) ?_
    intro succeeds
    rcases before.state_connect f.hub with ⟨-, -, connected⟩ | ⟨⟨e, failed⟩, -⟩
    · exact .inl connected
    · rw [failed] at succeeds
      cases succeeds
  | @close own before earlier =>
    cases called
    cases of_put there
    have closed : (before.close f.hub).1.Settled := .inr (before.state_close f.hub)
    exact (h.devices session before earlier).called rfl nofun nofun rfl rfl (fun _ => closed) nofun
  | @use own before now earlier used =>
    cases called
    cases of_put there
    obtain ⟨metered, listener, settled⟩ := used.keeps
    exact (h.devices session before earlier).called rfl nofun nofun metered listener settled nofun
  | drop earlier =>
    cases called
    cases of_put there

theorem Step.recorded (step : Step f event next) (h : Sound past f)
    (there : next.devices session = some d) : Recorded (past ++ [event]) session d := by
  by_cases called : event.session? = some session
  · exact step.recorded_called h called there
  · rw [step.devices_other called] at there
    exact (h.devices session d there).elsewhere called

/-! ## What is shared -/

theorem Step.sessions_le (step : Step f event next) : f.hub.sessions ≤ next.hub.sessions := by
  cases step with
  | make b => exact Nat.le_succ _
  | connect there =>
    apply Nat.le_of_eq
    rw [put, Device.connect_hub, Device.sessions_tell, Device.sessions_countAttempt]
  | close there =>
    apply Nat.le_of_eq
    rw [put, Device.close_hub, Device.sessions_tell]
  | _ => exact Nat.le_refl _

theorem Step.session_le (step : Step f event next) (h : Sound past f)
    (called : event.session? = some session) : session ≤ next.hub.sessions := by
  have grown := step.sessions_le
  cases step with
  | make b => exact Nat.le_of_eq (Option.some.inj called).symm
  | listen => cases called
  | release known => cases called
  | set there known | clear there | look there | connect there | close there | use there used
  | drop there =>
    cases called
    exact Nat.le_trans (h.le_sessions there) grown

theorem Step.unused (step : Step f event next) (h : Sound past f)
    (beyond : next.hub.sessions < session) :
    next.devices session = none ∧ ofSession session (past ++ [event]) = [] := by
  have other : event.session? ≠ some session := fun called =>
    absurd (step.session_le h called) (by omega)
  rw [step.devices_other other, ofSession_snoc_other other]
  exact h.sessions session (Nat.lt_of_le_of_lt step.sessions_le beyond)

/-- A listener is made, or one is released, or there are the same ones as before. -/
theorem Step.listeners (step : Step f event next) :
    event = .listening f.hub.listeners.count ∧ next.hub.listeners = f.hub.listeners.add.2 ∨
    (∃ listener, event = .released listener ∧ listener < f.hub.listeners.count ∧
      next.hub.listeners = f.hub.listeners.release listener) ∨
    (∀ listener, event ≠ .released listener) ∧
      (∀ session listener, event = .set session listener → listener < f.hub.listeners.count) ∧
      next.hub.listeners.count = f.hub.listeners.count ∧
      next.hub.listeners.alive = f.hub.listeners.alive := by
  cases step with
  | listen => exact .inl ⟨rfl, rfl⟩
  | @release listener known => exact .inr (.inl ⟨listener, rfl, known, rfl⟩)
  | set there known =>
    refine .inr (.inr ⟨nofun, ?_, rfl, rfl⟩)
    rintro _ _ ⟨⟩
    exact known
  | connect there =>
    refine .inr (.inr ⟨nofun, nofun, ?_, ?_⟩)
    · rw [put, Device.connect_hub, Device.count_tell, Device.listeners_countAttempt]
    · rw [put, Device.connect_hub, Device.alive_tell, Device.listeners_countAttempt]
  | close there =>
    refine .inr (.inr ⟨nofun, nofun, ?_, ?_⟩)
    · rw [put, Device.close_hub, Device.count_tell]
    · rw [put, Device.close_hub, Device.alive_tell]
  | _ => exact .inr (.inr ⟨nofun, nofun, rfl, rfl⟩)

theorem Step.known (step : Step f event next) (h : Sound past f)
    (mentioned : .set session listener ∈ past ++ [event] ∨ .released listener ∈ past ++ [event]) :
    listener < next.hub.listeners.count := by
  have earlier := h.known session listener
  simp only [List.mem_append, List.mem_singleton] at mentioned
  rcases step.listeners with
    ⟨rfl, same⟩ | ⟨released, rfl, known, same⟩ | ⟨unreleased, set, count, -⟩
  · rw [same]
    exact Nat.lt_succ_of_lt (earlier (by simpa using mentioned))
  · rw [same]
    rcases mentioned with (before | ⟨⟨⟩⟩) | (before | ⟨⟨⟩⟩)
    · exact earlier (.inl before)
    · exact earlier (.inr before)
    · exact known
  · rw [count]
    rcases mentioned with (before | now) | (before | now)
    · exact earlier (.inl before)
    · exact set session listener now.symm
    · exact earlier (.inr before)
    · exact absurd now.symm (unreleased listener)

theorem Step.alive (step : Step f event next) (h : Sound past f) :
    listener ∈ next.hub.listeners.alive ↔
      listener < next.hub.listeners.count ∧ .released listener ∉ past ++ [event] := by
  have earlier := h.alive listener
  rcases step.listeners with
    ⟨rfl, same⟩ | ⟨released, rfl, known, same⟩ | ⟨unreleased, -, count, alive⟩
  · have new : .released f.hub.listeners.count ∉ past := fun before =>
      Nat.lt_irrefl _ (h.known 0 _ (.inr before))
    rw [same, Listeners.add, List.mem_cons, earlier]
    by_cases latest : listener = f.hub.listeners.count
    · simp [latest, new]
    · simp [latest]
      omega
  · rw [same, Listeners.release, List.mem_filter, earlier]
    simp only [List.mem_append, List.mem_singleton, Event.released.injEq, decide_eq_true_eq, not_or,
      and_assoc]
  · rw [alive, count, earlier]
    simp [(unreleased listener).symm]

theorem Step.counted (step : Step f event next) (h : Sound past f) :
    next.hub.metrics.connectAttempts = (past ++ [event]).countP Event.attempts ∧
      next.hub.metrics.connectFailures = (past ++ [event]).countP Event.fails := by
  rw [List.countP_append, List.countP_append, ← h.attempts, ← h.failures]
  cases step with
  | @connect session d there =>
    have metered := (h.devices session d there).metered
    rw [put, Device.connect_hub, Device.metrics_tell metered, Device.metrics_countAttempt metered]
    cases (d.connect f.hub).1 with
    | ok done => exact ⟨rfl, rfl⟩
    | error e => exact ⟨rfl, rfl⟩
  | @close session d there =>
    have metered := (h.devices session d there).metered
    rw [put, Device.close_hub, Device.metrics_tell metered]
    exact ⟨rfl, rfl⟩
  | _ => exact ⟨rfl, rfl⟩

theorem Step.once (step : Step f event next) (h : Sound past f) :
    (ofSession session (past ++ [event])).countP Event.succeeds ≤ 1 := by
  have before := h.once session
  by_cases called : event.session? = some session
  · rw [ofSession_snoc_own called, List.countP_append]
    cases step with
    | @connect own d there =>
      cases called
      by_cases settled : d.Settled
      · obtain ⟨⟨e, failed⟩, -⟩ := settled.connect f.hub
        rw [failed]
        exact before
      · have none : ¬0 < (ofSession session past).countP Event.succeeds :=
          fun some => settled ((h.devices session d there).settled some)
        have last : [Event.connected session d.fullName (d.connect f.hub).1].countP
            Event.succeeds ≤ 1 := List.countP_le_length
        omega
    | listen => cases called
    | release known => cases called
    | _ => exact before
  · rw [ofSession_snoc_other called]
    exact before

theorem Step.sound (step : Step f event next) (h : Sound past f) :
    Sound (past ++ [event]) next where
  devices _ _ there := step.recorded h there
  sessions _ beyond := step.unused h beyond
  known _ _ mentioned := step.known h mentioned
  alive _ := step.alive h
  attempts := (step.counted h).1
  failures := (step.counted h).2
  once _ := step.once h

theorem Run.sound (run : Run {} past f) : Sound past f := by
  induction run with
  | nil =>
    refine ⟨?_, fun _ _ => ⟨rfl, rfl⟩, by simp, by simp, rfl, rfl, by simp [ofSession]⟩
    rintro session d ⟨⟩
  | snoc run step ih => exact step.sound ih

end

end Fleet

end RemoteDevice
