import RemoteDevice.Proofs.Device.Reports

/-!
# What the listener of a device is told

One listener is set and alive while any number of callers connect and close a device.
-/
set_option autoImplicit false

namespace RemoteDevice

section

variable {α β : Type}

theorem pair_sublist_filterMap_iff {f : α → Option β} {l : List α} {b c : β} :
    [b, c].Sublist (l.filterMap f) ↔
      ∃ x y, [x, y].Sublist l ∧ f x = some b ∧ f y = some c := by
  constructor
  · intro order
    obtain ⟨m, inside, same⟩ := List.sublist_filterMap_iff.mp order
    obtain ⟨m₁, x, m₂, rfl, -, first, same⟩ := List.filterMap_eq_cons_iff.mp same.symm
    obtain ⟨m₃, y, m₄, rfl, -, second, -⟩ := List.filterMap_eq_cons_iff.mp same
    refine ⟨x, y, List.Sublist.trans ?_ inside, first, second⟩
    simp
  · rintro ⟨x, y, inside, first, second⟩
    simpa [first, second] using inside.filterMap f

/-- In a list of two values, one of them once at most, that is not the last value if it has one of
the other after it. -/
theorem getLast?_eq_some_iff_of_pair [DecidableEq α] {l : List α} {a b : α}
    (only : ∀ x ∈ l, x = a ∨ x = b) (distinct : a ≠ b) (once : l.count b ≤ 1) :
    l.getLast? = some a ↔ a ∈ l ∧ (b ∈ l → [b, a].Sublist l) := by
  rcases List.eq_nil_or_concat l with rfl | ⟨front, last, rfl⟩
  · simp
  rw [List.concat_eq_append] at only once ⊢
  rw [List.getLast?_concat, Option.some.injEq]
  constructor
  · rintro rfl
    refine ⟨by simp, ?_⟩
    intro member
    have before : b ∈ front := by simpa [distinct.symm] using member
    exact (List.singleton_sublist.mpr before).append (.refl _)
  · rintro ⟨-, order⟩
    rcases only last (by simp) with rfl | rfl
    · rfl
    · obtain ⟨first, second, parts, member, rest⟩ := List.cons_sublist_iff.mp (order (by simp))
      rcases List.eq_nil_or_concat second with rfl | ⟨middle, final, rfl⟩
      · simp at rest
      · rw [List.concat_eq_append, ← List.append_assoc] at parts
        obtain ⟨rfl, -⟩ := List.append_inj' parts rfl
        have twice : 0 < (first ++ middle).count last :=
          List.count_pos_iff.mpr (List.mem_append_left _ member)
        rw [List.count_append, List.count_singleton_self] at once
        omega

end

/-- Whether the connection is another after what the notice says. -/
def Notice.changes : Notice → Bool
  | .failed _ _ => false
  | _ => true

namespace Listeners

theorem alive_notify (l : Listeners) (listener : Option Nat) (n : Notice) :
    (l.notify listener n).alive = l.alive := by
  rw [notify]
  split <;> rfl

theorem count_notify (l : Listeners) (listener : Option Nat) (n : Notice) :
    (l.notify listener n).count = l.count := by
  rw [notify]
  split <;> rfl

theorem received_notify (l : Listeners) (listener : Option Nat) (n : Notice) :
    (l.notify listener n).received =
      l.received ++ (l.reach listener).toList.map fun number => (number, n) := by
  rw [notify]
  split
  next number reached => simp [reached]
  next missed => simp [missed]

theorem reach_eq_some_iff {l : Listeners} {listener : Option Nat} {number : Nat} :
    l.reach listener = some number ↔ listener = some number ∧ number ∈ l.alive := by
  rw [reach, Option.filter_eq_some_iff, List.contains_iff_mem]

theorem noticesOf_notify {l : Listeners} {number : Nat} (alive : number ∈ l.alive) (n : Notice) :
    (l.notify (some number) n).noticesOf number = l.noticesOf number ++ [n] := by
  have reached : l.reach (some number) = some number := reach_eq_some_iff.mpr ⟨rfl, alive⟩
  simp [noticesOf, received_notify, reached]

end Listeners

namespace Device

open Lifecycle (Event)

variable {d : Device} {hub : Hub} {listener : Nat}

@[simp] theorem listeners_countAttempt (d : Device) (hub : Hub) :
    (d.countAttempt hub).listeners = hub.listeners := by
  rw [countAttempt]
  split <;> rfl

@[simp] theorem listeners_countFailure (d : Device) (hub : Hub) :
    (d.countFailure hub).listeners = hub.listeners := by
  rw [countFailure]
  split <;> rfl

theorem listeners_tell (d : Device) (hub : Hub) (report : Report) :
    (d.tell hub report).listeners =
      match report.notice? d with
      | some n => hub.listeners.notify d.listener n
      | none => hub.listeners := by
  cases report with
  | connect result => cases result <;> simp [tell, Device.report, Hub.notify, Report.notice?]
  | close closedNow => cases closedNow <;> simp [tell, reportClosing, Hub.notify, Report.notice?]

theorem alive_tell (d : Device) (hub : Hub) (report : Report) :
    (d.tell hub report).listeners.alive = hub.listeners.alive := by
  rw [listeners_tell]
  cases report.notice? d with
  | none => rfl
  | some n => exact Listeners.alive_notify _ _ n

theorem noticesOf_tell (set : d.listener = some listener) (alive : listener ∈ hub.listeners.alive)
    (report : Report) :
    (d.tell hub report).listeners.noticesOf listener =
      hub.listeners.noticesOf listener ++ (report.notice? d).toList := by
  rw [listeners_tell]
  cases report.notice? d with
  | none => simp
  | some n =>
    rw [set]
    exact Listeners.noticesOf_notify alive n

namespace Report

variable {report : Report}

theorem notice?_eq_opened_iff :
    report.notice? d = some (.opened d.fullName) ↔ report = .connect (.ok ()) := by
  cases report with
  | connect result => cases result <;> simp [notice?]
  | close closedNow => cases closedNow <;> simp [notice?]

theorem notice?_eq_closed_iff :
    report.notice? d = some (.closed d.fullName) ↔ report = .close true := by
  cases report with
  | connect result => cases result <;> simp [notice?]
  | close closedNow => cases closedNow <;> simp [notice?]

theorem eq_of_changes {n : Notice} (same : report.notice? d = some n) (changes : n.changes = true) :
    n = .opened d.fullName ∨ n = .closed d.fullName := by
  cases report with
  | connect result =>
    cases result with
    | ok done =>
      cases same
      exact .inl rfl
    | error e =>
      cases same
      cases changes
  | close closedNow =>
    cases closedNow with
    | true =>
      cases same
      exact .inr rfl
    | false => cases same

end Report

/-- The listener is set and alive, and has not been told anything. -/
structure Watching (d : Device) (hub : Hub) (listener : Nat) : Prop where
  set : d.listener = some listener
  alive : listener ∈ hub.listeners.alive
  untold : hub.listeners.noticesOf listener = []

namespace Watched

variable {w : Watched} {past : List Happening}

theorem Run.noticesOf (run : Run d { hub } past w) (watching : d.Watching hub listener) :
    listener ∈ w.hub.listeners.alive ∧
      w.hub.listeners.noticesOf listener =
        (past.filterMap Happening.report?).filterMap (Report.notice? d) := by
  induction run with
  | nil => exact ⟨watching.alive, watching.untold⟩
  | snoc run step ih =>
    obtain ⟨alive, seen⟩ := ih
    rw [filterMap_snoc, List.filterMap_append, ← seen]
    cases step with
    | count => simpa using alive
    | lifecycle step => simpa using alive
    | @tell before after report pending =>
      refine ⟨by rw [alive_tell]; exact alive, ?_⟩
      rw [noticesOf_tell watching.set alive]
      cases h : report.notice? d <;> simp [h]

/-- The notice that comes of an event. -/
def eventNotice? (d : Device) (event : Event) : Option Notice :=
  (Report.ofEvent? event).bind (Report.notice? d)

theorem count_notices {n : Notice} {p : Event → Bool} {report : Report}
    (notice : ∀ r : Report, r.notice? d = some n ↔ r = report)
    (event : ∀ e : Event, Report.ofEvent? e = some report ↔ p e = true) (events : List Event) :
    (events.filterMap (eventNotice? d)).count n = events.countP p := by
  rw [List.count_filterMap]
  apply List.countP_congr
  intro e _
  rw [beq_iff_eq, eventNotice?, Option.bind_eq_some_iff, ← event e]
  simp only [notice, exists_eq_right]

theorem count_opened (events : List Event) :
    (events.filterMap (eventNotice? d)).count (.opened d.fullName) =
      events.countP Event.connects :=
  count_notices (fun _ => Report.notice?_eq_opened_iff) Report.ofEvent?_eq_opening_iff events

theorem count_closed (events : List Event) :
    (events.filterMap (eventNotice? d)).count (.closed d.fullName) =
      events.countP Event.closes :=
  count_notices (fun _ => Report.notice?_eq_closed_iff) Report.ofEvent?_eq_closing_iff events

/-- Every notice that comes of what took place has reached the listener or is on its way. -/
theorem Run.notices_perm (run : Run d { hub } past w) (watching : d.Watching hub listener) :
    (w.hub.listeners.noticesOf listener ++ w.reports.filterMap (Report.notice? d)).Perm
      ((past.filterMap Happening.event?).filterMap (eventNotice? d)) := by
  have perm := run.perm.filterMap (Report.notice? d)
  rw [List.filterMap_append, ← (run.noticesOf watching).2, List.filterMap_filterMap] at perm
  exact perm

theorem Run.count_opened_le (run : Run d { hub } past w) (watching : d.Watching hub listener) :
    (w.hub.listeners.noticesOf listener).count (.opened d.fullName) ≤ 1 := by
  have counted := (run.notices_perm watching).count_eq (.opened d.fullName)
  have once := run.lifecycle.countP_connects.1
  rw [List.count_append, count_opened] at counted
  omega

theorem Run.count_closed_le (run : Run d { hub } past w) (watching : d.Watching hub listener) :
    (w.hub.listeners.noticesOf listener).count (.closed d.fullName) ≤ 1 := by
  have counted := (run.notices_perm watching).count_eq (.closed d.fullName)
  have once := run.lifecycle.countP_closes
  rw [List.count_append, count_closed, once] at counted
  split at counted <;> omega

/-- Once nothing is left to report, what the listener has been told gives the state away. -/
theorem Run.connected_iff (run : Run d { hub } past w) (watching : d.Watching hub listener)
    (quiet : w.reports = []) :
    w.shared.lifecycle.state = .connected ↔
      .opened d.fullName ∈ w.hub.listeners.noticesOf listener ∧
        .closed d.fullName ∉ w.hub.listeners.noticesOf listener := by
  have told := run.notices_perm watching
  rw [quiet, List.filterMap_nil, List.append_nil] at told
  have opened := told.count_eq (.opened d.fullName)
  have closed := told.count_eq (.closed d.fullName)
  rw [count_opened] at opened
  rw [count_closed, run.lifecycle.countP_closes] at closed
  have connects := run.lifecycle.countP_connects.2
  rw [← List.count_pos_iff, ← List.count_eq_zero, opened, closed]
  constructor
  · intro connected
    rw [connects (by simp [connected]), connected]
    decide
  · rintro ⟨some, none⟩
    have unclosed : w.shared.lifecycle.state ≠ .closed := by
      intro closed
      rw [if_pos closed] at none
      cases none
    rw [connects unclosed] at some
    split at some
    next connected => exact connected
    next => exact absurd some (Nat.lt_irrefl 0)

/-! ## In which order the notices come -/

theorem Run.inverted_iff (run : Run d { hub } past w) (watching : d.Watching hub listener) :
    List.Sublist [.closed d.fullName, .opened d.fullName]
        (w.hub.listeners.noticesOf listener) ↔
      ∃ device, List.Sublist
        [.step (.returned device (.ok ())), .step (.closed true), .told (.close true),
          .told (.connect (.ok ()))] past := by
  rw [(run.noticesOf watching).2, List.filterMap_filterMap, pair_sublist_filterMap_iff]
  simp only [Option.bind_eq_some_iff, Happening.report?_eq_some_iff, Report.notice?_eq_opened_iff,
    Report.notice?_eq_closed_iff, exists_eq_right]
  constructor
  · rintro ⟨closing, opening, order, rfl, rfl⟩
    exact run.inversion order
  · rintro ⟨device, order⟩
    refine ⟨.told (.close true), .told (.connect (.ok ())), ?_, rfl, rfl⟩
    exact List.Sublist.trans (by simp) order

/-- Only a device that has been closed is heard of in the wrong order. -/
theorem Run.closed_of_inverted (run : Run d { hub } past w) (watching : d.Watching hub listener)
    (inverted : List.Sublist [.closed d.fullName, .opened d.fullName]
      (w.hub.listeners.noticesOf listener)) : w.shared.lifecycle.state = .closed := by
  obtain ⟨device, order⟩ := (run.inverted_iff watching).mp inverted
  have member : .step (.closed true) ∈ past := order.subset (by simp)
  exact run.lifecycle.closed_iff.mpr ⟨true, mem_events_iff.mpr member⟩

/-- The last notice of a change is that of the connection opened if there is one, unless one of
the connection closed came after it. -/
theorem Run.getLast?_eq_opened_iff (run : Run d { hub } past w)
    (watching : d.Watching hub listener) :
    ((w.hub.listeners.noticesOf listener).filter Notice.changes).getLast? =
        some (.opened d.fullName) ↔
      .opened d.fullName ∈ w.hub.listeners.noticesOf listener ∧
        (.closed d.fullName ∈ w.hub.listeners.noticesOf listener →
          List.Sublist [.closed d.fullName, .opened d.fullName]
            (w.hub.listeners.noticesOf listener)) := by
  have only : ∀ n ∈ (w.hub.listeners.noticesOf listener).filter Notice.changes,
      n = .opened d.fullName ∨ n = .closed d.fullName := by
    intro n member
    obtain ⟨told, changes⟩ := List.mem_filter.mp member
    rw [(run.noticesOf watching).2] at told
    obtain ⟨report, -, same⟩ := List.mem_filterMap.mp told
    exact Report.eq_of_changes same changes
  have once : ((w.hub.listeners.noticesOf listener).filter Notice.changes).count
      (.closed d.fullName) ≤ 1 := by
    rw [List.count_filter rfl]
    exact run.count_closed_le watching
  have order : List.Sublist [.closed d.fullName, .opened d.fullName]
      ((w.hub.listeners.noticesOf listener).filter Notice.changes) ↔
      List.Sublist [.closed d.fullName, .opened d.fullName]
        (w.hub.listeners.noticesOf listener) := by
    constructor
    · intro inside
      exact inside.trans List.filter_sublist
    · intro inside
      exact inside.filter Notice.changes
  rw [getLast?_eq_some_iff_of_pair only (by simp) once, order, List.mem_filter, List.mem_filter]
  simp [Notice.changes]

/-- The listener sees the connection opened at most once and closed at most once. It sees it opened
after it saw it closed exactly if a close was through with its report while a connect that had
succeeded was not, and then the device is closed. As soon as there is nothing left to report, the
device is connected if and only if the listener has seen the connection opened and not closed, and
the last of the two that it has seen is the opening if and only if the device is connected or they
came in the wrong order. -/
theorem Run.notices (run : Run d { hub } past w) (watching : d.Watching hub listener) :
    (w.hub.listeners.noticesOf listener).count (.opened d.fullName) ≤ 1 ∧
    (w.hub.listeners.noticesOf listener).count (.closed d.fullName) ≤ 1 ∧
    (List.Sublist [.closed d.fullName, .opened d.fullName]
        (w.hub.listeners.noticesOf listener) ↔
      ∃ device, List.Sublist
        [.step (.returned device (.ok ())), .step (.closed true), .told (.close true),
          .told (.connect (.ok ()))] past) ∧
    (List.Sublist [.closed d.fullName, .opened d.fullName]
        (w.hub.listeners.noticesOf listener) → w.shared.lifecycle.state = .closed) ∧
    (w.reports = [] →
      (w.shared.lifecycle.state = .connected ↔
        .opened d.fullName ∈ w.hub.listeners.noticesOf listener ∧
          .closed d.fullName ∉ w.hub.listeners.noticesOf listener) ∧
      (((w.hub.listeners.noticesOf listener).filter Notice.changes).getLast? =
          some (.opened d.fullName) ↔
        w.shared.lifecycle.state = .connected ∨
          List.Sublist [.closed d.fullName, .opened d.fullName]
            (w.hub.listeners.noticesOf listener))) := by
  refine ⟨run.count_opened_le watching, run.count_closed_le watching,
    run.inverted_iff watching, run.closed_of_inverted watching, ?_⟩
  intro quiet
  have connected := run.connected_iff watching quiet
  refine ⟨connected, ?_⟩
  rw [run.getLast?_eq_opened_iff watching, connected]
  constructor
  · rintro ⟨opened, order⟩
    by_cases closed : .closed d.fullName ∈ w.hub.listeners.noticesOf listener
    · exact .inr (order closed)
    · exact .inl ⟨opened, closed⟩
  · rintro (⟨opened, unclosed⟩ | inverted)
    · exact ⟨opened, fun closed => absurd closed unclosed⟩
    · exact ⟨inverted.subset (by simp), fun _ => inverted⟩

/-! ## A device that is closed as soon as it is connected -/

def pump : Device where
  session := 1
  typeName := "pump"
  descriptor := .tcp "pump" "mock" 13110
  connection := { transport := { kind := "mock" }, endpoint := ⟨"mock", 13110⟩ }
  listener := some 0

def pumpHub : Hub := { sessions := 1, listeners := { count := 1, alive := [0] } }

theorem watching_pump : pump.Watching pumpHub 0 := ⟨rfl, by decide, rfl⟩

theorem fullName_pump : pump.fullName = "pump (dev-1)" := by decide +kernel

/-- The connect has succeeded and has yet to say so. -/
theorem Run.pump_connected : Run pump { hub := pumpHub }
    [.step (.prepared true true), .counted, .step (.began 1), .step (.answered 1 (.ok 0)),
      .step (.returned "pump (dev-1)" (.ok ()))]
    { shared :=
        { lifecycle := { state := .connected, generation := 1, stream := some 0 }
          opened := [0]
          prompt := [0] }
      hub := pumpHub
      reports := [.connect (.ok ())] } := by
  have prepared : Run pump { hub := pumpHub } [.step (.prepared true true), .counted]
      { shared := { lifecycle := { state := .prepared } }, hub := pumpHub } :=
    (Run.nil.snoc (.lifecycle (.prepare true))).snoc .count
  have began : Run pump { hub := pumpHub }
      [.step (.prepared true true), .counted, .step (.began 1)]
      { shared :=
          { lifecycle := { state := .connecting, generation := 1 }
            attempts := [{ device := "pump (dev-1)", ticket := 1 }] }
        hub := pumpHub } :=
    prepared.snoc (.lifecycle (.begin "pump (dev-1)" rfl))
  have fresh : ∀ stream, (.ok 0 : Except TransportError Nat) = .ok stream → stream ∉ [] := by simp
  have answered := began.snoc (.lifecycle
    (@Lifecycle.Step.answer _ [] [] { device := "pump (dev-1)", ticket := 1 } (.ok 0) rfl rfl fresh))
  exact answered.snoc (.lifecycle
    (@Lifecycle.Step.finish _ [] [] { device := "pump (dev-1)", ticket := 1, answer := some (.ok 0) }
      (.ok 0) (.ok ()) rfl rfl))

theorem Run.notices_of_pump :
    ∃ w, Run pump { hub := pumpHub }
        [.step (.prepared true true), .counted, .step (.began 1), .step (.answered 1 (.ok 0)),
          .step (.returned "pump (dev-1)" (.ok ())), .told (.connect (.ok ()))] w ∧
      w.shared.lifecycle.state = .connected ∧
      .opened "pump (dev-1)" ∈ w.hub.listeners.noticesOf 0 ∧
      .closed "pump (dev-1)" ∉ w.hub.listeners.noticesOf 0 := by
  have told := Run.pump_connected.snoc (@Step.tell _ _ [] [] _ rfl)
  obtain ⟨-, -, -, -, quiet⟩ := Run.notices told watching_pump
  rw [fullName_pump] at quiet
  exact ⟨_, told, rfl, (quiet rfl).1.mp rfl⟩

/-- The report of the close overtakes that of the connect, and the last that the listener hears of
the closed device is that it was opened. -/
theorem opened_after_closed :
    ∃ w, Run pump { hub := pumpHub }
        [.step (.prepared true true), .counted, .step (.began 1), .step (.answered 1 (.ok 0)),
          .step (.returned "pump (dev-1)" (.ok ())), .step (.closed true), .told (.close true),
          .told (.connect (.ok ()))] w ∧
      pump.Watching pumpHub 0 ∧ w.shared.attempts = [] ∧ w.reports = [] ∧
      w.shared.lifecycle.state = .closed ∧
      w.hub.listeners.noticesOf 0 = [.closed "pump (dev-1)", .opened "pump (dev-1)"] := by
  have closed := Run.pump_connected.snoc (.lifecycle .close)
  have overtaken := closed.snoc (@Step.tell _ _ [] _ (.close true) rfl)
  have told := overtaken.snoc (@Step.tell _ _ [] [] (.connect (.ok ())) rfl)
  exact ⟨_, told, watching_pump, rfl, rfl, rfl, by decide +kernel⟩

end Watched

end Device

end RemoteDevice
