import RemoteDevice.Proofs.Connection.Course
import RemoteDevice.Proofs.Device.Live

/-!
# Calls on a device and their reports

A call of connect or close reports how it went after its last step on the lifecycle, and until then
the steps and reports of other calls can come in between. The reports can therefore be made in
another order than what they speak of, but only in one way.
-/
set_option autoImplicit false

namespace RemoteDevice

theorem filterMap_snoc {α β : Type} (f : α → Option β) (l : List α) (a : α) :
    (l ++ [a]).filterMap f = l.filterMap f ++ (f a).toList := by
  cases h : f a <;> simp [h]

namespace Device

open Lifecycle (Shared Event)

/-- What a call has to tell when it is done with the lifecycle. -/
inductive Report where
  | connect (result : Except ConnectionError Unit)
  | close (closedNow : Bool)

namespace Report

def ofEvent? : Event → Option Report
  | .returned _ result => some (.connect result)
  | .closed closedNow => some (.close closedNow)
  | _ => none

theorem ofEvent?_eq_connect {event : Event} {result : Except ConnectionError Unit}
    (same : ofEvent? event = some (.connect result)) :
    ∃ device, event = .returned device result := by
  cases event with
  | returned device result' =>
    cases same
    exact ⟨device, rfl⟩
  | _ => cases same

theorem ofEvent?_eq_close {event : Event} {closedNow : Bool}
    (same : ofEvent? event = some (.close closedNow)) : event = .closed closedNow := by
  cases event with
  | closed closedNow' =>
    cases same
    rfl
  | _ => cases same

theorem ofEvent?_eq_opening_iff (event : Event) :
    ofEvent? event = some (.connect (.ok ())) ↔ event.connects = true := by
  cases event with
  | returned device result => cases result <;> simp [ofEvent?, Event.connects]
  | _ => simp [ofEvent?, Event.connects]

theorem ofEvent?_eq_closing_iff (event : Event) :
    ofEvent? event = some (.close true) ↔ event.closes = true := by
  cases event <;> simp [ofEvent?, Event.closes]

/-- A second closing has nothing to say. -/
def notice? (d : Device) : Report → Option Notice
  | .connect (.ok _) => some (.opened d.fullName)
  | .connect (.error e) => some (.failed d.fullName e.message)
  | .close closedNow => if closedNow then some (.closed d.fullName) else none

end Report

/-- Makes a report. -/
def tell (d : Device) (hub : Hub) : Report → Hub
  | .connect result => d.report hub result
  | .close closedNow => d.reportClosing hub closedNow

/-- A device in use, with the reports that are still to be made. -/
structure Watched where
  shared : Shared := {}
  hub : Hub
  reports : List Report := []

inductive Happening where
  /-- A connect is called, and counted. -/
  | counted
  | step (event : Event)
  | told (report : Report)

namespace Happening

@[simp] def event? : Happening → Option Event
  | .step event => some event
  | _ => none

@[simp] def report? : Happening → Option Report
  | .told report => some report
  | _ => none

theorem report?_eq_some_iff {happening : Happening} {report : Report} :
    happening.report? = some report ↔ happening = .told report := by
  cases happening <;> simp

end Happening

namespace Watched

/-- A call goes a step further: it is counted, or changes the lifecycle, or makes its report. -/
inductive Step (d : Device) (w : Watched) : Happening → Watched → Prop
  | count : Step d w .counted { w with hub := d.countAttempt w.hub }
  | lifecycle {event : Event} {next : Shared} (step : Lifecycle.Step w.shared event next) :
      Step d w (.step event)
        { w with shared := next, reports := (Report.ofEvent? event).toList ++ w.reports }
  | tell {before after : List Report} {report : Report}
      (pending : w.reports = before ++ report :: after) :
      Step d w (.told report) { w with hub := d.tell w.hub report, reports := before ++ after }

inductive Run (d : Device) (start : Watched) : List Happening → Watched → Prop
  | nil : Run d start [] start
  | snoc {past : List Happening} {w next : Watched} {happening : Happening}
      (run : Run d start past w) (step : Step d w happening next) :
      Run d start (past ++ [happening]) next

variable {d : Device} {start w : Watched} {hub : Hub} {past : List Happening}

theorem Run.split {before after : List Happening} {happening : Happening}
    (run : Run d start past w) (parts : past = before ++ happening :: after) :
    ∃ s next, Run d start before s ∧ Step d s happening next := by
  induction run generalizing after with
  | nil => simp at parts
  | @snoc past s next last run step ih =>
    rcases List.eq_nil_or_concat after with rfl | ⟨rest, final, rfl⟩
    · obtain ⟨rfl, same⟩ := List.append_inj' parts rfl
      cases same
      exact ⟨s, next, run, step⟩
    · rw [List.concat_eq_append, ← List.cons_append, ← List.append_assoc] at parts
      exact ih (List.append_inj' parts rfl).1

/-! ## The lifecycle of the device -/

theorem Run.lifecycle (run : Run d { hub } past w) :
    Lifecycle.Run {} (past.filterMap Happening.event?) w.shared := by
  induction run with
  | nil => exact .nil
  | snoc run step ih =>
    rw [filterMap_snoc]
    cases step with
    | lifecycle step => exact ih.snoc step
    | _ => simpa using ih

theorem mem_events_iff {event : Event} :
    event ∈ past.filterMap Happening.event? ↔ .step event ∈ past := by
  rw [List.mem_filterMap]
  constructor
  · rintro ⟨happening, member, same⟩
    cases happening with
    | step event' =>
      cases same
      exact member
    | _ => cases same
  · intro member
    exact ⟨_, member, rfl⟩

/-- Reports are made once each, and only of what took place. -/
theorem Run.perm (run : Run d { hub } past w) :
    (past.filterMap Happening.report? ++ w.reports).Perm
      ((past.filterMap Happening.event?).filterMap Report.ofEvent?) := by
  induction run with
  | nil => exact .nil
  | @snoc past w next happening run step ih =>
    cases step with
    | count =>
      simp only [filterMap_snoc, Happening.event?, Happening.report?, Option.toList_none,
        List.append_nil]
      exact ih
    | @lifecycle event next step =>
      simp only [filterMap_snoc, Happening.event?, Happening.report?, Option.toList_some,
        Option.toList_none, List.append_nil]
      refine List.Perm.trans ?_ (ih.append_right _)
      rw [List.append_assoc]
      exact List.perm_append_comm.append_left _
    | @tell before after report pending =>
      rw [pending] at ih
      simp only [filterMap_snoc, Happening.event?, Happening.report?, Option.toList_some,
        Option.toList_none, List.append_nil]
      refine List.Perm.trans ?_ ih
      rw [List.append_assoc]
      have back : (report :: (before ++ after)).Perm (before ++ report :: after) :=
        List.perm_middle.symm
      exact back.append_left _

theorem Run.reported (run : Run d { hub } past w) {report : Report} (pending : report ∈ w.reports) :
    ∃ event, .step event ∈ past ∧ Report.ofEvent? event = some report := by
  have member := run.perm.mem_iff.mp (List.mem_append_right _ pending)
  obtain ⟨event, there, same⟩ := List.mem_filterMap.mp member
  exact ⟨event, mem_events_iff.mp there, same⟩

/-- What is told has taken place before. -/
theorem Run.reported_of_told (run : Run d { hub } past w) {before after : List Happening}
    {report : Report} (parts : past = before ++ .told report :: after) :
    ∃ event, .step event ∈ before ∧ Report.ofEvent? event = some report := by
  obtain ⟨s, next, run, step⟩ := run.split parts
  cases step with
  | tell pending => exact run.reported (by simp [pending])

/-- No connect succeeds after a closing. -/
theorem Run.unclosed_of_connected (run : Run d { hub } past w) {before after : List Happening}
    {device : String} (parts : past = before ++ .step (.returned device (.ok ())) :: after)
    (closedNow : Bool) : .step (.closed closedNow) ∉ before := by
  intro closing
  obtain ⟨s, next, run, step⟩ := run.split parts
  have closed := run.lifecycle.closed_iff.mpr ⟨closedNow, mem_events_iff.mpr closing⟩
  cases step with
  | lifecycle step =>
    have enters := (step.connects_iff run.lifecycle.recorded).mp rfl
    have connecting := step.connecting_of_enters enters
    rw [closed] at connecting
    cases connecting

/-- When the closing is told before the success of the connect, the closing and its report fall
between the success and its report. -/
theorem Run.inversion (run : Run d { hub } past w)
    (inverted : List.Sublist [.told (.close true), .told (.connect (.ok ()))] past) :
    ∃ device, List.Sublist
      [.step (.returned device (.ok ())), .step (.closed true), .told (.close true),
        .told (.connect (.ok ()))] past := by
  obtain ⟨first, second, rfl, closing, opening⟩ := List.cons_sublist_iff.mp inverted
  obtain ⟨a, b, rfl⟩ := List.append_of_mem closing
  obtain ⟨c, e, rfl⟩ := List.append_of_mem (List.singleton_sublist.mp opening)
  have told : a ++ .told (.close true) :: b ++ (c ++ .told (.connect (.ok ())) :: e) =
      a ++ .told (.close true) :: b ++ c ++ .told (.connect (.ok ())) :: e :=
    (List.append_assoc _ c _).symm
  obtain ⟨event, closed, same⟩ := run.reported_of_told (List.append_assoc a _ _)
  obtain ⟨event', connected, same'⟩ := run.reported_of_told told
  obtain rfl := Report.ofEvent?_eq_close same
  obtain ⟨device, rfl⟩ := Report.ofEvent?_eq_connect same'
  obtain ⟨before, between, rfl⟩ := List.append_of_mem closed
  -- a connect that succeeded did so before the lifecycle was closed, whenever it says so
  have earlier : .step (.returned device (.ok ())) ∈ before := by
    have either : .step (.returned device (.ok ())) ∈ before ∨
        .step (.returned device (.ok ())) ∈ between ++ .told (.close true) :: b ++ c := by
      simpa using connected
    refine either.resolve_right ?_
    intro later
    obtain ⟨y, z, parts⟩ := List.append_of_mem later
    have split : before ++ .step (.closed true) :: between ++ .told (.close true) :: b ++
        (c ++ .told (.connect (.ok ())) :: e) =
        before ++ .step (.closed true) :: y ++ .step (.returned device (.ok ())) ::
          (z ++ .told (.connect (.ok ())) :: e) :=
      calc
        _ = before ++ .step (.closed true) :: (between ++ .told (.close true) :: b ++ c) ++
            .told (.connect (.ok ())) :: e := by simp
        _ = _ := by rw [parts]; simp
    exact run.unclosed_of_connected split true (by simp)
  refine ⟨device, ?_⟩
  have opened : List.Sublist [.step (.returned device (.ok ()))] before :=
    List.singleton_sublist.mpr earlier
  have closed : List.Sublist [.step (.closed true)] (.step (.closed true) :: between) := by simp
  have tolds : List.Sublist [.told (.close true)] (.told (.close true) :: b) := by simp
  exact ((opened.append closed).append tolds).append opening

end Watched

/-! ## Calls with nothing in between -/

open Connection (Reflects)

section

variable {d : Device} {connection : Connection}
  (same : connection.endpoint = d.connection.endpoint)
include same

theorem fullName_of_endpoint : { d with connection }.fullName = d.fullName := by
  simp [fullName, label, displayAddress, sessionText, same]

theorem tell_of_endpoint (hub : Hub) (report : Report) :
    { d with connection }.tell hub report = d.tell hub report := by
  cases report with
  | connect result =>
    cases result <;> simp [tell, Device.report, countFailure, fullName_of_endpoint same]
  | close closedNow => simp [tell, reportClosing, fullName_of_endpoint same]

end

theorem connect_hub (d : Device) (hub : Hub) :
    (d.connect hub).2.2 = d.tell (d.countAttempt hub) (.connect (d.connect hub).1) :=
  tell_of_endpoint (d.connection.endpoint_connect d.fullName) _ (.connect _)

theorem close_hub (d : Device) (hub : Hub) :
    (d.close hub).2 = d.tell hub (.close d.connection.close.1) :=
  tell_of_endpoint d.connection.endpoint_close _ (.close _)

namespace Watched

variable {d : Device} {hub : Hub} {past : List Happening} {w : Watched}

theorem Run.finish (run : Run d { hub } past w) {event : Event} {next : Shared} {report : Report}
    (step : Lifecycle.Step w.shared event next) (ends : Report.ofEvent? event = some report) :
    Run d { hub } (past ++ [.step event] ++ [.told report])
      { shared := next, hub := d.tell w.hub report, reports := w.reports } := by
  have stepped := run.snoc (.lifecycle step)
  rw [ends] at stepped
  exact stepped.snoc (@Step.tell d _ [] w.reports report rfl)

/-- A connect is a run of its steps, its report the last of them. -/
theorem Run.connect (run : Run d { hub } past w) (r : d.connection.Reflects w.shared) :
    ∃ later next, Run d { hub } (past ++ later) next ∧
      (d.connect w.hub).2.2 = next.hub ∧ (d.connect w.hub).2.1.connection.Reflects next.shared ∧
      next.shared.attempts = w.shared.attempts ∧ next.reports = w.reports := by
  have counted := run.snoc .count
  have told : (d.connect w.hub).2.2 =
      d.tell (d.countAttempt w.hub) (.connect (d.connection.connect d.fullName).1) :=
    connect_hub d w.hub
  have connection : (d.connect w.hub).2.1.connection = (d.connection.connect d.fullName).2 := rfl
  rw [told, connection, Connection.connect]
  cases began : d.connection.beginConnect with
  | error e =>
    have refused : w.shared.lifecycle.beginConnect = .error e := by
      rw [Connection.beginConnect, r.lifecycle] at began
      split at began
      next refused =>
        cases began
        exact refused
      next => cases began
    have finished := counted.finish (.refuse d.fullName refused) rfl
    rw [List.append_assoc, List.append_assoc] at finished
    exact ⟨_, _, finished, rfl, r, rfl, rfl⟩
  | ok begun =>
    obtain ⟨ticket, begun⟩ := begun
    obtain ⟨s₁, step₁, r₁, more⟩ := r.begin d.fullName began
    have underWay : s₁.attempts = [] ++ ⟨d.fullName, ticket, none⟩ :: w.shared.attempts := more
    obtain ⟨s₂, step₂, r₂, answered⟩ := r₁.answer underWay rfl
    have run₁ := counted.snoc (.lifecycle step₁)
    have run₂ := run₁.snoc (.lifecycle step₂)
    obtain ⟨s₃, step₃, r₃, rest⟩ := r₂.finish run₂.lifecycle.consistent answered rfl
    have finished := run₂.finish step₃ rfl
    simp only [List.append_assoc] at finished
    exact ⟨_, _, finished, rfl, r₃, rest, rfl⟩

/-- A close is a run of two steps. -/
theorem Run.close (run : Run d { hub } past w) (r : d.connection.Reflects w.shared) :
    ∃ later next, Run d { hub } (past ++ later) next ∧
      (d.close w.hub).2 = next.hub ∧ (d.close w.hub).1.connection.Reflects next.shared ∧
      next.shared.attempts = w.shared.attempts ∧ next.reports = w.reports := by
  obtain ⟨next, step, r', same⟩ := r.close run.lifecycle.consistent
  have finished := run.finish step rfl
  rw [List.append_assoc] at finished
  rw [close_hub]
  exact ⟨_, _, finished, rfl, r', same, rfl⟩

end Watched

end Device

end RemoteDevice
