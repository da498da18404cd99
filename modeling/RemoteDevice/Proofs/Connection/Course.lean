import RemoteDevice.Proofs.Connection.Streams

/-!
# The course of a lifecycle

Which state can follow which, what has to come before a lifecycle is connected, and what is left
to its callers after it has been closed.
-/
set_option autoImplicit false

namespace RemoteDevice

/-- One state can follow the other. -/
inductive ConnectionState.Leads : ConnectionState → ConnectionState → Prop
  | prepare : Leads .new .prepared
  | begin : Leads .prepared .connecting
  | fail : Leads .connecting .prepared
  | connect : Leads .connecting .connected
  | close {state : ConnectionState} (unclosed : state ≠ .closed) : Leads state .closed

namespace Lifecycle

open Connection (Reached pump)

variable {s next : Shared} {event : Event} {events : List Event}

/-! ## From state to state -/

theorem Step.leads (step : Step s event next) :
    next.lifecycle.state = s.lifecycle.state ∨
      s.lifecycle.state.Leads next.lifecycle.state := by
  cases step with
  | prepare available =>
    rcases prepare_next s.lifecycle available with same | ⟨new | prepared, next⟩
    · exact .inl (by rw [same])
    · rw [next, new]
      exact .inr .prepare
    · rw [next, prepared]
      exact .inl rfl
  | refuse device refused => exact .inl rfl
  | begin device begun =>
    obtain ⟨prepared, rfl, rfl⟩ := beginConnect_ok begun
    rw [prepared]
    exact .inr .begin
  | answer answer underWay waiting fresh => exact .inl rfl
  | @finish before after attempt answer noDelay underWay answered =>
    rcases finishConnect_cases s.lifecycle attempt.ticket answer noDelay with
      ⟨-, stale⟩ | ⟨awaited, fault, -, -, failed⟩ | ⟨awaited, stream, -, -, connected⟩
    · exact .inl (by rw [stale])
    · rw [failed, (awaits_iff.mp awaited).2]
      exact .inr .fail
    · rw [connected, (awaits_iff.mp awaited).2]
      exact .inr .connect
  | obtain direction cloned =>
    rcases obtain_next s.lifecycle direction cloned with same | ⟨stream, -, -, kept⟩
    · exact .inl (by rw [same])
    · exact .inl (by rw [kept, state_setHandle])
  | close =>
    by_cases closed : s.lifecycle.state = .closed
    · exact .inl (by rw [close_closed closed])
    · rw [close_open closed]
      exact .inr (.close closed)

/-! ## Being connected -/

/-- The lifecycle becomes connected. -/
def Enters (s next : Shared) : Prop :=
  s.lifecycle.state ≠ .connected ∧ next.lifecycle.state = .connected

theorem Step.connecting_of_enters (step : Step s event next) (enters : Enters s next) :
    s.lifecycle.state = .connecting := by
  obtain ⟨unconnected, connected⟩ := enters
  rcases step.leads with same | leads
  · exact absurd (same.symm.trans connected) unconnected
  · rw [connected] at leads
    generalize s.lifecycle.state = state at leads
    cases leads
    rfl

/-- What is connected stays so until it is closed. -/
theorem Step.settled (step : Step s event next)
    (settled : s.lifecycle.state = .connected ∨ s.lifecycle.state = .closed) :
    next.lifecycle.state = .connected ∨ next.lifecycle.state = .closed := by
  rcases step.leads with same | leads
  · rw [same]
    exact settled
  · generalize s.lifecycle.state = state at settled leads
    generalize next.lifecycle.state = reached at leads ⊢
    cases leads <;> simp at settled ⊢

theorem Run.settled {start : Shared} (run : Run start events s)
    (settled : start.lifecycle.state = .connected ∨ start.lifecycle.state = .closed) :
    s.lifecycle.state = .connected ∨ s.lifecycle.state = .closed := by
  induction run with
  | nil => exact settled
  | snoc run step ih => exact step.settled ih

/-- What the events say of how far each attempt has come. -/
structure Recorded (events : List Event) (s : Shared) : Prop where
  prepared : s.lifecycle.state ≠ .new → s.lifecycle.state ≠ .closed →
    .prepared true true ∈ events
  began : ∀ attempt ∈ s.attempts,
    List.Sublist [.prepared true true, .began attempt.ticket] events
  answered : ∀ attempt ∈ s.attempts, ∀ answer, attempt.answer = some answer →
    List.Sublist
      [.prepared true true, .began attempt.ticket, .answered attempt.ticket answer] events

namespace Recorded

theorem initial : Recorded [] {} where
  prepared := by simp
  began := by simp
  answered := by simp

theorem snoc (h : Recorded events s)
    (attempts : ∀ attempt ∈ next.attempts, attempt ∈ s.attempts)
    (prepared : next.lifecycle.state ≠ .new → next.lifecycle.state ≠ .closed →
      .prepared true true ∈ events ++ [event]) : Recorded (events ++ [event]) next where
  prepared := prepared
  began := by
    intro attempt member
    exact (h.began attempt (attempts attempt member)).trans (List.sublist_append_left _ _)
  answered := by
    intro attempt member answer given
    exact (h.answered attempt (attempts attempt member) answer given).trans
      (List.sublist_append_left _ _)

theorem prepared_snoc (h : Recorded events s) (unprepared : s.lifecycle.state ≠ .new)
    (unclosed : s.lifecycle.state ≠ .closed) : .prepared true true ∈ events ++ [event] :=
  List.mem_append_left _ (h.prepared unprepared unclosed)

end Recorded

theorem mem_around_iff {before after : List Attempt} {attempt other : Attempt} :
    other ∈ before ++ attempt :: after ↔ other = attempt ∨ other ∈ before ++ after := by
  rw [List.perm_middle.mem_iff, List.mem_cons]

theorem Step.recorded (step : Step s event next) (h : Recorded events s) :
    Recorded (events ++ [event]) next := by
  cases step with
  | prepare available =>
    refine h.snoc (fun attempt member => member) ?_
    intro unprepared unclosed
    by_cases same : (s.lifecycle.prepare available).2.state = s.lifecycle.state
    · exact h.prepared_snoc (same ▸ unprepared) (same ▸ unclosed)
    · obtain ⟨rfl, ready⟩ := prepare_moved same
      rw [ready]
      exact List.mem_append_right _ (List.mem_singleton_self _)
  | refuse device refused =>
    exact h.snoc (fun attempt member => member) h.prepared_snoc
  | @begin device ticket next begun =>
    obtain ⟨prepared, rfl, rfl⟩ := beginConnect_ok begun
    have before : .prepared true true ∈ events :=
      h.prepared (by simp [prepared]) (by simp [prepared])
    refine ⟨fun _ _ => List.mem_append_left _ before, ?_, ?_⟩
    · intro attempt member
      rcases List.mem_cons.mp member with rfl | earlier
      · exact (List.singleton_sublist.mpr before).append (List.Sublist.refl _)
      · exact (h.began attempt earlier).trans (List.sublist_append_left _ _)
    · intro attempt member answer given
      rcases List.mem_cons.mp member with rfl | earlier
      · cases given
      · exact (h.answered attempt earlier answer given).trans (List.sublist_append_left _ _)
  | @answer before after attempt given underWay waiting fresh =>
    have began := h.began attempt (by simp [underWay])
    have others : ∀ other ∈ before ++ after, other ∈ s.attempts := by
      intro other elsewhere
      rw [underWay, mem_around_iff]
      exact .inr elsewhere
    refine ⟨h.prepared_snoc, ?_, ?_⟩
    · intro other member
      rcases mem_around_iff.mp member with rfl | elsewhere
      · exact began.trans (List.sublist_append_left _ _)
      · exact (h.began other (others other elsewhere)).trans (List.sublist_append_left _ _)
    · intro other member answer same
      rcases mem_around_iff.mp member with rfl | elsewhere
      · cases same
        exact began.append (List.Sublist.refl _)
      · exact (h.answered other (others other elsewhere) answer same).trans
          (List.sublist_append_left _ _)
  | @finish before after attempt answer noDelay underWay answered =>
    refine h.snoc ?_ ?_
    · intro other elsewhere
      rw [underWay, mem_around_iff]
      exact .inr elsewhere
    · intro unprepared unclosed
      rcases finishConnect_cases s.lifecycle attempt.ticket answer noDelay with
        ⟨-, stale⟩ | ⟨awaited, -⟩ | ⟨awaited, -⟩
      · rw [stale] at unprepared unclosed
        exact h.prepared_snoc unprepared unclosed
      all_goals
        have connecting := (awaits_iff.mp awaited).2
        exact h.prepared_snoc (by simp [connecting]) (by simp [connecting])
  | obtain direction cloned =>
    refine h.snoc (fun attempt member => member) ?_
    rcases obtain_next s.lifecycle direction cloned with same | ⟨stream, -, -, kept⟩
    · rw [same]
      exact h.prepared_snoc
    · rw [kept, state_setHandle]
      exact h.prepared_snoc
  | close =>
    refine h.snoc (fun attempt member => member) ?_
    intro _ unclosed
    by_cases closed : s.lifecycle.state = .closed
    · rw [close_closed closed] at unclosed
      exact absurd closed unclosed
    · rw [close_open closed] at unclosed
      exact absurd rfl unclosed

theorem Run.recorded (run : Run {} events s) : Recorded events s := by
  induction run with
  | nil => exact .initial
  | snoc run step ih => exact step.recorded ih

/-- A lifecycle becomes connected where a connect succeeds, with the stream that was opened for it
and now sends small amounts at once. -/
theorem Step.returned_of_enters (step : Step s event next) (enters : Enters s next)
    (h : Recorded events s) :
    ∃ device ticket stream, event = .returned device (.ok ()) ∧
      List.Sublist
        [.prepared true true, .began ticket, .answered ticket (.ok stream)] events ∧
      next.Stores stream ∧ stream ∈ next.prompt := by
  have connecting := step.connecting_of_enters enters
  obtain ⟨unconnected, connected⟩ := enters
  cases step with
  | prepare available =>
    rcases prepare_next s.lifecycle available with same | ⟨new | prepared, -⟩
    · rw [same] at connected
      exact absurd connected unconnected
    · rw [new] at connecting
      cases connecting
    · rw [prepared] at connecting
      cases connecting
  | refuse device refused => exact absurd connected unconnected
  | begin device begun =>
    rw [(beginConnect_ok begun).1] at connecting
    cases connecting
  | answer answer underWay waiting fresh => exact absurd connected unconnected
  | @finish before after attempt answer noDelay underWay answered =>
    rcases finishConnect_cases s.lifecycle attempt.ticket answer noDelay with
      ⟨-, stale⟩ | ⟨-, fault, -, -, failed⟩ | ⟨awaited, stream, rfl, rfl, finished⟩
    · rw [stale] at connected
      exact absurd connected unconnected
    · rw [failed] at connected
      cases connected
    · have member : attempt ∈ s.attempts := by simp [underWay]
      have incoming : s.lifecycle.incoming attempt.ticket (.ok stream) = some stream :=
        incoming_eq_some_iff.mpr ⟨awaited, rfl⟩
      refine ⟨attempt.device, attempt.ticket, stream, ?_, ?_, ?_, ?_⟩
      · rw [finished]
        rfl
      · exact h.answered attempt member (.ok stream) answered
      · rw [Shared.Stores, finished]
      · simp [incoming]
  | obtain direction cloned =>
    rcases obtain_next s.lifecycle direction cloned with same | ⟨stream, already, -, -⟩
    · rw [same] at connected
      exact absurd connected unconnected
    · exact absurd already unconnected
  | close =>
    rcases (Step.close (s := s)).closed_iff.mpr (.inr ⟨_, rfl⟩) ▸ connected with ⟨⟩

/-- A connect succeeded between two parts of a run, and the lifecycle became connected with the
stream. -/
def ConnectedBetween (before : List Event) (device : String) (later : List Event) (s : Shared)
    (stream : Nat) : Prop :=
  ∃ prior entered, Run {} before prior ∧ Step prior (.returned device (.ok ())) entered ∧
    Enters prior entered ∧ entered.Stores stream ∧ Run entered later s

theorem ConnectedBetween.snoc {before later : List Event} {device : String} {stream : Nat}
    (between : ConnectedBetween before device later s stream) (step : Step s event next) :
    ConnectedBetween before device (later ++ [event]) next stream := by
  obtain ⟨prior, entered, first, entry, enters, stores, onward⟩ := between
  exact ⟨prior, entered, first, entry, enters, stores, onward.snoc step⟩

theorem Step.stream_eq (step : Step s event next) (connected : s.lifecycle.state = .connected) :
    next.lifecycle.stream = s.lifecycle.stream ∨ next.lifecycle.state = .closed := by
  cases step with
  | prepare available => exact .inl (by rw [prepare_settled (.inl connected)])
  | refuse device refused => exact .inl rfl
  | begin device begun =>
    rw [(beginConnect_ok begun).1] at connected
    cases connected
  | answer answer underWay waiting fresh => exact .inl rfl
  | @finish before after attempt answer noDelay underWay answered =>
    have stale : s.lifecycle.awaits attempt.ticket = false := by
      rw [← Bool.not_eq_true, awaits_iff, connected]
      simp
    exact .inl (by rw [finishConnect_stale stale])
  | obtain other cloned =>
    rcases obtain_next s.lifecycle other cloned with same | ⟨stream, -, -, made⟩
    · exact .inl (by rw [same])
    · exact .inl (by rw [made, stream_setHandle])
  | close => exact .inr ((Step.close (s := s)).closed_iff.mpr (.inr ⟨_, rfl⟩))

theorem Run.connectedBetween_of_stores (run : Run {} events s) {stream : Nat}
    (stores : s.Stores stream) : ∃ before device later,
      events = before ++ .returned device (.ok ()) :: later ∧
        ConnectedBetween before device later s stream := by
  induction run with
  | nil => cases stores
  | @snoc events s next event run step ih =>
    have connected := (step.consistent run.consistent).connected_of_stores stores
    by_cases enters : Enters s next
    · obtain ⟨device, ticket, stream', rfl, -, stores', -⟩ :=
        step.returned_of_enters enters run.recorded
      exact ⟨events, device, [], rfl, s, next, run, step, enters, stores, .nil⟩
    · have before : s.lifecycle.state = .connected :=
        Decidable.byContradiction fun unconnected => enters ⟨unconnected, connected⟩
      have kept : s.Stores stream := by
        rcases step.stream_eq before with same | closed
        · exact same.symm.trans stores
        · rw [connected] at closed
          cases closed
      obtain ⟨before, device, later, rfl, between⟩ := ih kept
      exact ⟨before, device, later ++ [event], by simp, between.snoc step⟩

/-- The event is the success of a connect. -/
def Event.connects : Event → Bool
  | .returned _ (.ok _) => true
  | _ => false

theorem Step.connects_iff (step : Step s event next) (h : Recorded events s) :
    event.connects = true ↔ Enters s next := by
  constructor
  · intro connects
    cases step with
    | @finish before after attempt answer noDelay underWay answered =>
      rcases finishConnect_cases s.lifecycle attempt.ticket answer noDelay with
        ⟨-, stale⟩ | ⟨-, fault, -, failed, -⟩ | ⟨awaited, stream, -, -, connected⟩
      · rw [stale] at connects
        cases connects
      · rw [Finish.outcome, failed] at connects
        cases connects
      · rw [Enters, connected, (awaits_iff.mp awaited).2]
        exact ⟨by decide, rfl⟩
    | _ => cases connects
  · intro enters
    obtain ⟨device, ticket, stream, rfl, -⟩ := step.returned_of_enters enters h
    rfl

/-- At most one connect succeeds, and as long as nobody closes it is to be seen from the state
whether one has. -/
theorem Run.countP_connects (run : Run {} events s) :
    events.countP Event.connects ≤ 1 ∧
      (s.lifecycle.state ≠ .closed →
        events.countP Event.connects = if s.lifecycle.state = .connected then 1 else 0) := by
  induction run with
  | nil => simp
  | @snoc events s next event run step ih =>
    obtain ⟨once, seen⟩ := ih
    have connects := step.connects_iff run.recorded
    rw [List.countP_append, List.countP_singleton]
    by_cases enters : Enters s next
    · have connecting := step.connecting_of_enters enters
      have none : events.countP Event.connects = 0 := by
        rw [seen (by simp [connecting]), if_neg (by simp [connecting])]
      rw [none, if_pos (connects.mpr enters), enters.2]
      exact ⟨by omega, fun _ => rfl⟩
    · rw [if_neg (mt connects.mp enters)]
      refine ⟨once, ?_⟩
      intro unclosed
      have before : s.lifecycle.state ≠ .closed :=
        fun closed => unclosed (step.closed_iff.mpr (.inl closed))
      have same : next.lifecycle.state = .connected ↔ s.lifecycle.state = .connected := by
        constructor
        · intro connected
          exact Decidable.byContradiction fun unconnected => enters ⟨unconnected, connected⟩
        · intro connected
          exact (step.settled (.inl connected)).resolve_right unclosed
      rw [Nat.add_zero, seen before]
      simp only [same]

/-! ## Being closed -/

/-- The event is a closing that closed the lifecycle. -/
def Event.closes : Event → Bool
  | .closed closedNow => closedNow
  | _ => false

theorem Step.closes_iff (step : Step s event next) :
    event.closes = true ↔ s.lifecycle.state ≠ .closed ∧ next.lifecycle.state = .closed := by
  rw [step.closed_iff]
  cases step with
  | close =>
    by_cases closed : s.lifecycle.state = .closed
    · simp [Event.closes, close_closed closed, closed]
    · simp [Event.closes, close_open closed, closed]
  | _ => simp [Event.closes]

theorem Run.countP_closes (run : Run {} events s) :
    events.countP Event.closes = if s.lifecycle.state = .closed then 1 else 0 := by
  induction run with
  | nil => simp
  | @snoc events s next event run step ih =>
    have closes := step.closes_iff
    have stays : s.lifecycle.state = .closed → next.lifecycle.state = .closed :=
      fun closed => step.closed_iff.mpr (.inl closed)
    rw [List.countP_append, ih, List.countP_singleton]
    by_cases closed : s.lifecycle.state = .closed
    · simp [closes, closed, stays closed]
    · simp [closes, closed]

/-- Nothing comes of any call any more. -/
structure Shared.Over (s : Shared) : Prop where
  state : s.lifecycle.state = .closed
  prepared : ∀ available ready next, Step s (.prepared available ready) next → ready = false
  began : ∀ ticket next, ¬ Step s (.began ticket) next
  /-- A connect is refused in its first step, or it ends in its second one and says why. -/
  returned : ∀ device result next, Step s (.returned device result) next →
    result = .error (.invalidState .closed "connect") ∧ next.attempts = s.attempts ∨
    result = .error (.failed device .closedMeanwhile) ∧
      next.attempts.length + 1 = s.attempts.length
  obtained : ∀ direction result next, Step s (.obtained direction result) next →
    result = .error .notConnected
  closed : ∀ closedNow next, Step s (.closed closedNow) next → closedNow = false

theorem Consistent.over (h : Consistent s) (closed : s.lifecycle.state = .closed) : s.Over where
  state := closed
  prepared := by
    intro available ready next step
    generalize seen : Event.prepared available ready = event at step
    cases step with
    | prepare available' =>
      cases seen
      rw [prepare_closed closed]
    | _ => cases seen
  began := by
    intro ticket next step
    generalize seen : Event.began ticket = event at step
    cases step with
    | begin device begun =>
      rw [(beginConnect_ok begun).1] at closed
      cases closed
    | _ => cases seen
  returned := by
    intro device result next step
    generalize seen : Event.returned device result = event at step
    cases step with
    | refuse device' refused =>
      cases seen
      obtain ⟨-, rfl⟩ := beginConnect_error refused
      exact .inl ⟨by rw [closed], rfl⟩
    | @finish before after attempt answer noDelay underWay answered =>
      have stale : s.lifecycle.awaits attempt.ticket = false := by
        rw [← Bool.not_eq_true, awaits_iff, closed]
        rintro ⟨-, ⟨⟩⟩
      cases seen
      rw [finishConnect_stale stale, underWay]
      refine .inr ⟨rfl, ?_⟩
      simp only [List.length_append, List.length_cons]
      omega
    | _ => cases seen
  obtained := by
    intro direction result next step
    generalize seen : Event.obtained direction result = event at step
    cases step with
    | obtain direction' cloned =>
      have unconnected : s.lifecycle.state ≠ .connected := by simp [closed]
      cases seen
      exact obtain_unconnected (h.handle_eq_none unconnected direction) unconnected cloned
    | _ => cases seen
  closed := by
    intro closedNow next step
    generalize seen : Event.closed closedNow = event at step
    cases step with
    | close =>
      cases seen
      rw [close_closed closed]
    | _ => cases seen

/-- The state goes from new over prepared and connecting to connected, or back from connecting to
prepared, and from anywhere to closed. It becomes connected once at most, where a connect succeeds
that began after the medium was found and whose stream was opened and sends small amounts at once;
of a connection the transport has this in its own record of the stream. Of all closings exactly one
closes the lifecycle, and then it is over for good. -/
theorem Run.course (run : Run {} events s) :
    (∀ event next, Step s event next →
      next.lifecycle.state = s.lifecycle.state ∨
        s.lifecycle.state.Leads next.lifecycle.state) ∧
    (∀ event next, Step s event next → Enters s next →
      (∃ device ticket stream, event = .returned device (.ok ()) ∧
        List.Sublist
          [.prepared true true, .began ticket, .answered ticket (.ok stream)] events ∧
        next.Stores stream ∧ stream ∈ next.prompt) ∧
      ∀ later t event' u, Run next later t → Step t event' u → ¬ Enters t u) ∧
    ((∃ closedNow, .closed closedNow ∈ events) →
      events.countP Event.closes = 1 ∧ ∀ later t, Run s later t → t.Over) ∧
    ∀ start past c attempts, start.IsNew → Reached start past c attempts → c.state = .connected →
      ∃ before device ticket stream later, past = before ++ .returned device (.ok ()) :: later ∧
        List.Sublist
          [.prepared true true, .began ticket, .answered ticket (.ok stream)] before ∧
        c.lifecycle.stream = some stream ∧
        (c.transport.streams[stream]?).any Loopback.noDelay = true := by
  refine ⟨fun event next step => step.leads, ?_, ?_, ?_⟩
  · intro event next step enters
    refine ⟨step.returned_of_enters enters run.recorded, ?_⟩
    intro later t event' u onward last again
    have connecting := last.connecting_of_enters again
    rcases onward.settled (.inl enters.2) with connected | closed
    · exact again.1 connected
    · rw [closed] at connecting
      cases connecting
  · intro closing
    have closed := run.closed_iff.mpr closing
    refine ⟨by rw [run.countP_closes, if_pos closed], ?_⟩
    intro later t onward
    have whole := run.append onward
    obtain ⟨closedNow, member⟩ := closing
    have stays := whole.closed_iff.mpr ⟨closedNow, List.mem_append_left later member⟩
    exact whole.consistent.over stays
  · intro start past c attempts new reached connected
    obtain ⟨s, run, r, -⟩ := reached.reflects new
    rw [Connection.state, r.lifecycle, run.consistent.connected_iff, Option.isSome_iff_exists]
      at connected
    obtain ⟨stream, stores⟩ := connected
    obtain ⟨before, device, later, rfl, prior, entered, first, entry, enters, kept, -⟩ :=
      run.connectedBetween_of_stores stores
    obtain ⟨-, ticket, opened, -, order, own, -⟩ := entry.returned_of_enters enters first.recorded
    obtain rfl : opened = stream := Option.some.inj (own.symm.trans kept)
    refine ⟨before, device, ticket, opened, later, rfl, order, by rw [r.lifecycle, stores], ?_⟩
    rw [← r.records.prompt]
    exact run.consistent.prompt_of_stores opened stores

/-- The connect of the reading run connects, in a connection with a record of it; after a closing
nothing is left. -/
theorem Run.course_of_reading :
    (∃ s next, Run {} [.prepared true true, .began 1, .answered 1 (.ok 0)] s ∧
      Step s (.returned "pump" (.ok ())) next ∧ Enters s next ∧ 0 ∈ next.prompt ∧
      ∀ later t event u, Run next later t → Step t event u → ¬ Enters t u) ∧
    (∃ s, Run {}
        [.prepared true true, .began 1, .answered 1 (.ok 0), .returned "pump" (.ok ()),
          .obtained .input (.ok ⟨0, 0⟩), .closed true, .closed false] s ∧
      ∀ later t, Run s later t → t.Over) ∧
    ∃ c stream, Reached pump
        [.prepared true true, .began 1, .answered 1 (.ok 0), .returned "pump" (.ok ()),
          .obtained .input (.ok ⟨0, 0⟩)] c [] ∧
      c.lifecycle.stream = some stream ∧
      (c.transport.streams[stream]?).any Loopback.noDelay = true := by
  refine ⟨?_, ?_, ?_⟩
  · have step : Step
        { lifecycle := { state := .connecting, generation := 1 }
          attempts := [{ device := "pump", ticket := 1, answer := some (.ok 0) }]
          opened := [0] }
        (.returned "pump" (.ok ()))
        { lifecycle := { state := .connected, generation := 1, stream := some 0 }
          opened := [0]
          prompt := [0] } :=
      @Step.finish _ [] [] { device := "pump", ticket := 1, answer := some (.ok 0) } (.ok 0)
        (.ok ()) rfl rfl
    obtain ⟨-, connects, -⟩ := Run.course Run.answered
    obtain ⟨⟨device, ticket, stream, -, -, stores, prompt⟩, once⟩ :=
      connects _ _ step ⟨by decide, rfl⟩
    cases stores
    exact ⟨_, _, Run.answered, step, ⟨by decide, rfl⟩, prompt, once⟩
  · have closed : Run {}
        [.prepared true true, .began 1, .answered 1 (.ok 0), .returned "pump" (.ok ()),
          .obtained .input (.ok ⟨0, 0⟩), .closed true, .closed false]
        { lifecycle := { state := .closed, generation := 2, handles := 1 }
          opened := [0]
          prompt := [0]
          shutDown := [0] } :=
      (Run.reading.snoc .close).snoc .close
    exact ⟨_, closed, ((Run.course closed).2.2.1 ⟨true, by simp⟩).2⟩
  · obtain ⟨-, -, -, connects⟩ := Run.course Run.reading
    obtain ⟨-, -, -, stream, -, -, -, stored, prompt⟩ :=
      connects _ _ _ _ Connection.isNew_pump Reached.pump_reading rfl
    exact ⟨_, stream, Reached.pump_reading, stored, prompt⟩

end Lifecycle

end RemoteDevice
