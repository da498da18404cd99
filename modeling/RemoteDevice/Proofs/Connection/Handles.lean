import RemoteDevice.Proofs.Connection.Course

/-!
# The handles that are given out

In each direction every caller is given the same handle, from the first call that gets one until
the closing. It takes one cloning of the stream, and a cloning that fails leaves nothing behind.
-/
set_option autoImplicit false

namespace RemoteDevice.Lifecycle

variable {s next : Shared} {event : Event} {events : List Event} {direction : Direction}

/-! ## Clonings -/

/-- A call for a handle has the stream cloned: no handle is kept, and there is a stream. -/
def Clones (l : Lifecycle) (d : Direction) : Prop :=
  l.handle? d = none ∧ l.state = .connected ∧ ∃ stream, l.stream = some stream

/-- What a call was answered that had the stream cloned. -/
structure Cloning where
  direction : Direction
  answer : Except TransportError Unit

def Cloning.makes (d : Direction) (c : Cloning) : Bool := c.direction = d && c.answer.isOk

theorem obtain_silent {l : Lifecycle} {d : Direction} (silent : ¬l.Clones d)
    (none : l.handle? d = none) (cloned : Except TransportError Unit) :
    l.obtain d cloned = (.error .notConnected, l) := by
  simp only [obtain, none]
  split
  next state stored => exact absurd ⟨none, state, _, stored⟩ silent
  next state stored => exact absurd ⟨none, state, _, stored⟩ silent
  next => rfl

theorem Step.exists_cloned {result : Except HandleFault Handle}
    (step : Step s (.obtained direction result) next) : ∃ cloned,
      result = (s.lifecycle.obtain direction cloned).1 ∧
        next = { s with lifecycle := (s.lifecycle.obtain direction cloned).2 } := by
  generalize seen : Event.obtained direction result = event at step
  cases step with
  | obtain other cloned =>
    cases seen
    exact ⟨cloned, rfl, rfl⟩
  | _ => cases seen

/-- A run from the start together with the clonings that its calls brought about. -/
inductive Clonings : List Event → List Cloning → Shared → Prop
  | start : Clonings [] [] {}
  | cloned {events : List Event} {clonings : List Cloning} {s : Shared} {d : Direction}
      (earlier : Clonings events clonings s) (clones : s.lifecycle.Clones d)
      (answer : Except TransportError Unit) :
      Clonings (events ++ [.obtained d (s.lifecycle.obtain d answer).1])
        (clonings ++ [⟨d, answer⟩])
        { s with lifecycle := (s.lifecycle.obtain d answer).2 }
  | uncloned {events : List Event} {clonings : List Cloning} {s next : Shared} {event : Event}
      (earlier : Clonings events clonings s) (step : Step s event next)
      (silent : ∀ d result, event = .obtained d result → ¬s.lifecycle.Clones d) :
      Clonings (events ++ [event]) clonings next

theorem Clonings.run {clonings : List Cloning} (h : Clonings events clonings s) :
    Run {} events s := by
  induction h with
  | start => exact .nil
  | cloned earlier clones answer ih => exact ih.snoc (.obtain _ answer)
  | uncloned earlier step silent ih => exact ih.snoc step

theorem Run.clonings (run : Run {} events s) : ∃ clonings, Clonings events clonings s := by
  induction run with
  | nil => exact ⟨[], .start⟩
  | @snoc events s next event run step ih =>
    obtain ⟨clonings, earlier⟩ := ih
    by_cases clones : ∃ d result, event = .obtained d result ∧ s.lifecycle.Clones d
    · obtain ⟨d, result, rfl, clones⟩ := clones
      generalize seen : Event.obtained d result = event at step
      cases step with
      | obtain direction answer =>
        cases seen
        exact ⟨_, earlier.cloned clones answer⟩
      | _ => cases seen
    · refine ⟨clonings, earlier.uncloned step ?_⟩
      intro d result same asks
      exact clones ⟨d, result, same, asks⟩

/-! ## What a step does to the handles -/

/-- Handles come from calls for them and go with the closing. -/
theorem Step.handle?_eq (step : Step s event next) (d : Direction)
    (uncalled : ∀ result, event ≠ .obtained d result) :
    next.lifecycle.handle? d = s.lifecycle.handle? d ∨ next.lifecycle.state = .closed := by
  cases step with
  | prepare available =>
    rcases prepare_next s.lifecycle available with same | ⟨-, prepared⟩
    · exact .inl (by rw [same])
    · rw [prepared]
      cases d <;> exact .inl rfl
  | refuse device refused => exact .inl rfl
  | begin device begun =>
    obtain ⟨-, rfl, rfl⟩ := beginConnect_ok begun
    cases d <;> exact .inl rfl
  | answer answer underWay waiting fresh => exact .inl rfl
  | @finish before after attempt answer noDelay underWay answered =>
    rcases finishConnect_cases s.lifecycle attempt.ticket answer noDelay with
      ⟨-, stale⟩ | ⟨-, fault, -, -, failed⟩ | ⟨-, stream, -, -, connected⟩
    · exact .inl (by rw [stale])
    · rw [failed]
      cases d <;> exact .inl rfl
    · rw [connected]
      cases d <;> exact .inl rfl
  | obtain other cloned =>
    have different : d ≠ other := by
      rintro rfl
      exact uncalled _ rfl
    rcases obtain_next s.lifecycle other cloned with same | ⟨stream, -, -, made⟩
    · exact .inl (by rw [same])
    · left
      rw [made, handle?_setHandle, if_neg different]
      cases d <;> rfl
  | close => exact .inr ((Step.close (s := s)).closed_iff.mpr (.inr ⟨_, rfl⟩))

/-- A call that needs no cloning is given the handle that is kept, or there is no connection. -/
theorem Step.unchanged_of_uncloned {result : Except HandleFault Handle}
    (step : Step s (.obtained direction result) next) (silent : ¬s.lifecycle.Clones direction) :
    next = s ∧
      ((∃ kept, s.lifecycle.handle? direction = some kept ∧ result = .ok kept) ∨
        s.lifecycle.handle? direction = none ∧ result = .error .notConnected) := by
  obtain ⟨cloned, rfl, rfl⟩ := step.exists_cloned
  cases kept : s.lifecycle.handle? direction with
  | some handle =>
    rw [obtain_kept kept]
    exact ⟨rfl, .inl ⟨handle, rfl, rfl⟩⟩
  | none =>
    rw [obtain_silent silent kept]
    exact ⟨rfl, .inr ⟨rfl, rfl⟩⟩

theorem Step.unchanged_of_clone_error {e : TransportError}
    (step : Step s (.obtained direction (.error (.clone e))) next) :
    next = s ∧ s.lifecycle.handle? direction = none ∧ s.lifecycle.state = .connected := by
  by_cases clones : s.lifecycle.Clones direction
  · obtain ⟨unkept, connected, stream, stored⟩ := clones
    refine ⟨?_, unkept, connected⟩
    obtain ⟨cloned, failed, rfl⟩ := step.exists_cloned
    cases cloned with
    | error e' => rw [obtain_uncloned unkept connected stored]
    | ok done =>
      rw [obtain_made unkept connected stored] at failed
      cases failed
  · obtain ⟨-, ⟨kept, -, same⟩ | ⟨-, same⟩⟩ := step.unchanged_of_uncloned clones
    · cases same
    · cases same

/-- While the lifecycle is connected a call gets a handle if the transport clones the stream. -/
theorem Consistent.exists_obtain (h : Consistent s) (connected : s.lifecycle.state = .connected)
    (d : Direction) : ∃ handle, (s.lifecycle.obtain d (.ok ())).1 = .ok handle := by
  obtain ⟨stream, stored⟩ := Option.isSome_iff_exists.mp (h.connected_iff.mp connected)
  cases kept : s.lifecycle.handle? d with
  | some handle => exact ⟨handle, by rw [obtain_kept kept]⟩
  | none => exact ⟨⟨s.lifecycle.handles, stream⟩, by rw [obtain_made kept connected stored]⟩

/-! ## One handle for each direction -/

/-- What the past says of a direction: no handle has been given out yet, or one has, with a cloning
of its own, and it is kept until the closing. -/
inductive Supplied (events : List Event) (clonings : List Cloning) (l : Lifecycle) (d : Direction) :
    Prop
  | none (unkept : l.handle? d = none) (never : ∀ h, .obtained d (.ok h) ∉ events)
      (unmade : clonings.countP (Cloning.makes d) = 0) : Supplied events clonings l d
  | one (given : Handle) (only : ∀ h, .obtained d (.ok h) ∈ events ↔ h = given)
      (kept : l.handle? d = some given ∨ l.state = .closed)
      (made : clonings.countP (Cloning.makes d) = 1) : Supplied events clonings l d

namespace Supplied

variable {clonings more : List Cloning} {d : Direction}

/-- A step that gives out no handle for the direction. -/
theorem snoc (h : Supplied events clonings s.lifecycle d) (step : Step s event next)
    (consistent : Consistent next) (ungiven : ∀ handle, event ≠ .obtained d (.ok handle))
    (unmade : more.countP (Cloning.makes d) = 0)
    (handle : next.lifecycle.handle? d = s.lifecycle.handle? d ∨
      next.lifecycle.state = .closed) :
    Supplied (events ++ [event]) (clonings ++ more) next.lifecycle d := by
  have same : ∀ handle, .obtained d (.ok handle) ∈ events ++ [event] ↔
      .obtained d (.ok handle) ∈ events := by
    intro handle
    simp [(ungiven handle).symm]
  have count : (clonings ++ more).countP (Cloning.makes d) =
      clonings.countP (Cloning.makes d) := by
    rw [List.countP_append, unmade, Nat.add_zero]
  cases h with
  | none unkept never none =>
    refine .none ?_ (by simpa [same] using never) (count.trans none)
    rcases handle with unchanged | closed
    · exact unchanged.trans unkept
    · exact consistent.handle_eq_none (by simp [closed]) d
  | one given only kept made =>
    refine .one given (by simpa [same] using only) ?_ (count.trans made)
    rcases handle with unchanged | closed
    · rcases kept with kept | closed
      · exact .inl (unchanged.trans kept)
      · exact .inr (step.closed_iff.mpr (.inl closed))
    · exact .inr closed

theorem again (h : Supplied events clonings s.lifecycle d) (consistent : Consistent s)
    {handle : Handle} (kept : s.lifecycle.handle? d = some handle) :
    Supplied (events ++ [.obtained d (.ok handle)]) clonings s.lifecycle d := by
  cases h with
  | none unkept never unmade =>
    rw [kept] at unkept
    cases unkept
  | one given only kept' made =>
    have connected := consistent.connected_of_stores (consistent.stream_of_handle d handle kept)
    have same : given = handle := by
      rcases kept' with same | closed
      · rw [kept] at same
        exact (Option.some.inj same).symm
      · rw [connected] at closed
        cases closed
    subst same
    refine .one given ?_ (.inl kept) made
    intro other
    simp [only]

theorem first (h : Supplied events clonings s.lifecycle d) (clones : s.lifecycle.Clones d)
    {handle : Handle} (kept : next.lifecycle.handle? d = some handle) :
    Supplied (events ++ [.obtained d (.ok handle)]) (clonings ++ [⟨d, .ok ()⟩])
      next.lifecycle d := by
  obtain ⟨unkept, connected, -⟩ := clones
  cases h with
  | none unkept never unmade =>
    refine .one handle ?_ (.inl kept) ?_
    · intro other
      simp [never]
    · simp [unmade, Cloning.makes, Except.isOk, Except.toBool]
  | one given only kept' made =>
    -- while connected the handle that was given out would still be kept
    rcases kept' with some | closed
    · rw [some] at unkept
      cases unkept
    · rw [connected] at closed
      cases closed

end Supplied

theorem Clonings.supplied {clonings : List Cloning} (h : Clonings events clonings s)
    (d : Direction) : Supplied events clonings s.lifecycle d := by
  induction h with
  | start => exact .none (by cases d <;> rfl) (by simp) rfl
  | @cloned events clonings s asked earlier clones answer ih =>
    have step : Step s _ _ := .obtain asked answer
    have consistent := step.consistent earlier.run.consistent
    by_cases same : d = asked
    · subst same
      obtain ⟨unkept, connected, stream, stored⟩ := clones
      cases answer with
      | error e =>
        refine ih.snoc step consistent ?_ ?_ ?_
        · rw [obtain_uncloned unkept connected stored]
          simp
        · simp [Cloning.makes, Except.isOk, Except.toBool]
        · rw [obtain_uncloned unkept connected stored]
          exact .inl rfl
      | ok done =>
        rw [obtain_made unkept connected stored]
        refine ih.first ⟨unkept, connected, stream, stored⟩ ?_
        rw [handle?_setHandle, if_pos rfl]
    · -- a cloning for the other direction
      have uncalled : ∀ result,
          Event.obtained asked (s.lifecycle.obtain asked answer).1 ≠ .obtained d result := by
        intro result seen
        exact same (Event.obtained.inj seen).1.symm
      refine ih.snoc step consistent (fun handle => uncalled (.ok handle)) ?_
        (step.handle?_eq d uncalled)
      simp [Cloning.makes, Ne.symm same]
  | @uncloned events clonings s next event earlier step silent ih =>
    have consistent := step.consistent earlier.run.consistent
    have others : ∀ (ungiven : ∀ handle, event ≠ .obtained d (.ok handle))
        (handle : next.lifecycle.handle? d = s.lifecycle.handle? d ∨
          next.lifecycle.state = .closed),
        Supplied (events ++ [event]) clonings next.lifecycle d := by
      intro ungiven handle
      have later : Supplied (events ++ [event]) (clonings ++ []) next.lifecycle d :=
        ih.snoc step consistent ungiven rfl handle
      rwa [List.append_nil] at later
    by_cases called : ∃ result, event = .obtained d result
    · obtain ⟨result, rfl⟩ := called
      obtain ⟨rfl, ⟨kept, found, rfl⟩ | ⟨-, rfl⟩⟩ :=
        step.unchanged_of_uncloned (silent d result rfl)
      · exact ih.again earlier.run.consistent found
      · exact others (by simp) (.inl rfl)
    · have uncalled : ∀ result, event ≠ .obtained d result :=
        fun result same => called ⟨result, same⟩
      exact others (fun handle => uncalled (.ok handle)) (step.handle?_eq d uncalled)

/-! ## One stream for all handles -/

theorem Consistent.stores_of_obtained (h : Consistent s) {handle : Handle}
    (step : Step s (.obtained direction (.ok handle)) next) : s.Stores handle.stream := by
  by_cases clones : s.lifecycle.Clones direction
  · obtain ⟨unkept, connected, stream, stored⟩ := clones
    obtain ⟨cloned, given, -⟩ := step.exists_cloned
    cases cloned with
    | error e =>
      rw [obtain_uncloned unkept connected stored] at given
      cases given
    | ok done =>
      rw [obtain_made unkept connected stored] at given
      cases given
      exact stored
  · obtain ⟨-, ⟨kept, found, same⟩ | ⟨-, refused⟩⟩ := step.unchanged_of_uncloned clones
    · cases same
      exact h.stream_of_handle direction handle found
    · cases refused

/-- No handle is given out before the connection or after it. -/
theorem Run.settled_of_obtained (run : Run {} events s) {handle : Handle}
    (given : .obtained direction (.ok handle) ∈ events) :
    s.lifecycle.state = .connected ∨ s.lifecycle.state = .closed := by
  induction run with
  | nil => cases given
  | snoc run step ih =>
    rcases List.mem_append.mp given with earlier | now
    · exact step.settled (ih earlier)
    · obtain rfl := List.mem_singleton.mp now
      have stores := run.consistent.stores_of_obtained step
      exact step.settled (.inl (run.consistent.connected_of_stores stores))

/-- As long as the lifecycle is connected its stream does not change, and all handles are of it. -/
theorem Run.stream_of_obtained {start : Shared} {past later : List Event}
    (first : Run {} past start) (run : Run start later s)
    (connected : start.lifecycle.state = .connected) {stream : Nat}
    (stores : start.Stores stream) :
    (s.lifecycle.state = .connected → s.Stores stream) ∧
      ∀ d handle, .obtained d (.ok handle) ∈ later → handle.stream = stream := by
  induction run with
  | nil => exact ⟨fun _ => stores, by simp⟩
  | @snoc later s next event run step ih =>
    obtain ⟨kept, given⟩ := ih
    have consistent := (first.append run).consistent
    constructor
    · intro still
      have before : s.lifecycle.state = .connected := by
        rcases run.settled (.inl connected) with before | closed
        · exact before
        · rw [step.closed_iff.mpr (.inl closed)] at still
          cases still
      rcases step.stream_eq before with same | closed
      · exact same.trans (kept before)
      · rw [still] at closed
        cases closed
    · intro d handle member
      rcases List.mem_append.mp member with earlier | now
      · exact given d handle earlier
      · obtain rfl := List.mem_singleton.mp now
        have own := consistent.stores_of_obtained step
        exact Option.some.inj (own.symm.trans (kept (consistent.connected_of_stores own)))

theorem Run.connectedBetween_of_obtained (run : Run {} events s) {handle : Handle}
    (given : .obtained direction (.ok handle) ∈ events) : ∃ before device later stream,
      events = before ++ .returned device (.ok ()) :: later ∧
        ConnectedBetween before device later s stream := by
  induction run with
  | nil => cases given
  | @snoc events s next event run step ih =>
    have before : ∃ before device later stream,
        events = before ++ .returned device (.ok ()) :: later ∧
          ConnectedBetween before device later s stream := by
      rcases List.mem_append.mp given with earlier | now
      · exact ih earlier
      · obtain rfl := List.mem_singleton.mp now
        have stores := run.consistent.stores_of_obtained step
        obtain ⟨before, device, later, parts, between⟩ := run.connectedBetween_of_stores stores
        exact ⟨before, device, later, handle.stream, parts, between⟩
    obtain ⟨before, device, later, stream, rfl, between⟩ := before
    exact ⟨before, device, later ++ [event], stream, by simp, between.snoc step⟩

/-- Handles are given out after the connection was made, and they are of its stream. -/
theorem ConnectedBetween.handles {before later : List Event} {device : String} {stream : Nat}
    (between : ConnectedBetween before device later s stream) {handle : Handle}
    (given : .obtained direction (.ok handle) ∈ before ++ .returned device (.ok ()) :: later) :
    .obtained direction (.ok handle) ∈ later ∧ handle.stream = stream := by
  obtain ⟨prior, entered, first, entry, enters, stores, onward⟩ := between
  have connecting := entry.connecting_of_enters enters
  have later : .obtained direction (.ok handle) ∈ later := by
    rcases List.mem_append.mp given with early | here
    · rcases first.settled_of_obtained early with connected | closed
      · exact absurd connected enters.1
      · rw [connecting] at closed
        cases closed
    · simpa using here
  exact ⟨later, ((first.snoc entry).stream_of_obtained onward enters.2 stores).2 _ _ later⟩

/-! ## Handles over the whole life -/

/-- In each direction there is one handle for all calls and at most one cloning makes one; a cloning
that fails changes nothing, and while the lifecycle is not closed a later call can have success; and
all handles are of the stream with which the lifecycle became connected. -/
theorem Run.handles_stable (run : Run {} events s) :
    (∀ d first second, .obtained d (.ok first) ∈ events → .obtained d (.ok second) ∈ events →
      first = second) ∧
    (∃ clonings, Clonings events clonings s) ∧
    (∀ clonings, Clonings events clonings s → ∀ d,
      clonings.countP (Cloning.makes d) ≤ 1 ∧
      (clonings.countP (Cloning.makes d) = 1 ↔ ∃ handle, .obtained d (.ok handle) ∈ events)) ∧
    (∀ d e next, Step s (.obtained d (.error (.clone e))) next →
      next = s ∧ s.lifecycle.handle? d = none ∧
      ∀ later t, Run next later t → t.lifecycle.state ≠ .closed →
        ∃ handle, (t.lifecycle.obtain d (.ok ())).1 = .ok handle) ∧
    ((∃ d handle, .obtained d (.ok handle) ∈ events) →
      ∃ before device later stream, events = before ++ .returned device (.ok ()) :: later ∧
        ConnectedBetween before device later s stream ∧
        ∀ d handle, .obtained d (.ok handle) ∈ events →
          .obtained d (.ok handle) ∈ later ∧ handle.stream = stream) := by
  have some := run.clonings
  refine ⟨?_, some, ?_, ?_, ?_⟩
  · intro d first second given given'
    obtain ⟨clonings, h⟩ := some
    cases h.supplied d with
    | none unkept never unmade => exact absurd given (never first)
    | one handle only kept made => rw [(only first).mp given, (only second).mp given']
  · intro clonings h d
    cases h.supplied d with
    | none unkept never unmade => simp [unmade, never]
    | one handle only kept made => simp [made, only]
  · intro d e next step
    obtain ⟨rfl, unkept, connected⟩ := step.unchanged_of_clone_error
    refine ⟨rfl, unkept, ?_⟩
    intro later t onward unclosed
    exact (run.append onward).consistent.exists_obtain
      ((onward.settled (.inl connected)).resolve_right unclosed) d
  · rintro ⟨d, handle, given⟩
    obtain ⟨before, device, later, stream, rfl, between⟩ := run.connectedBetween_of_obtained given
    exact ⟨before, device, later, stream, rfl, between, fun d handle => between.handles⟩

/-- A cloning for reading fails and is tried again; the handle for reading that comes of it is given
out twice, and there is another one for writing. -/
theorem Run.handles_stable_of_retried :
    ∃ s clonings, Run {}
        [.prepared true true, .began 1, .answered 1 (.ok 0), .returned "pump" (.ok ()),
          .obtained .input (.error (.clone .timeout)), .obtained .input (.ok ⟨0, 0⟩),
          .obtained .output (.ok ⟨1, 0⟩), .obtained .input (.ok ⟨0, 0⟩)] s ∧
      Clonings
        [.prepared true true, .began 1, .answered 1 (.ok 0), .returned "pump" (.ok ()),
          .obtained .input (.error (.clone .timeout)), .obtained .input (.ok ⟨0, 0⟩),
          .obtained .output (.ok ⟨1, 0⟩), .obtained .input (.ok ⟨0, 0⟩)] clonings s ∧
      ∀ d, clonings.countP (Cloning.makes d) = 1 := by
  have run := (((Run.established.snoc (.obtain .input (.error .timeout))).snoc
    (.obtain .input (.ok ()))).snoc (.obtain .output (.ok ()))).snoc (.obtain .input (.ok ()))
  obtain ⟨-, ⟨clonings, cloned⟩, once, -⟩ := Run.handles_stable run
  refine ⟨_, clonings, run, cloned, ?_⟩
  intro d
  refine (once clonings cloned d).2.mpr ?_
  cases d with
  | input => exact ⟨⟨0, 0⟩, by simp [obtain, handle?, setHandle]⟩
  | output => exact ⟨⟨1, 0⟩, by simp [obtain, handle?, setHandle]⟩

end RemoteDevice.Lifecycle
