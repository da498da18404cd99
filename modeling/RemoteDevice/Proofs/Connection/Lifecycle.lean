import RemoteDevice.Connection.Lifecycle

/-!
# What each step of a lifecycle can come to

One statement for each way in which a step can go. Nothing that is proved about runs opens the
definitions of the steps themselves.
-/
set_option autoImplicit false

namespace RemoteDevice.Lifecycle

theorem awaits_iff {l : Lifecycle} {ticket : UInt64} :
    l.awaits ticket = true ↔ l.generation = ticket ∧ l.state = .connecting := by
  simp [awaits]

theorem prepare_next (l : Lifecycle) (available : Bool) :
    (l.prepare available).2 = l ∨
      (l.state = .new ∨ l.state = .prepared) ∧
        (l.prepare available).2 = { l with state := .prepared } := by
  cases state : l.state <;> cases available <;> simp [prepare, state]

theorem prepare_moved {l : Lifecycle} {available : Bool}
    (moved : (l.prepare available).2.state ≠ l.state) :
    available = true ∧ (l.prepare available).1 = true := by
  cases state : l.state <;> cases available <;> simp_all [prepare]

theorem prepare_closed {l : Lifecycle} (closed : l.state = .closed) (available : Bool) :
    l.prepare available = (false, l) := by
  simp [prepare, closed]

theorem prepare_settled {l : Lifecycle} (settled : l.state = .connected ∨ l.state = .closed)
    (available : Bool) : (l.prepare available).2 = l := by
  rcases settled with connected | closed
  · simp [prepare, connected]
  · rw [prepare_closed closed]

theorem beginConnect_ok {l next : Lifecycle} {ticket : UInt64}
    (begun : l.beginConnect = .ok (ticket, next)) :
    l.state = .prepared ∧ ticket = l.generation + 1 ∧
      next = { l with state := .connecting, generation := l.generation + 1 } := by
  simp only [beginConnect] at begun
  split at begun
  next prepared =>
    simp only [Except.ok.injEq, Prod.mk.injEq] at begun
    exact ⟨prepared, begun.1.symm, begun.2.symm⟩
  next => cases begun

theorem beginConnect_error {l : Lifecycle} {e : ConnectionError}
    (refused : l.beginConnect = .error e) :
    l.state ≠ .prepared ∧ e = .invalidState l.state "connect" := by
  simp only [beginConnect] at refused
  split at refused
  next => cases refused
  next unprepared =>
    simp only [Except.error.injEq] at refused
    exact ⟨unprepared, refused.symm⟩

theorem finishConnect_stale {l : Lifecycle} {ticket : UInt64} (stale : l.awaits ticket = false)
    (answer : Except TransportError Nat) (noDelay : Except TransportError Unit) :
    l.finishConnect ticket answer noDelay =
      ⟨.error .closedMeanwhile, answer.toOption, l⟩ := by
  simp [finishConnect, stale]

theorem finishConnect_refused {l : Lifecycle} {ticket : UInt64} (awaited : l.awaits ticket = true)
    (e : TransportError) (noDelay : Except TransportError Unit) :
    l.finishConnect ticket (.error e) noDelay =
      ⟨.error (.transport e), none, { l with state := .prepared }⟩ := by
  simp [finishConnect, awaited]

theorem finishConnect_slow {l : Lifecycle} {ticket : UInt64} (awaited : l.awaits ticket = true)
    (stream : Nat) (e : TransportError) :
    l.finishConnect ticket (.ok stream) (.error e) =
      ⟨.error (.latency e), some stream, { l with state := .prepared }⟩ := by
  simp [finishConnect, awaited]

theorem finishConnect_ok {l : Lifecycle} {ticket : UInt64} (awaited : l.awaits ticket = true)
    (stream : Nat) :
    l.finishConnect ticket (.ok stream) (.ok ()) =
      ⟨.ok (), none, { l with state := .connected, stream := some stream }⟩ := by
  simp [finishConnect, awaited]

/-- An attempt is stale, or it fails for a reason of its own and can be repeated, or it connects. -/
theorem finishConnect_cases (l : Lifecycle) (ticket : UInt64) (answer : Except TransportError Nat)
    (noDelay : Except TransportError Unit) :
    l.awaits ticket = false ∧
        l.finishConnect ticket answer noDelay =
          ⟨.error .closedMeanwhile, answer.toOption, l⟩ ∨
      (l.awaits ticket = true ∧ ∃ fault, fault ≠ .closedMeanwhile ∧
        (l.finishConnect ticket answer noDelay).result = .error fault ∧
        (l.finishConnect ticket answer noDelay).next = { l with state := .prepared }) ∨
      l.awaits ticket = true ∧ ∃ stream, answer = .ok stream ∧ noDelay = .ok () ∧
        l.finishConnect ticket answer noDelay =
          ⟨.ok (), none, { l with state := .connected, stream := some stream }⟩ := by
  cases awaited : l.awaits ticket with
  | false => exact .inl ⟨rfl, finishConnect_stale awaited answer noDelay⟩
  | true =>
    right
    cases answer with
    | error e =>
      refine .inl ⟨rfl, .transport e, by simp, ?_, ?_⟩ <;>
        rw [finishConnect_refused awaited]
    | ok stream =>
      cases noDelay with
      | error e =>
        refine .inl ⟨rfl, .latency e, by simp, ?_, ?_⟩ <;>
          rw [finishConnect_slow awaited]
      | ok done => exact .inr ⟨rfl, stream, rfl, rfl, finishConnect_ok awaited stream⟩

theorem incoming_eq_some_iff {l : Lifecycle} {ticket : UInt64}
    {answer : Except TransportError Nat} {stream : Nat} :
    l.incoming ticket answer = some stream ↔ l.awaits ticket = true ∧ answer = .ok stream := by
  cases answer <;> simp [incoming, Except.toOption]

theorem answer_of_discarded {l : Lifecycle} {ticket : UInt64} {answer : Except TransportError Nat}
    {noDelay : Except TransportError Unit} {stream : Nat}
    (discarded : (l.finishConnect ticket answer noDelay).discarded = some stream) :
    answer = .ok stream := by
  cases awaited : l.awaits ticket <;> cases answer <;> cases noDelay <;>
    simp_all [finishConnect, Except.toOption]

theorem handle?_setHandle (l : Lifecycle) (h : Handle) (d direction : Direction) :
    (l.setHandle h d).handle? direction =
      if direction = d then some h else l.handle? direction := by
  cases d <;> cases direction <;> rfl

@[simp] theorem state_setHandle (l : Lifecycle) (h : Handle) (d : Direction) :
    (l.setHandle h d).state = l.state := by
  cases d <;> rfl

@[simp] theorem generation_setHandle (l : Lifecycle) (h : Handle) (d : Direction) :
    (l.setHandle h d).generation = l.generation := by
  cases d <;> rfl

@[simp] theorem stream_setHandle (l : Lifecycle) (h : Handle) (d : Direction) :
    (l.setHandle h d).stream = l.stream := by
  cases d <;> rfl

/-- Obtaining a handle either changes nothing or keeps a handle made for the stream of a connected
lifecycle. -/
theorem obtain_next (l : Lifecycle) (d : Direction) (cloned : Except TransportError Unit) :
    (l.obtain d cloned).2 = l ∨
      ∃ stream, l.state = .connected ∧ l.stream = some stream ∧
        (l.obtain d cloned).2 =
          { l with handles := l.handles + 1 }.setHandle ⟨l.handles, stream⟩ d := by
  simp only [obtain]
  split
  · exact .inl rfl
  · split
    next => exact .inl rfl
    next stream _ state stored => exact .inr ⟨stream, state, stored, rfl⟩
    next => exact .inl rfl

theorem obtain_ok {l : Lifecycle} {d : Direction} {cloned : Except TransportError Unit} {h : Handle}
    (given : (l.obtain d cloned).1 = .ok h) :
    l.handle? d = some h ∨ l.state = .connected := by
  simp only [obtain] at given
  split at given
  next kept found =>
    simp only [Except.ok.injEq] at given
    exact .inl (given ▸ found)
  next =>
    split at given
    next => cases given
    next state _ => exact .inr state
    next => cases given

theorem obtain_kept {l : Lifecycle} {d : Direction} {h : Handle} (kept : l.handle? d = some h)
    (cloned : Except TransportError Unit) : l.obtain d cloned = (.ok h, l) := by
  simp only [obtain, kept]

theorem obtain_made {l : Lifecycle} {d : Direction} {stream : Nat} (none : l.handle? d = none)
    (connected : l.state = .connected) (stored : l.stream = some stream) :
    l.obtain d (.ok ()) =
      (.ok ⟨l.handles, stream⟩,
        { l with handles := l.handles + 1 }.setHandle ⟨l.handles, stream⟩ d) := by
  simp only [obtain, none, connected, stored]

theorem obtain_uncloned {l : Lifecycle} {d : Direction} {stream : Nat} (none : l.handle? d = none)
    (connected : l.state = .connected) (stored : l.stream = some stream) (e : TransportError) :
    l.obtain d (.error e) = (.error (.clone e), l) := by
  simp only [obtain, none, connected, stored]

theorem obtain_unconnected {l : Lifecycle} {d : Direction} (none : l.handle? d = none)
    (unconnected : l.state ≠ .connected) (cloned : Except TransportError Unit) :
    (l.obtain d cloned).1 = .error .notConnected := by
  simp only [obtain, none]
  split
  next state _ => exact absurd state unconnected
  next state _ => exact absurd state unconnected
  next => rfl

theorem close_closed {l : Lifecycle} (closed : l.state = .closed) :
    l.close = ⟨false, none, l⟩ := by
  simp [close, closed]

theorem close_open {l : Lifecycle} (unclosed : l.state ≠ .closed) :
    l.close =
      ⟨true, l.stream,
        { l with
          state := .closed
          generation := l.generation + 1
          stream := none
          input := none
          output := none }⟩ := by
  simp [close, unclosed]

theorem stored_of_discarded {l : Lifecycle} {stream : Nat}
    (discarded : l.close.discarded = some stream) : l.stream = some stream := by
  by_cases closed : l.state = .closed
  · simp [close_closed closed] at discarded
  · simpa [close_open closed] using discarded

end RemoteDevice.Lifecycle
