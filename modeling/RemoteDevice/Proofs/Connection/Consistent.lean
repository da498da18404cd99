import RemoteDevice.Proofs.Connection.Lifecycle
import RemoteDevice.Proofs.Connection.Shared

/-!
# What every run of a shared lifecycle keeps

`Consistent` ties the state, the generation, the stream and the handles of a lifecycle to the
attempts that are under way and to the fate of the streams. Each step keeps it (`Step.consistent`),
and so does each run from the start (`Run.consistent`).
-/
set_option autoImplicit false

namespace RemoteDevice.Lifecycle

structure Consistent (s : Shared) : Prop where
  attempts_le : s.attempts.length ≤ 1
  /-- Only closing can overtake an attempt. -/
  state_of_attempt : ∀ attempt ∈ s.attempts,
    s.lifecycle.state = .connecting ∨ s.lifecycle.state = .closed
  connecting_iff : s.lifecycle.state = .connecting ↔
    ∃ attempt ∈ s.attempts, attempt.ticket = s.lifecycle.generation
  connected_iff : s.lifecycle.state = .connected ↔ s.lifecycle.stream.isSome = true
  stream_of_handle : ∀ direction handle, s.lifecycle.handle? direction = some handle →
    s.Stores handle.stream
  prompt_of_stores : ∀ stream, s.Stores stream → stream ∈ s.prompt
  opened_of_holds : ∀ stream, s.Holds stream → stream ∈ s.opened
  opened_of_stores : ∀ stream, s.Stores stream → stream ∈ s.opened
  /-- What was opened and is neither held nor stored has been shut down, and nothing else has. -/
  shutDown_iff : ∀ stream, stream ∈ s.shutDown ↔
    stream ∈ s.opened ∧ ¬ s.Holds stream ∧ ¬ s.Stores stream

namespace Shared

variable {s : Shared}

theorem holds_iff {attempt : Attempt} (only : s.attempts = [attempt]) {stream : Nat} :
    s.Holds stream ↔ attempt.answer = some (.ok stream) := by
  simp [Holds, only]

theorem not_holds (none : s.attempts = []) (stream : Nat) : ¬ s.Holds stream := by
  simp [Holds, none]

theorem not_stores (none : s.lifecycle.stream = .none) (stream : Nat) : ¬ s.Stores stream := by
  simp [Stores, none]

end Shared

namespace Consistent

variable {s : Shared}

theorem initial : Consistent {} where
  attempts_le := by simp
  state_of_attempt := by simp
  connecting_iff := by simp
  connected_iff := by simp
  stream_of_handle := by intro direction handle kept; cases direction <;> cases kept
  prompt_of_stores := by simp [Shared.Stores]
  opened_of_holds := by simp [Shared.Holds]
  opened_of_stores := by simp [Shared.Stores]
  shutDown_iff := by simp

theorem alone (h : Consistent s) {before after : List Attempt} {attempt : Attempt}
    (underWay : s.attempts = before ++ attempt :: after) : before = [] ∧ after = [] := by
  have le := h.attempts_le
  simp only [underWay, List.length_append, List.length_cons] at le
  exact ⟨List.length_eq_zero_iff.mp (by omega), List.length_eq_zero_iff.mp (by omega)⟩

theorem attempts_eq_nil (h : Consistent s) (idle : s.lifecycle.state ≠ .connecting)
    (unclosed : s.lifecycle.state ≠ .closed) : s.attempts = [] := by
  rw [List.eq_nil_iff_forall_not_mem]
  intro attempt member
  exact (h.state_of_attempt attempt member).elim idle unclosed

theorem stream_eq_none (h : Consistent s) (unconnected : s.lifecycle.state ≠ .connected) :
    s.lifecycle.stream = none := by
  rw [← Option.not_isSome_iff_eq_none, ← h.connected_iff]
  exact unconnected

theorem handle_eq_none (h : Consistent s) (unconnected : s.lifecycle.state ≠ .connected)
    (direction : Direction) : s.lifecycle.handle? direction = none := by
  rw [Option.eq_none_iff_forall_ne_some]
  intro handle kept
  have stored := h.stream_of_handle direction handle kept
  rw [Shared.Stores, h.stream_eq_none unconnected] at stored
  cases stored

theorem connected_of_stores (h : Consistent s) {stream : Nat} (stored : s.Stores stream) :
    s.lifecycle.state = .connected := by
  rw [Shared.Stores] at stored
  exact h.connected_iff.mpr (by simp [stored])

theorem not_holds_of_stores (h : Consistent s) {stored : Nat} (stores : s.Stores stored)
    (stream : Nat) : ¬ s.Holds stream := by
  have connected := h.connected_of_stores stores
  apply Shared.not_holds
  apply h.attempts_eq_nil <;> simp [connected]

theorem eq_of_holds (h : Consistent s) {first second : Nat} (held : s.Holds first)
    (held' : s.Holds second) : first = second := by
  obtain ⟨attempt, member, answered⟩ := held
  obtain ⟨before, after, underWay⟩ := List.append_of_mem member
  obtain ⟨rfl, rfl⟩ := h.alone underWay
  rw [Shared.holds_iff underWay, answered] at held'
  simpa using held'

theorem holds_or_stores (h : Consistent s) {stream : Nat} (opened : stream ∈ s.opened)
    (unshut : stream ∉ s.shutDown) : s.Holds stream ∨ s.Stores stream := by
  by_cases held : s.Holds stream
  · exact .inl held
  · by_cases stored : s.Stores stream
    · exact .inr stored
    · exact absurd ((h.shutDown_iff stream).mpr ⟨opened, held, stored⟩) unshut

/-- At most one stream is open: one attempt is under way, or else one stream is stored. -/
theorem eq_of_open (h : Consistent s) {first second : Nat} (opened : first ∈ s.opened)
    (opened' : second ∈ s.opened) (unshut : first ∉ s.shutDown) (unshut' : second ∉ s.shutDown) :
    first = second := by
  rcases h.holds_or_stores opened unshut with held | stored <;>
    rcases h.holds_or_stores opened' unshut' with held' | stored'
  · exact h.eq_of_holds held held'
  · exact absurd held (h.not_holds_of_stores stored' first)
  · exact absurd held' (h.not_holds_of_stores stored second)
  · exact Option.some.inj (stored.symm.trans stored')

theorem awaits_iff_open (h : Consistent s) {attempt : Attempt} (only : s.attempts = [attempt]) :
    s.lifecycle.awaits attempt.ticket = true ↔ s.lifecycle.state ≠ .closed := by
  rw [awaits_iff]
  constructor
  · rintro ⟨-, connecting⟩ closed
    rw [connecting] at closed
    cases closed
  · intro unclosed
    have connecting : s.lifecycle.state = .connecting :=
      (h.state_of_attempt attempt (by simp [only])).resolve_right unclosed
    obtain ⟨other, member, current⟩ := h.connecting_iff.mp connecting
    rw [only, List.mem_singleton] at member
    exact ⟨by rw [← current, member], connecting⟩

/-! ## One step -/

theorem or_other_iff {given stream : Nat} {opened : List Nat} (member : given ∈ opened) :
    stream = given ∨ stream ∈ opened ∧ ¬ given = stream ↔ stream ∈ opened := by
  constructor
  · rintro (same | ⟨other, -⟩)
    · exact same ▸ member
    · exact other
  · intro other
    by_cases same : stream = given
    · exact .inl same
    · exact .inr ⟨other, fun back => same back.symm⟩

/-- What has to be shown of a lifecycle that has neither a stream nor handles. -/
theorem of_bare (unconnected : s.lifecycle.state ≠ .connected) (bare : s.lifecycle.stream = none)
    (handles : ∀ direction, s.lifecycle.handle? direction = none)
    (attempts_le : s.attempts.length ≤ 1)
    (state_of_attempt : ∀ attempt ∈ s.attempts,
      s.lifecycle.state = .connecting ∨ s.lifecycle.state = .closed)
    (connecting_iff : s.lifecycle.state = .connecting ↔
      ∃ attempt ∈ s.attempts, attempt.ticket = s.lifecycle.generation)
    (opened_of_holds : ∀ stream, s.Holds stream → stream ∈ s.opened)
    (shutDown_iff : ∀ stream, stream ∈ s.shutDown ↔ stream ∈ s.opened ∧ ¬ s.Holds stream) :
    Consistent s where
  attempts_le := attempts_le
  state_of_attempt := state_of_attempt
  connecting_iff := connecting_iff
  connected_iff := by simp [unconnected, bare]
  stream_of_handle := by
    intro direction handle kept
    rw [handles direction] at kept
    cases kept
  prompt_of_stores := fun stream stored => absurd stored (Shared.not_stores bare stream)
  opened_of_holds := opened_of_holds
  opened_of_stores := fun stream stored => absurd stored (Shared.not_stores bare stream)
  shutDown_iff := by
    intro stream
    rw [shutDown_iff stream]
    simp [Shared.not_stores bare stream]

theorem of_idle (unconnected : s.lifecycle.state ≠ .connected) (bare : s.lifecycle.stream = none)
    (handles : ∀ direction, s.lifecycle.handle? direction = none)
    (unconnecting : s.lifecycle.state ≠ .connecting) (idle : s.attempts = [])
    (shutDown_iff : ∀ stream, stream ∈ s.shutDown ↔ stream ∈ s.opened) : Consistent s := by
  apply of_bare unconnected bare handles
  · simp [idle]
  · simp [idle]
  · simp [idle, unconnecting]
  · intro stream held
    exact absurd held (Shared.not_holds idle stream)
  · intro stream
    rw [shutDown_iff stream]
    simp [Shared.not_holds idle stream]

theorem prepare (h : Consistent s) (available : Bool) :
    Consistent { s with lifecycle := (s.lifecycle.prepare available).2 } := by
  rcases prepare_next s.lifecycle available with same | ⟨state, next⟩
  · rw [same]
    exact h
  · have unconnected : s.lifecycle.state ≠ .connected := by rcases state with h | h <;> simp [h]
    have idle : s.attempts = [] := by
      apply h.attempts_eq_nil <;> rcases state with h | h <;> simp [h]
    have bare := h.stream_eq_none unconnected
    rw [next]
    apply of_idle
    · simp
    · exact bare
    · exact h.handle_eq_none unconnected
    · simp
    · exact idle
    · intro stream
      rw [h.shutDown_iff stream]
      simp [Shared.not_holds idle stream, Shared.not_stores bare stream]

theorem begin (h : Consistent s) (device : String) {ticket : UInt64} {next : Lifecycle}
    (begun : s.lifecycle.beginConnect = .ok (ticket, next)) :
    Consistent
      { s with lifecycle := next, attempts := { device, ticket } :: s.attempts } := by
  obtain ⟨prepared, rfl, rfl⟩ := beginConnect_ok begun
  have unconnected : s.lifecycle.state ≠ .connected := by simp [prepared]
  have idle : s.attempts = [] := by apply h.attempts_eq_nil <;> simp [prepared]
  have bare := h.stream_eq_none unconnected
  apply of_bare
  · simp
  · exact bare
  · exact h.handle_eq_none unconnected
  · simp [idle]
  · simp
  · simp
  · intro stream held
    simp [Shared.Holds, idle] at held
  · intro stream
    rw [h.shutDown_iff stream]
    simp [Shared.Holds, idle, Shared.not_stores bare stream]

theorem answer (h : Consistent s) {before after : List Attempt} {attempt : Attempt}
    (answer : Except TransportError Nat) (underWay : s.attempts = before ++ attempt :: after)
    (waiting : attempt.answer = none) (fresh : ∀ stream, answer = .ok stream → stream ∉ s.opened) :
    Consistent
      { s with
        attempts := before ++ { attempt with answer := some answer } :: after
        opened := answer.toOption.toList ++ s.opened } := by
  obtain ⟨rfl, rfl⟩ := h.alone underWay
  simp only [List.nil_append] at underWay ⊢
  have unheld : ∀ stream, ¬ s.Holds stream := by
    intro stream held
    rw [Shared.holds_iff underWay, waiting] at held
    cases held
  have state := h.state_of_attempt attempt (by simp [underWay])
  have current := h.connecting_iff
  rw [underWay] at current
  refine ⟨by simp, by simpa using state, by simpa using current, h.connected_iff,
    h.stream_of_handle, h.prompt_of_stores, ?_, ?_, ?_⟩
  · intro stream held
    simp only [Shared.Holds, List.mem_singleton, exists_eq_left, Option.some.injEq] at held
    simp [held, Except.toOption]
  · intro stream stored
    exact List.mem_append_right _ (h.opened_of_stores stream stored)
  · intro stream
    have before := h.shutDown_iff stream
    simp only [unheld stream, not_false_eq_true, true_and] at before
    cases answer with
    | error e => simpa [Shared.Holds, Shared.Stores, Except.toOption] using before
    | ok given =>
      have unopened := fresh given rfl
      simp only [before, Shared.Holds, Shared.Stores, List.mem_singleton, exists_eq_left,
        Option.some.injEq, Except.ok.injEq, Except.toOption, Option.toList_some, List.mem_append]
      constructor
      · rintro ⟨opened, unstored⟩
        exact ⟨.inr opened, fun same => unopened (same ▸ opened), unstored⟩
      · rintro ⟨opened, other, unstored⟩
        exact ⟨opened.resolve_left fun same => other same.symm, unstored⟩

theorem shutDown_iff_of_answered (h : Consistent s) {attempt : Attempt}
    {answer : Except TransportError Nat} (only : s.attempts = [attempt])
    (answered : attempt.answer = some answer) (unconnected : s.lifecycle.state ≠ .connected)
    (stream : Nat) : stream ∈ s.shutDown ↔ stream ∈ s.opened ∧ answer ≠ .ok stream := by
  rw [h.shutDown_iff stream, Shared.holds_iff only, answered]
  simp [Shared.not_stores (h.stream_eq_none unconnected) stream]

/-- Shutting down what came out of the only attempt leaves nothing open. -/
theorem shutDown_answer_iff (h : Consistent s) {attempt : Attempt}
    {answer : Except TransportError Nat} (only : s.attempts = [attempt])
    (answered : attempt.answer = some answer) (unconnected : s.lifecycle.state ≠ .connected)
    (stream : Nat) : stream ∈ answer.toOption.toList ++ s.shutDown ↔ stream ∈ s.opened := by
  have fate := h.shutDown_iff_of_answered only answered unconnected stream
  cases answer with
  | error e => simpa [Except.toOption] using fate
  | ok given =>
    have opened := h.opened_of_holds given ((Shared.holds_iff only).mpr answered)
    simp only [Except.toOption, Option.toList_some, List.mem_append, List.mem_singleton, fate, ne_eq,
      Except.ok.injEq]
    exact or_other_iff opened

theorem finish_stale (h : Consistent s) {attempt : Attempt} {answer : Except TransportError Nat}
    (noDelay : Except TransportError Unit) (only : s.attempts = [attempt])
    (answered : attempt.answer = some answer) (closed : s.lifecycle.state = .closed) :
    Consistent
      { s with
        attempts := []
        prompt := match noDelay with
          | .ok _ => (s.lifecycle.incoming attempt.ticket answer).toList ++ s.prompt
          | .error _ => s.prompt
        shutDown := answer.toOption.toList ++ s.shutDown } := by
  have unconnected : s.lifecycle.state ≠ .connected := by simp [closed]
  have bare := h.stream_eq_none unconnected
  apply of_idle
  · exact unconnected
  · exact bare
  · exact h.handle_eq_none unconnected
  · simp [closed]
  · rfl
  · exact h.shutDown_answer_iff only answered unconnected

theorem finish (h : Consistent s) {before after : List Attempt} {attempt : Attempt}
    {answer : Except TransportError Nat} (noDelay : Except TransportError Unit)
    (underWay : s.attempts = before ++ attempt :: after)
    (answered : attempt.answer = some answer) :
    Consistent
      { s with
        lifecycle := (s.lifecycle.finishConnect attempt.ticket answer noDelay).next
        attempts := before ++ after
        prompt := match noDelay with
          | .ok _ => (s.lifecycle.incoming attempt.ticket answer).toList ++ s.prompt
          | .error _ => s.prompt
        shutDown :=
          (s.lifecycle.finishConnect attempt.ticket answer noDelay).discarded.toList ++
            s.shutDown } := by
  obtain ⟨rfl, rfl⟩ := h.alone underWay
  simp only [List.nil_append] at underWay ⊢
  -- Only a closing makes an attempt stale, so the state tells which way it ends.
  by_cases closed : s.lifecycle.state = .closed
  · have stale : s.lifecycle.awaits attempt.ticket = false := by
      rw [← Bool.not_eq_true, h.awaits_iff_open underWay]
      exact fun unclosed => unclosed closed
    rw [finishConnect_stale stale]
    exact h.finish_stale noDelay underWay answered closed
  · have awaited := (h.awaits_iff_open underWay).mpr closed
    have unconnected : s.lifecycle.state ≠ .connected := by simp [(awaits_iff.mp awaited).2]
    have bare := h.stream_eq_none unconnected
    have handles := h.handle_eq_none unconnected
    have released := h.shutDown_answer_iff underWay answered unconnected
    cases answer with
    | error e =>
      rw [finishConnect_refused awaited]
      apply of_idle
      · simp
      · exact bare
      · exact handles
      · simp
      · rfl
      · exact released
    | ok given =>
      cases noDelay with
      | error e =>
        rw [finishConnect_slow awaited]
        apply of_idle
        · simp
        · exact bare
        · exact handles
        · simp
        · rfl
        · exact released
      | ok done =>
        rw [finishConnect_ok awaited]
        have stored : ∀ stream, some given = some stream ↔ given = stream := by simp
        refine ⟨by simp, by simp, by simp, by simp, ?_, ?_, ?_, ?_, ?_⟩
        · intro direction handle kept
          have none := handles direction
          cases direction <;> simp_all [handle?]
        · intro stream same
          simp only [Shared.Stores, stored] at same
          simp [incoming, awaited, same, Except.toOption]
        · intro stream held
          exact absurd held (Shared.not_holds rfl stream)
        · intro stream same
          simp only [Shared.Stores, stored] at same
          exact h.opened_of_holds stream ((Shared.holds_iff underWay).mpr (same ▸ answered))
        · intro stream
          simpa [Shared.Holds, Shared.Stores] using
            h.shutDown_iff_of_answered underWay answered unconnected stream

theorem obtain (h : Consistent s) (direction : Direction) (cloned : Except TransportError Unit) :
    Consistent { s with lifecycle := (s.lifecycle.obtain direction cloned).2 } := by
  rcases obtain_next s.lifecycle direction cloned with same | ⟨stream, connected, stored, next⟩
  · rw [same]
    exact h
  · rw [next]
    refine ⟨h.attempts_le, ?_, ?_, ?_, ?_, ?_, h.opened_of_holds, ?_, ?_⟩
    · simpa using h.state_of_attempt
    · simpa using h.connecting_iff
    · simpa using h.connected_iff
    · intro other handle kept
      simp only [handle?_setHandle] at kept
      simp only [Shared.Stores, stream_setHandle, stored]
      split at kept
      next => cases kept; rfl
      next =>
        have before := h.stream_of_handle other handle (by cases other <;> exact kept)
        rw [Shared.Stores, stored] at before
        exact before
    · simpa [Shared.Stores] using h.prompt_of_stores
    · simpa [Shared.Stores] using h.opened_of_stores
    · simpa [Shared.Stores, Shared.Holds] using h.shutDown_iff

theorem close (h : Consistent s) :
    Consistent
      { s with
        lifecycle := s.lifecycle.close.next
        shutDown := s.lifecycle.close.discarded.toList ++ s.shutDown } := by
  by_cases closed : s.lifecycle.state = .closed
  · rw [close_closed closed]
    exact h
  · rw [close_open closed]
    apply of_bare
    · simp
    · rfl
    · intro direction
      cases direction <;> rfl
    · exact h.attempts_le
    · simp
    · simp only [reduceCtorEq, false_iff, not_exists, not_and]
      intro attempt member moved
      -- The attempt holds the ticket of the generation that closing leaves behind.
      obtain ⟨before, after, underWay⟩ := List.append_of_mem member
      obtain ⟨rfl, rfl⟩ := h.alone underWay
      have current := (awaits_iff.mp ((h.awaits_iff_open underWay).mpr closed)).1
      rw [← current] at moved
      simp at moved
    · exact h.opened_of_holds
    · intro stream
      have before := h.shutDown_iff stream
      cases stored : s.lifecycle.stream with
      | none => simpa [Shared.not_stores stored stream, Shared.Holds] using before
      | some given =>
        have connected : s.lifecycle.state = .connected := h.connected_iff.mpr (by simp [stored])
        have idle : s.attempts = [] := by apply h.attempts_eq_nil <;> simp [connected]
        simp only [Shared.not_holds idle stream, Shared.Stores, stored, Option.some.injEq,
          not_false_eq_true, true_and] at before
        simp only [Option.toList_some, List.mem_append, List.mem_singleton, before, Shared.Holds,
          idle, List.not_mem_nil, false_and, exists_false, not_false_eq_true, and_true]
        exact or_other_iff (h.opened_of_stores given stored)

end Consistent

theorem Step.consistent {s next : Shared} {event : Event} (step : Step s event next)
    (h : Consistent s) : Consistent next := by
  cases step with
  | prepare available => exact h.prepare available
  | refuse device refused => exact h
  | begin device begun => exact h.begin device begun
  | answer answer underWay waiting fresh => exact h.answer answer underWay waiting fresh
  | finish noDelay underWay answered => exact h.finish noDelay underWay answered
  | obtain direction cloned => exact h.obtain direction cloned
  | close => exact h.close

theorem Run.consistent {events : List Event} {s : Shared} (run : Run {} events s) :
    Consistent s := by
  induction run with
  | nil => exact Consistent.initial
  | snoc run step ih => exact step.consistent ih

/-! ## Closing -/

/-- Closing closes, and nothing else does or undoes it. -/
theorem Step.closed_iff {s next : Shared} {event : Event} (step : Step s event next) :
    next.lifecycle.state = .closed ↔
      s.lifecycle.state = .closed ∨ ∃ closedNow, event = .closed closedNow := by
  cases step with
  | prepare available =>
    rcases prepare_next s.lifecycle available with same | ⟨state, next⟩
    · simp [same]
    · rcases state with h | h <;> simp [next, h]
  | refuse device refused => simp
  | begin device begun =>
    obtain ⟨prepared, rfl, rfl⟩ := beginConnect_ok begun
    simp [prepared]
  | answer answer underWay waiting fresh => simp
  | @finish before after attempt answer noDelay underWay answered =>
    rcases finishConnect_cases s.lifecycle attempt.ticket answer noDelay with
      ⟨-, stale⟩ | ⟨awaited, fault, -, -, next⟩ | ⟨awaited, stream, -, -, finished⟩
    · simp [stale]
    · simp [next, (awaits_iff.mp awaited).2]
    · simp [finished, (awaits_iff.mp awaited).2]
  | obtain direction cloned =>
    rcases obtain_next s.lifecycle direction cloned with same | ⟨stream, -, -, next⟩
    · simp [same]
    · simp [next]
  | close =>
    by_cases closed : s.lifecycle.state = .closed
    · simp [close_closed closed, closed]
    · simp [close_open closed]

theorem Run.closed_iff {events : List Event} {s : Shared} (run : Run {} events s) :
    s.lifecycle.state = .closed ↔ ∃ closedNow, .closed closedNow ∈ events := by
  induction run with
  | nil => simp
  | snoc run step ih =>
    rw [step.closed_iff, ih]
    simp only [List.mem_append, List.mem_singleton, exists_or, eq_comm]

end RemoteDevice.Lifecycle
