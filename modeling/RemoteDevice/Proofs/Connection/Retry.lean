import RemoteDevice.Proofs.Connection.Streams

/-!
# Trying again after a failed connect

A failed connect that may be tried again leaves the lifecycle prepared, so that the next attempt is
let in, unless the lifecycle was closed under it; then the error still says that another attempt is
possible, although it is refused.
-/
set_option autoImplicit false

namespace RemoteDevice.Lifecycle

theorem beginConnect_iff {l : Lifecycle} :
    (∃ begun, l.beginConnect = .ok begun) ↔ l.state = .prepared := by
  constructor
  · rintro ⟨⟨ticket, next⟩, begun⟩
    exact (beginConnect_ok begun).1
  · intro prepared
    exact ⟨_, by rw [beginConnect, if_pos prepared]⟩

/-- A connect fails in its first step and changes nothing, or in its second step because of a
transport and leaves the lifecycle prepared, or there because of a closing, which stands. -/
theorem Consistent.returned_error {s next : Shared} (h : Consistent s) {device : String}
    {e : ConnectionError} (step : Step s (.returned device (.error e)) next) :
    e.isRetryable = false ∧ next.lifecycle = s.lifecycle ∨
      e.isRetryable = true ∧ s.lifecycle.state ≠ .closed ∧ next.lifecycle.state = .prepared ∨
      e.isRetryable = true ∧ s.lifecycle.state = .closed ∧ next.lifecycle = s.lifecycle := by
  generalize seen : Event.returned device (.error e) = event at step
  cases step with
  | refuse device refused =>
    simp only [Event.returned.injEq, Except.error.injEq] at seen
    obtain ⟨-, rfl⟩ := seen
    obtain ⟨-, rfl⟩ := beginConnect_error refused
    exact .inl ⟨rfl, rfl⟩
  | @finish before after attempt answer noDelay underWay answered =>
    obtain ⟨rfl, rfl⟩ := h.alone underWay
    have only : s.attempts = [attempt] := underWay
    simp only [Event.returned.injEq, Finish.outcome] at seen
    obtain ⟨-, failed⟩ := seen
    rcases finishConnect_cases s.lifecycle attempt.ticket answer noDelay with
      ⟨unawaited, stale⟩ | ⟨awaited, fault, -, result, prepared⟩ | ⟨-, stream, -, -, connected⟩
    · rw [← Bool.not_eq_true, h.awaits_iff_open only] at unawaited
      have closed := Decidable.not_not.mp unawaited
      rw [stale] at failed ⊢
      cases failed
      exact .inr (.inr ⟨rfl, closed, rfl⟩)
    · rw [result] at failed
      cases failed
      exact .inr (.inl ⟨rfl, (h.awaits_iff_open only).mp awaited, by rw [prepared]⟩)
    · rw [connected] at failed
      cases failed
  | _ => cases seen

/-- After a failure that may be tried again the lifecycle is prepared and lets the next attempt in
if and only if no closing has run. Any other failure changes nothing. -/
theorem Run.state_of_failed_connect {events : List Event} {s next : Shared} {device : String}
    {e : ConnectionError} (run : Run {} events s)
    (step : Step s (.returned device (.error e)) next) :
    (e.isRetryable = true →
      (next.lifecycle.state = .prepared ↔ ¬ ∃ closedNow, .closed closedNow ∈ events) ∧
      ((∃ begun, next.lifecycle.beginConnect = .ok begun) ↔
        ¬ ∃ closedNow, .closed closedNow ∈ events) ∧
      (next.lifecycle.state = .closed ↔ ∃ closedNow, .closed closedNow ∈ events)) ∧
    (e.isRetryable = false → next.lifecycle = s.lifecycle) := by
  rw [← run.closed_iff, beginConnect_iff]
  rcases run.consistent.returned_error step with
    ⟨final, same⟩ | ⟨retryable, unclosed, prepared⟩ | ⟨retryable, closed, same⟩
  · simp [final, same]
  · simp [retryable, unclosed, prepared]
  · simp [retryable, closed, same]

theorem Run.state_of_timed_out_connect :
    ∃ s next e,
      Run {} [.prepared true true, .began 1, .answered 1 (.error .timeout)] s ∧
      Step s (.returned "pump" (.error e)) next ∧ e.isRetryable = true ∧
      next.lifecycle.state = .prepared := by
  have run : Run {} [.prepared true true, .began 1, .answered 1 (.error .timeout)]
      { lifecycle := { state := .connecting, generation := 1 }
        attempts := [{ device := "pump", ticket := 1, answer := some (.error .timeout) }] } :=
    Run.connecting.snoc
      (@Step.answer _ [] [] { device := "pump", ticket := 1 } (.error .timeout) rfl rfl
        (fun _ given => nomatch given))
  have step : Step
      { lifecycle := { state := .connecting, generation := 1 }
        attempts := [{ device := "pump", ticket := 1, answer := some (.error .timeout) }] }
      (.returned "pump" (.error (.failed "pump" (.transport .timeout))))
      { lifecycle := { state := .prepared, generation := 1 } } :=
    @Step.finish _ [] [] { device := "pump", ticket := 1, answer := some (.error .timeout) }
      (.error .timeout) (.error .timeout) rfl rfl
  have unclosed : ¬ ∃ closedNow, Event.closed closedNow ∈
      [.prepared true true, .began 1, .answered 1 (.error .timeout)] := by simp
  exact ⟨_, _, _, run, step, rfl, ((Run.state_of_failed_connect run step).1 rfl).1.mpr unclosed⟩

/-- A connect that was overtaken by a closing says that it may be tried again, and cannot be. -/
theorem Run.retryable_after_closing :
    ∃ s next e,
      Run {} [.prepared true true, .began 1, .closed true, .answered 1 (.ok 0)] s ∧
      Step s (.returned "pump" (.error e)) next ∧ e.isRetryable = true ∧
      next.lifecycle.state = .closed ∧
      next.lifecycle.beginConnect = .error (.invalidState .closed "connect") := by
  have step : Step
      { lifecycle := { state := .closed, generation := 2 }
        attempts := [{ device := "pump", ticket := 1, answer := some (.ok 0) }]
        opened := [0] }
      (.returned "pump" (.error (.failed "pump" .closedMeanwhile)))
      { lifecycle := { state := .closed, generation := 2 }
        opened := [0]
        shutDown := [0] } :=
    @Step.finish _ [] [] { device := "pump", ticket := 1, answer := some (.ok 0) } (.ok 0)
      (.error .timeout) rfl rfl
  exact ⟨_, _, _, Run.overtaken, step, rfl, rfl, rfl⟩

end RemoteDevice.Lifecycle
