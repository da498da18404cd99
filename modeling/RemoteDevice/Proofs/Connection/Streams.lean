import RemoteDevice.Proofs.Connection.Scripted
import RemoteDevice.Proofs.Outcome

/-!
# Where the streams of a lifecycle are

Whatever the callers do and however the transport answers, no stream is left open with nobody to
shut it down, and the lifecycle has a stream and handles of it only while it is connected. Of a
connection the record of its transport shows the same.
-/
set_option autoImplicit false

namespace RemoteDevice

namespace Lifecycle

def Opened (events : List Event) (stream : Nat) : Prop :=
  ∃ ticket, .answered ticket (.ok stream) ∈ events

theorem opened_snoc {events : List Event} {event : Event} {stream : Nat} :
    Opened (events ++ [event]) stream ↔
      Opened events stream ∨ ∃ ticket, event = .answered ticket (.ok stream) := by
  simp only [Opened, List.mem_append, List.mem_singleton, exists_or, eq_comm]

theorem Run.mem_opened_iff {events : List Event} {s : Shared} (run : Run {} events s)
    (stream : Nat) : stream ∈ s.opened ↔ Opened events stream := by
  induction run with
  | nil => simp [Opened]
  | snoc run step ih =>
    rw [opened_snoc, ← ih]
    cases step with
    | answer answer underWay waiting fresh =>
      cases answer with
      | error e => simp [Except.toOption]
      | ok given => simp [Except.toOption, or_comm, eq_comm]
    | _ => simp

/-! ## Runs to look at -/

theorem Run.connecting : Run {} [.prepared true true, .began 1]
    { lifecycle := { state := .connecting, generation := 1 }
      attempts := [{ device := "pump", ticket := 1 }] } := by
  have prepared : Run {} [.prepared true true] { lifecycle := { state := .prepared } } :=
    .snoc .nil (.prepare true)
  exact prepared.snoc (.begin "pump" rfl)

/-- A connect is overtaken by a closing before the transport has opened stream 0. -/
theorem Run.overtaken : Run {}
    [.prepared true true, .began 1, .closed true, .answered 1 (.ok 0)]
    { lifecycle := { state := .closed, generation := 2 }
      attempts := [{ device := "pump", ticket := 1, answer := some (.ok 0) }]
      opened := [0] } := by
  have closed : Run {} [.prepared true true, .began 1, .closed true]
      { lifecycle := { state := .closed, generation := 2 }
        attempts := [{ device := "pump", ticket := 1 }] } := Run.connecting.snoc .close
  have fresh : ∀ stream, (.ok 0 : Except TransportError Nat) = .ok stream → stream ∉ [] := by simp
  exact closed.snoc (@Step.answer _ [] [] { device := "pump", ticket := 1 } (.ok 0) rfl rfl fresh)

/-- The transport has opened stream 0 for a connect, which has yet to finish. -/
theorem Run.answered : Run {} [.prepared true true, .began 1, .answered 1 (.ok 0)]
    { lifecycle := { state := .connecting, generation := 1 }
      attempts := [{ device := "pump", ticket := 1, answer := some (.ok 0) }]
      opened := [0] } := by
  have fresh : ∀ stream, (.ok 0 : Except TransportError Nat) = .ok stream → stream ∉ [] := by simp
  exact Run.connecting.snoc
    (@Step.answer _ [] [] { device := "pump", ticket := 1 } (.ok 0) rfl rfl fresh)

/-- The connect succeeds. -/
theorem Run.established : Run {}
    [.prepared true true, .began 1, .answered 1 (.ok 0), .returned "pump" (.ok ())]
    { lifecycle := { state := .connected, generation := 1, stream := some 0 }
      opened := [0]
      prompt := [0] } :=
  Run.answered.snoc
    (@Step.finish _ [] [] { device := "pump", ticket := 1, answer := some (.ok 0) } (.ok 0)
      (.ok ()) rfl rfl)

/-- The reading half of the stream is obtained. -/
theorem Run.reading : Run {}
    [.prepared true true, .began 1, .answered 1 (.ok 0), .returned "pump" (.ok ()),
      .obtained .input (.ok ⟨0, 0⟩)]
    { lifecycle :=
        { state := .connected, generation := 1, stream := some 0, input := some ⟨0, 0⟩
          handles := 1 }
      opened := [0]
      prompt := [0] } :=
  Run.established.snoc (.obtain .input (.ok ()))

end Lifecycle

namespace Connection

open Lifecycle (Attempt Event Opened)

theorem Reached.opened_iff {start c : Connection} {events : List Event} {attempts : List Attempt}
    (reached : Reached start events c attempts) (new : start.IsNew) (stream : Nat) :
    Opened events stream ↔ stream < c.transport.streams.length := by
  obtain ⟨s, run, r, -⟩ := reached.reflects new
  rw [← run.mem_opened_iff, r.records.opened]

/-! ## A connection to look at -/

def pump : Connection := { transport := .mock, endpoint := ⟨"pump.local", 13110⟩ }

theorem isNew_pump : pump.IsNew := ⟨rfl, rfl⟩

theorem Reached.pump_connecting : Reached pump [.prepared true true, .began 1]
    { pump with lifecycle := { state := .connecting, generation := 1 } }
    [{ device := "pump", ticket := 1 }] :=
  (Reached.prepare .start).begin "pump" rfl

/-- The transport has opened stream 0 for a connect that was overtaken by a closing. -/
theorem Reached.pump_overtaken : Reached pump
    [.prepared true true, .began 1, .closed true, .answered 1 (.ok 0)]
    { pump with
      transport := { Transport.mock with streams := [{}] }
      lifecycle := { state := .closed, generation := 2 } }
    [{ device := "pump", ticket := 1, answer := some (.ok 0) }] :=
  @Reached.answer _ _ _ [] [] { device := "pump", ticket := 1 } pump_connecting.close rfl

/-- The connect succeeds, and the reading half of the stream is obtained. -/
theorem Reached.pump_reading : Reached pump
    [.prepared true true, .began 1, .answered 1 (.ok 0), .returned "pump" (.ok ()),
      .obtained .input (.ok ⟨0, 0⟩)]
    { pump with
      transport := { Transport.mock with streams := [{ noDelay := true }] }
      lifecycle :=
        { state := .connected, generation := 1, stream := some 0, input := some ⟨0, 0⟩
          handles := 1 } }
    [] := by
  have answered : Reached pump [.prepared true true, .began 1, .answered 1 (.ok 0)]
      { pump with
        transport := { Transport.mock with streams := [{}] }
        lifecycle := { state := .connecting, generation := 1 } }
      [{ device := "pump", ticket := 1, answer := some (.ok 0) }] :=
    @Reached.answer _ _ _ [] [] { device := "pump", ticket := 1 } pump_connecting rfl
  have connected := @Reached.finish _ _ _ [] []
    { device := "pump", ticket := 1, answer := some (.ok 0) } (.ok 0) answered rfl
  exact connected.obtain .input

end Connection

namespace Lifecycle

open Connection (Reached pump)

/-! ## The fate of a stream -/

/-- One of the three holds, and only one. -/
def ExactlyOne (p q r : Prop) : Prop := p ∧ ¬q ∧ ¬r ∨ ¬p ∧ q ∧ ¬r ∨ ¬p ∧ ¬q ∧ r

/-- Every stream that the transport opened is in the hands of an attempt, or stored, or shut down.
-/
structure Placed (events : List Event) (l : Lifecycle) (attempts : List Attempt)
    (IsShutDown : Nat → Prop) : Prop where
  placed : ∀ stream, Opened events stream →
    ExactlyOne (∃ attempt ∈ attempts, attempt.answer = some (.ok stream))
      (l.stream = some stream) (IsShutDown stream)
  connected : ∀ stream, l.stream = some stream → l.state = .connected
  alone : ∀ first second, Opened events first → Opened events second →
    ¬IsShutDown first → ¬IsShutDown second → first = second
  closed : (∃ closedNow, .closed closedNow ∈ events) → attempts = [] →
    ∀ stream, Opened events stream → IsShutDown stream

theorem Run.placed {events : List Event} {s : Shared} (run : Run {} events s) :
    Placed events s.lifecycle s.attempts (· ∈ s.shutDown) := by
  have h := run.consistent
  refine ⟨?_, fun stream stored => h.connected_of_stores stored, ?_, ?_⟩
  · intro stream opened
    rw [← run.mem_opened_iff] at opened
    by_cases unshut : stream ∈ s.shutDown
    · obtain ⟨-, unheld, unstored⟩ := (h.shutDown_iff stream).mp unshut
      exact .inr (.inr ⟨unheld, unstored, unshut⟩)
    · rcases h.holds_or_stores opened unshut with held | stored
      · have unstored : ¬ s.Stores stream := fun stored => h.not_holds_of_stores stored stream held
        exact .inl ⟨held, unstored, unshut⟩
      · exact .inr (.inl ⟨h.not_holds_of_stores stored stream, stored, unshut⟩)
  · intro first second opened opened' unshut unshut'
    rw [← run.mem_opened_iff] at opened opened'
    exact h.eq_of_open opened opened' unshut unshut'
  · intro closed idle stream opened
    rw [← run.mem_opened_iff] at opened
    have state := run.closed_iff.mpr closed
    have bare := h.stream_eq_none (by simp [state])
    exact (h.shutDown_iff stream).mpr
      ⟨opened, Shared.not_holds idle stream, Shared.not_stores bare stream⟩

/-- No stream is left open with nobody to shut it down: this holds of every run, whatever the
transport answers, and in a connection the transport has it in its own record. -/
theorem fate_of_opened :
    (∀ events s, Run {} events s → Placed events s.lifecycle s.attempts (· ∈ s.shutDown)) ∧
    ∀ start events c attempts, start.IsNew → Reached start events c attempts →
      (∀ stream, Opened events stream ↔ stream < c.transport.streams.length) ∧
      Placed events c.lifecycle attempts fun stream =>
        (c.transport.streams[stream]?).any Loopback.isShutDown = true := by
  refine ⟨fun events s run => run.placed, fun start events c attempts new reached => ?_⟩
  refine ⟨reached.opened_iff new, ?_⟩
  obtain ⟨s, run, r, rfl⟩ := reached.reflects new
  simp only [r.lifecycle, ← r.records.shutDown]
  exact run.placed

/-- A stream opened after the closing is still in the hands of the connect that asked for it, which
shuts it down when it ends. -/
theorem fate_of_overtaken :
    (∃ c attempts, Reached pump
        [.prepared true true, .began 1, .closed true, .answered 1 (.ok 0)] c attempts ∧
      ∃ attempt ∈ attempts, attempt.answer = some (.ok 0)) ∧
    ∃ c, Reached pump
        [.prepared true true, .began 1, .closed true, .answered 1 (.ok 0),
          .returned "pump" (.error (.failed "pump" .closedMeanwhile))] c [] ∧
      (c.transport.streams[0]?).any Loopback.isShutDown = true := by
  constructor
  · obtain ⟨-, placed⟩ := fate_of_opened.2 _ _ _ _ Connection.isNew_pump Reached.pump_overtaken
    rcases placed.placed 0 ⟨1, by simp⟩ with held | stored | shut
    · exact ⟨_, _, Reached.pump_overtaken, held.1⟩
    · cases stored.2.1
    · cases shut.2.2
  · have ended := @Reached.finish _ _ _ [] []
      { device := "pump", ticket := 1, answer := some (.ok 0) } (.ok 0) Reached.pump_overtaken rfl
    obtain ⟨-, placed⟩ := fate_of_opened.2 _ _ _ _ Connection.isNew_pump ended
    exact ⟨_, ended, placed.closed ⟨true, by simp⟩ rfl 0 ⟨1, by simp⟩⟩

/-! ## What the lifecycle has -/

/-- The lifecycle has a stream exactly while it is connected, with handles of no other stream; one
attempt at most is under way, and it is the current one exactly while the lifecycle is connecting.
Hence no handle is given out in another state, although a kept one is given out without a look at
the state. -/
structure Coherent (l : Lifecycle) (attempts : List Attempt) (SendsAtOnce : Nat → Prop) :
    Prop where
  stream_iff : l.stream.isSome = true ↔ l.state = .connected
  sendsAtOnce : ∀ stream, l.stream = some stream → SendsAtOnce stream
  handle : ∀ direction handle, l.handle? direction = some handle →
    l.state = .connected ∧ l.stream = some handle.stream
  attempts_le : attempts.length ≤ 1
  connecting_iff : l.state = .connecting ↔ ∃ attempt ∈ attempts, attempt.ticket = l.generation
  closed : l.state = .closed → l.stream = none ∧ l.input = none ∧ l.output = none
  obtained : ∀ direction cloned handle, (l.obtain direction cloned).1 = .ok handle →
    l.state = .connected

theorem Run.coherent {events : List Event} {s : Shared} (run : Run {} events s) :
    Coherent s.lifecycle s.attempts (· ∈ s.prompt) := by
  have h := run.consistent
  have handle : ∀ direction handle, s.lifecycle.handle? direction = some handle →
      s.lifecycle.state = .connected ∧ s.lifecycle.stream = some handle.stream := by
    intro direction handle kept
    have stored := h.stream_of_handle direction handle kept
    exact ⟨h.connected_of_stores stored, stored⟩
  refine ⟨h.connected_iff.symm, h.prompt_of_stores, handle, h.attempts_le, h.connecting_iff, ?_, ?_⟩
  · intro closed
    have unconnected : s.lifecycle.state ≠ .connected := by simp [closed]
    exact ⟨h.stream_eq_none unconnected, h.handle_eq_none unconnected .input,
      h.handle_eq_none unconnected .output⟩
  · intro direction cloned given obtained
    rcases obtain_ok obtained with kept | connected
    · exact (handle direction given kept).1
    · exact connected

/-- Every lifecycle is coherent, whatever its callers do and the transport answers, and a connection
has the transport send small amounts at once on the stream that it keeps. -/
theorem representation :
    (∀ events s, Run {} events s → Coherent s.lifecycle s.attempts (· ∈ s.prompt)) ∧
    ∀ start events c attempts, start.IsNew → Reached start events c attempts →
      (Coherent c.lifecycle attempts fun stream =>
        (c.transport.streams[stream]?).any Loopback.noDelay = true) ∧
      ∀ direction handle, (c.obtain direction).1 = .ok handle → c.state = .connected := by
  refine ⟨fun events s run => run.coherent, fun start events c attempts new reached => ?_⟩
  have coherent : Coherent c.lifecycle attempts fun stream =>
      (c.transport.streams[stream]?).any Loopback.noDelay = true := by
    obtain ⟨s, run, r, rfl⟩ := reached.reflects new
    simp only [r.lifecycle, ← r.records.prompt]
    exact run.coherent
  refine ⟨coherent, fun direction handle given => ?_⟩
  exact coherent.obtained direction c.transport.cloneStream handle (mapError_eq_ok_iff.mp given)

/-- The reading half of stream 0 was made from the stored stream, which sends small amounts at
once. -/
theorem representation_of_reading :
    ∃ c, Reached pump
        [.prepared true true, .began 1, .answered 1 (.ok 0), .returned "pump" (.ok ()),
          .obtained .input (.ok ⟨0, 0⟩)] c [] ∧
      c.lifecycle.input = some ⟨0, 0⟩ ∧ c.state = .connected ∧ c.lifecycle.stream = some 0 ∧
      (c.transport.streams[0]?).any Loopback.noDelay = true := by
  obtain ⟨coherent, -⟩ :=
    representation.2 _ _ _ _ Connection.isNew_pump Reached.pump_reading
  obtain ⟨connected, stored⟩ := coherent.handle .input ⟨0, 0⟩ rfl
  exact ⟨_, Reached.pump_reading, rfl, connected, stored, coherent.sendsAtOnce 0 stored⟩

end Lifecycle

end RemoteDevice
