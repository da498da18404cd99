import RemoteDevice.Proofs.Connection.Scripted
import RemoteDevice.Proofs.Outcome

/-!
# Failed calls leave no trace

Calls follow one another, each with what the medium and the transport answer to it. Striking out
calls that failed changes neither what the other calls come to nor what is there in the end, apart
from the generation, which counts failed attempts to connect as well and which no answer shows.
-/
set_option autoImplicit false

namespace RemoteDevice

namespace Lifecycle

inductive Call where
  | prepare (available : Bool)
  | connect (device : String) (opened : Except TransportError Nat)
      (noDelay : Except TransportError Unit)
  | obtain (direction : Direction) (cloned : Except TransportError Unit)
  | close

inductive Answer where
  | prepared (ready : Bool)
  | connected (result : Except ConnectionError Unit)
  | obtained (result : Except ConnectionError Handle)
  | closed (closedNow : Bool)

/-- Closing never fails. -/
def Answer.failed : Answer → Bool
  | prepared ready => !ready
  | connected (.error _) => true
  | connected (.ok _) => false
  | obtained (.error _) => true
  | obtained (.ok _) => false
  | closed _ => false

def HandleFault.reported (endpoint : Endpoint) : HandleFault → ConnectionError
  | notConnected => .notConnected
  | clone e => .failed endpoint.text (.handle e)

/-- Both steps of an attempt to connect, with nothing in between. -/
def attempt (l : Lifecycle) (device : String) (opened : Except TransportError Nat)
    (noDelay : Except TransportError Unit) : Except ConnectionError Unit × Lifecycle :=
  match l.beginConnect with
  | .error e => (.error e, l)
  | .ok (ticket, begun) =>
    let finish := begun.finishConnect ticket opened noDelay
    (finish.outcome device, finish.next)

section Runs

variable (endpoint : Endpoint)

def perform (l : Lifecycle) : Call → Answer × Lifecycle
  | .prepare available => (.prepared (l.prepare available).1, (l.prepare available).2)
  | .connect device opened noDelay =>
    (.connected (l.attempt device opened noDelay).1, (l.attempt device opened noDelay).2)
  | .obtain direction cloned =>
    (.obtained ((l.obtain direction cloned).1.mapError (HandleFault.reported endpoint)),
      (l.obtain direction cloned).2)
  | .close => (.closed l.close.closedNow, l.close.next)

/-- The calls with the answers that they get. -/
def record (l : Lifecycle) : List Call → List (Call × Answer)
  | [] => []
  | call :: calls => (call, (perform endpoint l call).1) :: record (perform endpoint l call).2 calls

def after (l : Lifecycle) : List Call → Lifecycle
  | [] => l
  | call :: calls => after (perform endpoint l call).2 calls

end Runs

/-- What is left of a record when some of the calls that failed are struck out. -/
inductive Thinned : List (Call × Answer) → List (Call × Answer) → Prop
  | nil : Thinned [] []
  | keep {all kept : List (Call × Answer)} (entry : Call × Answer) (thinned : Thinned all kept) :
      Thinned (entry :: all) (entry :: kept)
  | strike {all kept : List (Call × Answer)} {entry : Call × Answer}
      (failed : entry.2.failed = true) (thinned : Thinned all kept) : Thinned (entry :: all) kept

/-- Everything except for the generation. -/
def visible (l : Lifecycle) : Lifecycle := { l with generation := 0 }

theorem eq_of_visible {l l' : Lifecycle} (alike : l.visible = l'.visible) :
    l.state = l'.state ∧ l.stream = l'.stream ∧
      ∀ direction, l.handle? direction = l'.handle? direction := by
  simp only [visible, Lifecycle.mk.injEq] at alike
  obtain ⟨state, -, stream, input, output, -⟩ := alike
  refine ⟨state, stream, ?_⟩
  intro direction
  cases direction with
  | input => exact input
  | output => exact output

/-! ## One call -/

section Call

variable (l : Lifecycle)

theorem attempt_unprepared {l : Lifecycle} (unprepared : l.state ≠ .prepared) (device : String)
    (opened : Except TransportError Nat) (noDelay : Except TransportError Unit) :
    l.attempt device opened noDelay = (.error (.invalidState l.state "connect"), l) := by
  rw [attempt, beginConnect, if_neg unprepared]

/-- Nothing can overtake an attempt here, so only the answers decide how it ends. -/
theorem attempt_prepared {l : Lifecycle} (prepared : l.state = .prepared) (device : String)
    (opened : Except TransportError Nat) (noDelay : Except TransportError Unit) :
    l.attempt device opened noDelay =
      match opened, noDelay with
      | .error e, _ =>
        (.error (.failed device (.transport e)), { l with generation := l.generation + 1 })
      | .ok _, .error e =>
        (.error (.failed device (.latency e)), { l with generation := l.generation + 1 })
      | .ok stream, .ok _ =>
        (.ok (),
          { l with
            state := .connected
            generation := l.generation + 1
            stream := some stream }) := by
  have awaited : { l with state := .connecting, generation := l.generation + 1 }.awaits
      (l.generation + 1) = true := awaits_iff.mpr ⟨rfl, rfl⟩
  rw [attempt, beginConnect, if_pos prepared]
  cases opened with
  | error e =>
    simp only [finishConnect_refused awaited, ← prepared]
    rfl
  | ok stream =>
    cases noDelay with
    | error e =>
      simp only [finishConnect_slow awaited, ← prepared]
      rfl
    | ok done =>
      simp only [finishConnect_ok awaited]
      rfl

/-- An attempt succeeds in a prepared state, or leaves the state alone. -/
theorem state_attempt (device : String) (opened : Except TransportError Nat)
    (noDelay : Except TransportError Unit) :
    (l.attempt device opened noDelay).1 = .ok () ∧ l.state = .prepared ∧
        (l.attempt device opened noDelay).2.state = .connected ∨
      (∃ e, (l.attempt device opened noDelay).1 = .error e) ∧
        (l.attempt device opened noDelay).2.state = l.state := by
  by_cases prepared : l.state = .prepared
  · rw [attempt_prepared prepared]
    cases opened with
    | error e => exact .inr ⟨⟨_, rfl⟩, rfl⟩
    | ok stream =>
      cases noDelay with
      | error e => exact .inr ⟨⟨_, rfl⟩, rfl⟩
      | ok done => exact .inl ⟨rfl, prepared, rfl⟩
  · rw [attempt_unprepared prepared]
    exact .inr ⟨⟨_, rfl⟩, rfl⟩

theorem prepare_visible (available : Bool) :
    l.visible.prepare available = ((l.prepare available).1, (l.prepare available).2.visible) := by
  cases state : l.state <;> cases available <;> simp [prepare, visible, state]

theorem attempt_visible (device : String) (opened : Except TransportError Nat)
    (noDelay : Except TransportError Unit) :
    (l.visible.attempt device opened noDelay).1 = (l.attempt device opened noDelay).1 ∧
      (l.visible.attempt device opened noDelay).2.visible =
        (l.attempt device opened noDelay).2.visible := by
  by_cases prepared : l.state = .prepared
  · have prepared' : l.visible.state = .prepared := prepared
    rw [attempt_prepared prepared, attempt_prepared prepared']
    cases opened with
    | error e => exact ⟨rfl, rfl⟩
    | ok stream => cases noDelay <;> exact ⟨rfl, rfl⟩
  · have unprepared : l.visible.state ≠ .prepared := prepared
    rw [attempt_unprepared prepared, attempt_unprepared unprepared]
    exact ⟨rfl, rfl⟩

theorem obtain_visible (direction : Direction) (cloned : Except TransportError Unit) :
    l.visible.obtain direction cloned =
      ((l.obtain direction cloned).1, (l.obtain direction cloned).2.visible) := by
  have kept : l.visible.handle? direction = l.handle? direction := by cases direction <;> rfl
  have same : l.visible.state = l.state ∧ l.visible.stream = l.stream ∧
    l.visible.handles = l.handles := ⟨rfl, rfl, rfl⟩
  simp only [obtain, kept, same]
  split
  · rfl
  · split
    next => rfl
    next => cases direction <;> rfl
    next => rfl

theorem close_visible :
    l.visible.close.closedNow = l.close.closedNow ∧
      l.visible.close.next.visible = l.close.next.visible := by
  by_cases closed : l.state = .closed
  · have closed' : l.visible.state = .closed := closed
    rw [close_closed closed, close_closed closed']
    exact ⟨rfl, rfl⟩
  · have unclosed : l.visible.state ≠ .closed := closed
    rw [close_open closed, close_open unclosed]
    exact ⟨rfl, rfl⟩

theorem visible_visible : l.visible.visible = l.visible := rfl

variable (endpoint : Endpoint)

/-- Neither an answer nor what is seen after it depends on the generation. -/
theorem perform_visible (call : Call) :
    (perform endpoint l.visible call).1 = (perform endpoint l call).1 ∧
      (perform endpoint l.visible call).2.visible = (perform endpoint l call).2.visible := by
  cases call with
  | prepare available => simp [perform, prepare_visible, visible_visible]
  | connect device opened noDelay =>
    obtain ⟨answer, next⟩ := l.attempt_visible device opened noDelay
    simp only [perform, answer, next, and_self]
  | obtain direction cloned => simp [perform, obtain_visible, visible_visible]
  | close =>
    obtain ⟨answer, next⟩ := l.close_visible
    simp only [perform, answer, next, and_self]

theorem perform_congr {l l' : Lifecycle} (alike : l.visible = l'.visible) (call : Call) :
    (perform endpoint l call).1 = (perform endpoint l' call).1 ∧
      (perform endpoint l call).2.visible = (perform endpoint l' call).2.visible := by
  obtain ⟨answer, next⟩ := l.perform_visible endpoint call
  obtain ⟨answer', next'⟩ := l'.perform_visible endpoint call
  rw [← answer, ← answer', ← next, ← next', alike]
  exact ⟨rfl, rfl⟩

end Call

/-! ## Calls that fail -/

theorem prepare_failed {l : Lifecycle} {available : Bool}
    (failed : (l.prepare available).1 = false) : (l.prepare available).2 = l := by
  cases state : l.state <;> cases available <;> simp_all [prepare]

theorem attempt_failed {l : Lifecycle} {device : String}
    {opened : Except TransportError Nat} {noDelay : Except TransportError Unit}
    {e : ConnectionError} (failed : (l.attempt device opened noDelay).1 = .error e) :
    (l.attempt device opened noDelay).2.visible = l.visible := by
  by_cases prepared : l.state = .prepared
  · rw [attempt_prepared prepared] at failed ⊢
    cases opened with
    | error e => rfl
    | ok stream =>
      cases noDelay with
      | error e => rfl
      | ok done => cases failed
  · rw [attempt_unprepared prepared]

theorem obtain_failed {l : Lifecycle} {direction : Direction}
    {cloned : Except TransportError Unit} {fault : HandleFault}
    (failed : (l.obtain direction cloned).1 = .error fault) :
    (l.obtain direction cloned).2 = l := by
  simp only [obtain] at failed ⊢
  split
  next => rfl
  next unkept =>
    split
    next => rfl
    next stream _ state stored =>
      simp only [unkept, state, stored] at failed
      cases failed
    next => rfl

theorem visible_of_failed {l : Lifecycle} {endpoint : Endpoint} {call : Call}
    (failed : (perform endpoint l call).1.failed = true) :
    (perform endpoint l call).2.visible = l.visible := by
  cases call with
  | prepare available =>
    have unprepared : (l.prepare available).1 = false := by
      simpa [perform, Answer.failed] using failed
    simp only [perform, prepare_failed unprepared]
  | connect device opened noDelay =>
    cases result : (l.attempt device opened noDelay).1 with
    | error e => exact attempt_failed result
    | ok done => simp [perform, Answer.failed, result] at failed
  | obtain direction cloned =>
    cases result : (l.obtain direction cloned).1 with
    | error fault => simp only [perform, obtain_failed result]
    | ok handle =>
      have answer : (l.obtain direction cloned).1.mapError (HandleFault.reported endpoint) =
        .ok handle := mapError_eq_ok_iff.mpr result
      simp [perform, Answer.failed, answer] at failed
  | close => cases failed

/-! ## All calls -/

theorem record_of_thinned {endpoint : Endpoint} {l l' : Lifecycle} {calls : List Call}
    {kept : List (Call × Answer)} (alike : l'.visible = l.visible)
    (thinned : Thinned (record endpoint l calls) kept) :
    record endpoint l' (kept.map Prod.fst) = kept ∧
      (after endpoint l' (kept.map Prod.fst)).visible = (after endpoint l calls).visible := by
  induction calls generalizing l l' kept with
  | nil =>
    cases thinned
    exact ⟨rfl, alike⟩
  | cons call calls ih =>
    simp only [record] at thinned
    cases thinned with
    | keep entry rest =>
      obtain ⟨answer, next⟩ := perform_congr endpoint alike call
      obtain ⟨same, final⟩ := ih next rest
      refine ⟨?_, final⟩
      rw [List.map_cons, record, answer, same]
    | strike failed rest => exact ih (alike.trans (visible_of_failed failed).symm) rest

theorem record_cons {endpoint : Endpoint} {l next final : Lifecycle} {call : Call}
    {answer : Answer} {entries : List (Call × Answer)}
    (performed : perform endpoint l call = (answer, next))
    (rest : record endpoint next (entries.map Prod.fst) = entries ∧
      after endpoint next (entries.map Prod.fst) = final) :
    record endpoint l (((call, answer) :: entries).map Prod.fst) = (call, answer) :: entries ∧
      after endpoint l (((call, answer) :: entries).map Prod.fst) = final := by
  simp only [List.map_cons, record, after, performed, rest, and_self]

end Lifecycle

/-! ## Calls of a connection -/

namespace Connection

open Lifecycle (Call Answer Thinned record record_cons after)

/-- Calls of a connection, each with what the transport answered then. Whatever is done to the
transport in between is somebody else's doing. -/
inductive Serves : Connection → List (Call × Answer) → Connection → Prop
  | nil (c : Connection) : Serves c [] c
  | elsewhere {c final : Connection} {entries : List (Call × Answer)} (transport : Transport)
      (serves : Serves { c with transport } entries final) : Serves c entries final
  | prepare {c final : Connection} {entries : List (Call × Answer)}
      (serves : Serves c.prepare.2 entries final) :
      Serves c ((.prepare c.transport.medium.available, .prepared c.prepare.1) :: entries) final
  | refuse {c final : Connection} {entries : List (Call × Answer)} {e : ConnectionError}
      (device : String) (opened : Except TransportError Nat) (noDelay : Except TransportError Unit)
      (refused : c.beginConnect = .error e) (serves : Serves (c.connect device).2 entries final) :
      Serves c ((.connect device opened noDelay, .connected (c.connect device).1) :: entries) final
  | connect {c begun final : Connection} {entries : List (Call × Answer)} {ticket : UInt64}
      (device : String) (began : c.beginConnect = .ok (ticket, begun))
      (serves : Serves (c.connect device).2 entries final) :
      Serves c
        ((.connect device begun.openStream.1
            (begun.openStream.2.setNoDelay ticket begun.openStream.1).1,
          .connected (c.connect device).1) :: entries) final
  | obtain {c final : Connection} {entries : List (Call × Answer)} (direction : Direction)
      (serves : Serves (c.obtain direction).2 entries final) :
      Serves c
        ((.obtain direction c.transport.cloneStream, .obtained (c.obtain direction).1) :: entries)
        final
  | close {c final : Connection} {entries : List (Call × Answer)}
      (serves : Serves c.close.2 entries final) :
      Serves c ((.close, .closed c.close.1) :: entries) final

theorem attempt_of_refused {c : Connection} {e : ConnectionError}
    (refused : c.beginConnect = .error e) (device : String) (opened : Except TransportError Nat)
    (noDelay : Except TransportError Unit) :
    c.lifecycle.attempt device opened noDelay =
      ((c.connect device).1, (c.connect device).2.lifecycle) := by
  rw [connect, Lifecycle.attempt]
  simp only [refused, begin_error refused]

theorem attempt_of_begun {c begun : Connection} {ticket : UInt64}
    (began : c.beginConnect = .ok (ticket, begun)) (device : String) :
    c.lifecycle.attempt device begun.openStream.1
        (begun.openStream.2.setNoDelay ticket begun.openStream.1).1 =
      ((c.connect device).1, (c.connect device).2.lifecycle) := by
  rw [connect, Lifecycle.attempt]
  obtain ⟨next, accepted, rfl⟩ := begin_ok began
  simp only [began, accepted, finishConnect, lifecycle_setNoDelay, lifecycle_discard]
  rfl

theorem state_connect (c : Connection) (device : String) :
    (c.connect device).1 = .ok () ∧ c.state = .prepared ∧
        (c.connect device).2.state = .connected ∨
      (∃ e, (c.connect device).1 = .error e) ∧ (c.connect device).2.state = c.state := by
  have attempted : ∃ opened noDelay, c.lifecycle.attempt device opened noDelay =
      ((c.connect device).1, (c.connect device).2.lifecycle) := by
    cases began : c.beginConnect with
    | error e => exact ⟨.ok 0, .ok (), attempt_of_refused began device _ _⟩
    | ok begun => exact ⟨_, _, attempt_of_begun began device⟩
  obtain ⟨opened, noDelay, attempted⟩ := attempted
  have states := c.lifecycle.state_attempt device opened noDelay
  rw [attempted] at states
  exact states

theorem Serves.record {c final : Connection} {entries : List (Call × Answer)}
    (serves : Serves c entries final) :
    record c.endpoint c.lifecycle (entries.map Prod.fst) = entries ∧
      after c.endpoint c.lifecycle (entries.map Prod.fst) = final.lifecycle := by
  induction serves with
  | nil => exact ⟨rfl, rfl⟩
  | elsewhere transport serves ih => exact ih
  | prepare serves ih => exact record_cons rfl ih
  | refuse device opened noDelay refused serves ih =>
    rw [endpoint_connect] at ih
    apply record_cons _ ih
    simp only [Lifecycle.perform, attempt_of_refused refused]
  | connect device began serves ih =>
    rw [endpoint_connect] at ih
    apply record_cons _ ih
    simp only [Lifecycle.perform, attempt_of_begun began]
  | obtain direction serves ih => exact record_cons rfl ih
  | @close c final entries serves ih =>
    have same : c.close.2.endpoint = c.endpoint := endpoint_discard _ _
    rw [same] at ih
    apply record_cons _ ih
    simp only [Lifecycle.perform, Connection.close, lifecycle_discard]

end Connection

namespace Lifecycle

/-- Without some of the calls that failed, the others get the same answers and the state, the stream
and the handles are the same in the end; and such records are what connections bring about. -/
theorem unchanged_without_failed :
    (∀ (endpoint : Endpoint) (l : Lifecycle) (calls : List Call) (kept : List (Call × Answer)),
      Thinned (record endpoint l calls) kept →
        record endpoint l (kept.map Prod.fst) = kept ∧
        (after endpoint l (kept.map Prod.fst)).state = (after endpoint l calls).state ∧
        (after endpoint l (kept.map Prod.fst)).stream = (after endpoint l calls).stream ∧
        ∀ direction, (after endpoint l (kept.map Prod.fst)).handle? direction =
          (after endpoint l calls).handle? direction) ∧
    ∀ (c final : Connection) (entries : List (Call × Answer)), c.Serves entries final →
      record c.endpoint c.lifecycle (entries.map Prod.fst) = entries ∧
        after c.endpoint c.lifecycle (entries.map Prod.fst) = final.lifecycle := by
  refine ⟨?_, fun c final entries serves => serves.record⟩
  intro endpoint l calls kept thinned
  obtain ⟨same, final⟩ := record_of_thinned rfl thinned
  exact ⟨same, eq_of_visible final⟩

/-- Preparing before there is a medium and an attempt that times out are struck out here. -/
theorem unchanged_without_two_failed :
    let c : Connection := { transport := .mock, endpoint := ⟨"10.0.0.9", 13110⟩ }
    let missing : Call × Answer := (.prepare false, .prepared false)
    let ready : Call × Answer := (.prepare true, .prepared true)
    let late : Call × Answer := (.connect "pump" (.error .timeout) (.ok ()),
      .connected (.error (.failed "pump" (.transport .timeout))))
    let connected : Call × Answer := (.connect "pump" (.ok 0) (.ok ()), .connected (.ok ()))
    let entries := [missing, ready, late, connected]
    ∃ final, c.Serves entries final ∧ Thinned entries [ready, connected] ∧
      record c.endpoint c.lifecycle [ready.1, connected.1] = [ready, connected] ∧
      (after c.endpoint c.lifecycle [ready.1, connected.1]).stream = final.lifecycle.stream := by
  intro c missing ready late connected entries
  let slow := { Transport.mock with behavior := .timeout }
  let final : Connection :=
    { c with
      transport := { Transport.mock with streams := [{ noDelay := true }] }
      lifecycle := { state := .connected, generation := 2, stream := some 0 } }
  have last : Connection.Serves
      { c with transport := slow, lifecycle := { state := .prepared, generation := 1 } }
      [connected] final :=
    .elsewhere .mock (@Connection.Serves.connect _
      { c with lifecycle := { state := .connecting, generation := 2 } } final [] 2 "pump" rfl
      (.nil final))
  have again : Connection.Serves
      { c with lifecycle := { state := .prepared } } [late, connected] final :=
    .elsewhere slow (@Connection.Serves.connect _
      { c with transport := slow, lifecycle := { state := .connecting, generation := 1 } } final
      [connected] 1 "pump" rfl last)
  have serves : c.Serves entries final :=
    .elsewhere { Transport.mock with medium := { available := false } }
      (.prepare (.elsewhere .mock (.prepare again)))
  have thinned : Thinned entries [ready, connected] :=
    .strike rfl (.keep ready (.strike rfl (.keep connected .nil)))
  obtain ⟨law, served⟩ := unchanged_without_failed
  obtain ⟨recorded, reached⟩ := served c final entries serves
  obtain ⟨same, -, stream, -⟩ := law c.endpoint c.lifecycle (entries.map Prod.fst)
    [ready, connected] (by rw [recorded]; exact thinned)
  exact ⟨final, serves, thinned, same, by rw [← reached]; exact stream⟩

end Lifecycle

end RemoteDevice
