import RemoteDevice.Connection.Basic
import RemoteDevice.Proofs.Connection.Consistent

/-!
# Connections over a scripted transport

The operations of a connection carry out the steps of its lifecycle, and what `Step` says of the
fate of the streams is what the transport finds in its own record of them.
-/
set_option autoImplicit false

namespace RemoteDevice

namespace Transport

/-- The transport has opened, made prompt and shut down exactly the streams in the lists. -/
structure Records (t : Transport) (opened prompt shutDown : List Nat) : Prop where
  opened : ∀ stream, stream ∈ opened ↔ stream < t.streams.length
  prompt : ∀ stream, stream ∈ prompt ↔ (t.streams[stream]?).any Loopback.noDelay = true
  shutDown : ∀ stream, stream ∈ shutDown ↔ (t.streams[stream]?).any Loopback.isShutDown = true

/-! ## One flag of one stream -/

section Modify

variable {t : Transport} {f : Loopback → Loopback} {flag : Loopback → Bool}

theorem length_modifyStream (stream : Nat) :
    (t.modifyStream stream f).streams.length = t.streams.length := by
  simp [modifyStream]

theorem any_modifyStream_of_same {stream : Nat}
    (same : ∀ l, t.streams[stream]? = some l → flag (f l) = flag l) (other : Nat) :
    ((t.modifyStream stream f).streams[other]?).any flag = (t.streams[other]?).any flag := by
  rw [modifyStream, List.getElem?_modify]
  by_cases here : stream = other
  · subst here
    cases found : t.streams[stream]? with
    | none => rfl
    | some l => simp [same l found]
  · cases t.streams[other]? <;> simp [here]

theorem any_modifyStream_of_raised (raised : ∀ l, flag (f l) = true) {stream : Nat}
    (there : stream < t.streams.length) (other : Nat) :
    ((t.modifyStream stream f).streams[other]?).any flag = true ↔
      other = stream ∨ (t.streams[other]?).any flag = true := by
  rw [modifyStream, List.getElem?_modify]
  by_cases here : other = stream
  · simp [here, List.getElem?_eq_getElem there, raised]
  · cases t.streams[other]? with
    | none => simp [here]
    | some l => simp [here, Ne.symm here]

end Modify

theorem any_append_new {streams : List Loopback} {flag : Loopback → Bool}
    (lowered : flag {} = false) (stream : Nat) :
    ((streams ++ [({} : Loopback)])[stream]?).any flag = (streams[stream]?).any flag := by
  rcases Nat.lt_trichotomy stream streams.length with before | rfl | after
  · rw [List.getElem?_append_left before]
  · simp [lowered]
  · rw [List.getElem?_eq_none (by simp; omega), List.getElem?_eq_none (by omega)]

/-! ## The operations -/

namespace Records

variable {t : Transport} {opened prompt shutDown : List Nat}

theorem of_unused (unused : t.streams = []) : t.Records [] [] [] where
  opened := by simp [unused]
  prompt := by simp [unused]
  shutDown := by simp [unused]

theorem not_mem_of_openStream (r : t.Records opened prompt shutDown) {e : Endpoint}
    {limit stream : Nat} (answered : (t.openStream e limit).1 = .ok stream) :
    stream ∉ opened := by
  rw [openStream] at answered
  split at answered
  next => cases answered
  next =>
    simp only [Except.ok.injEq] at answered
    rw [r.opened, ← answered]
    exact Nat.lt_irrefl _

theorem openStream (r : t.Records opened prompt shutDown) (e : Endpoint) (limit : Nat) :
    (t.openStream e limit).2.Records ((t.openStream e limit).1.toOption.toList ++ opened) prompt
      shutDown := by
  rw [Transport.openStream]
  split
  next => exact r
  next =>
    constructor
    · intro stream
      simp [Except.toOption, r.opened, Transport.opened]
      omega
    · intro stream
      rw [r.prompt, any_append_new rfl]
    · intro stream
      rw [r.shutDown, any_append_new rfl]

theorem setNoDelay (r : t.Records opened prompt shutDown) {stream : Nat}
    (there : stream ∈ opened) :
    (t.setNoDelay stream).2.Records opened
      (match (t.setNoDelay stream).1 with
        | .ok _ => stream :: prompt
        | .error _ => prompt)
      shutDown := by
  rw [Transport.setNoDelay]
  split
  next => exact r
  next =>
    have raised : ∀ l : Loopback, { l with noDelay := true }.noDelay = true := fun _ => rfl
    have same : ∀ l, t.streams[stream]? = some l →
        { l with noDelay := true }.isShutDown = l.isShutDown := fun _ _ => rfl
    constructor
    · intro other
      rw [r.opened, length_modifyStream]
    · intro other
      rw [any_modifyStream_of_raised raised ((r.opened stream).mp there), List.mem_cons, r.prompt]
    · intro other
      rw [any_modifyStream_of_same same, r.shutDown]

theorem discard (r : t.Records opened prompt shutDown) {stream : Nat} (there : stream ∈ opened) :
    (t.shutDown stream).2.Records opened prompt (stream :: shutDown) := by
  have raised : ∀ l : Loopback, l.shutDown.isShutDown = true := fun _ => rfl
  have same : ∀ l, t.streams[stream]? = some l → l.shutDown.noDelay = l.noDelay := fun _ _ => rfl
  simp only [Transport.shutDown]
  constructor
  · intro other
    rw [r.opened, length_modifyStream]
  · intro other
    rw [any_modifyStream_of_same same, r.prompt]
  · intro other
    rw [any_modifyStream_of_raised raised ((r.opened stream).mp there), List.mem_cons, r.shutDown]

/-- Bytes that come and go leave the flags of a stream alone. -/
theorem of_bytes (r : t.Records opened prompt shutDown) {stream : Nat} {now next : Loopback}
    (found : t.streams[stream]? = some now) (noDelay : next.noDelay = now.noDelay)
    (isShutDown : next.isShutDown = now.isShutDown) :
    (t.modifyStream stream fun _ => next).Records opened prompt shutDown := by
  have only : ∀ l, t.streams[stream]? = some l → now = l := by simp [found]
  constructor
  · intro other
    rw [r.opened, length_modifyStream]
  · intro other
    rw [any_modifyStream_of_same fun l there => only l there ▸ noDelay, r.prompt]
  · intro other
    rw [any_modifyStream_of_same fun l there => only l there ▸ isShutDown, r.shutDown]

theorem read (r : t.Records opened prompt shutDown) (stream length : Nat) :
    (t.read stream length).2.Records opened prompt shutDown := by
  rw [Transport.read]
  split
  next => exact r
  next now found =>
    apply r.of_bytes found <;> simp only [Loopback.read] <;> split <;> rfl

theorem write (r : t.Records opened prompt shutDown) (stream : Nat) (bytes : List UInt8) :
    (t.write stream bytes).2.Records opened prompt shutDown := by
  rw [Transport.write]
  split
  next => exact r
  next now found =>
    apply r.of_bytes found <;> simp only [Loopback.write] <;> split <;> rfl

end Records

end Transport

namespace Connection

open Lifecycle (Attempt Shared Event Step Run Consistent)

/-- The record of the transport says of the streams what the shared lifecycle says. -/
structure Reflects (c : Connection) (s : Shared) : Prop where
  lifecycle : c.lifecycle = s.lifecycle
  records : c.transport.Records s.opened s.prompt s.shutDown

theorem begin_ok {c begun : Connection} {ticket : UInt64}
    (began : c.beginConnect = .ok (ticket, begun)) :
    ∃ next, c.lifecycle.beginConnect = .ok (ticket, next) ∧
      begun = { c with lifecycle := next } := by
  rw [beginConnect] at began
  split at began
  next => cases began
  next next accepted =>
    simp only [Except.ok.injEq, Prod.mk.injEq] at began
    obtain ⟨rfl, rfl⟩ := began
    exact ⟨next, accepted, rfl⟩

theorem begin_error {c : Connection} {e : ConnectionError} (refused : c.beginConnect = .error e) :
    c.lifecycle.beginConnect = .error e := by
  rw [beginConnect] at refused
  split at refused
  next same =>
    cases refused
    exact same
  next => cases refused

@[simp] theorem lifecycle_setNoDelay (c : Connection) (ticket : UInt64)
    (answer : Except TransportError Nat) :
    (c.setNoDelay ticket answer).2.lifecycle = c.lifecycle := by
  rw [setNoDelay]
  cases c.lifecycle.incoming ticket answer <;> rfl

@[simp] theorem lifecycle_discard (c : Connection) (discarded : Option Nat) :
    (c.discard discarded).lifecycle = c.lifecycle := by
  cases discarded <;> rfl

@[simp] theorem endpoint_setNoDelay (c : Connection) (ticket : UInt64)
    (answer : Except TransportError Nat) :
    (c.setNoDelay ticket answer).2.endpoint = c.endpoint := by
  rw [setNoDelay]
  cases c.lifecycle.incoming ticket answer <;> rfl

@[simp] theorem endpoint_discard (c : Connection) (discarded : Option Nat) :
    (c.discard discarded).endpoint = c.endpoint := by
  cases discarded <;> rfl

theorem endpoint_begun {c begun : Connection} {ticket : UInt64}
    (began : c.beginConnect = .ok (ticket, begun)) : begun.endpoint = c.endpoint := by
  obtain ⟨next, -, rfl⟩ := begin_ok began
  rfl

@[simp] theorem endpoint_finishConnect (c : Connection) (device : String) (ticket : UInt64)
    (answer : Except TransportError Nat) :
    (c.finishConnect device ticket answer).2.endpoint = c.endpoint := by
  simp [finishConnect]

@[simp] theorem endpoint_connect (c : Connection) (device : String) :
    (c.connect device).2.endpoint = c.endpoint := by
  rw [connect]
  split
  next => rfl
  next ticket begun began =>
    rw [endpoint_finishConnect, ← endpoint_begun began]
    rfl

@[simp] theorem endpoint_close (c : Connection) : c.close.2.endpoint = c.endpoint := by
  simp [close]

section Records

variable {c : Connection} {opened prompt shutDown : List Nat}

theorem records_setNoDelay (records : c.transport.Records opened prompt shutDown) (ticket : UInt64)
    {answer : Except TransportError Nat}
    (known : ∀ stream, answer = .ok stream → stream ∈ opened) :
    (c.setNoDelay ticket answer).2.transport.Records opened
      (match (c.setNoDelay ticket answer).1 with
        | .ok _ => (c.lifecycle.incoming ticket answer).toList ++ prompt
        | .error _ => prompt)
      shutDown := by
  rw [setNoDelay]
  cases incoming : c.lifecycle.incoming ticket answer with
  | none => exact records
  | some stream =>
    have there := known stream (Lifecycle.incoming_eq_some_iff.mp incoming).2
    exact records.setNoDelay there

theorem records_discard (records : c.transport.Records opened prompt shutDown) {next : Lifecycle}
    {discarded : Option Nat} (known : ∀ stream, discarded = some stream → stream ∈ opened) :
    ({ c with lifecycle := next }.discard discarded).transport.Records opened prompt
      (discarded.toList ++ shutDown) := by
  cases discarded with
  | none => exact records
  | some stream => exact records.discard (known stream rfl)

end Records

namespace Reflects

variable {c : Connection} {s : Shared}

/-! ## The steps -/

theorem prepare (r : c.Reflects s) :
    ∃ next, Step s (.prepared c.transport.medium.available c.prepare.1) next ∧
      c.prepare.2.Reflects next ∧ next.attempts = s.attempts := by
  have step := Step.prepare (s := s) c.transport.medium.available
  rw [← r.lifecycle] at step
  refine ⟨_, step, ⟨rfl, ?_⟩, rfl⟩
  simp only [Connection.prepare]
  split
  next => exact ⟨r.records.opened, r.records.prompt, r.records.shutDown⟩
  next => exact r.records

theorem refuse (r : c.Reflects s) (device : String) {e : ConnectionError}
    (refused : c.beginConnect = .error e) : Step s (.returned device (.error e)) s := by
  have refused := begin_error refused
  rw [r.lifecycle] at refused
  exact .refuse device refused

theorem begin (r : c.Reflects s) (device : String) {ticket : UInt64} {begun : Connection}
    (began : c.beginConnect = .ok (ticket, begun)) :
    ∃ next, Step s (.began ticket) next ∧ begun.Reflects next ∧
      next.attempts = { device, ticket } :: s.attempts := by
  obtain ⟨lifecycle, accepted, rfl⟩ := begin_ok began
  rw [r.lifecycle] at accepted
  exact ⟨_, .begin device accepted, ⟨rfl, r.records⟩, rfl⟩

theorem answer (r : c.Reflects s) {before after : List Attempt} {attempt : Attempt}
    (underWay : s.attempts = before ++ attempt :: after) (waiting : attempt.answer = none) :
    ∃ next, Step s (.answered attempt.ticket c.openStream.1) next ∧
      c.openStream.2.Reflects next ∧
      next.attempts = before ++ { attempt with answer := some c.openStream.1 } :: after := by
  refine ⟨_, .answer c.openStream.1 underWay waiting ?_, ⟨r.lifecycle, ?_⟩, rfl⟩
  · intro stream answered
    exact r.records.not_mem_of_openStream answered
  · exact r.records.openStream c.endpoint c.timeout

/-- A transport can fail in its own ways. -/
theorem fail (r : c.Reflects s) (e : TransportError) {before after : List Attempt}
    {attempt : Attempt} (underWay : s.attempts = before ++ attempt :: after)
    (waiting : attempt.answer = none) :
    ∃ next, Step s (.answered attempt.ticket (.error e)) next ∧ c.Reflects next ∧
      next.attempts = before ++ { attempt with answer := some (.error e) } :: after :=
  ⟨_, .answer (.error e) underWay waiting (by simp), ⟨r.lifecycle, r.records⟩, rfl⟩

theorem finish (r : c.Reflects s) (h : Consistent s) {before after : List Attempt}
    {attempt : Attempt} {answer : Except TransportError Nat}
    (underWay : s.attempts = before ++ attempt :: after)
    (answered : attempt.answer = some answer) :
    ∃ next,
      Step s
        (.returned attempt.device
          (c.finishConnect attempt.device attempt.ticket answer).1) next ∧
      (c.finishConnect attempt.device attempt.ticket answer).2.Reflects next ∧
      next.attempts = before ++ after := by
  have known : ∀ stream, answer = .ok stream → stream ∈ s.opened := by
    intro stream same
    exact h.opened_of_holds stream ⟨attempt, by simp [underWay], by rw [answered, same]⟩
  have records := records_setNoDelay r.records attempt.ticket known
  rw [r.lifecycle] at records
  simp only [Connection.finishConnect, lifecycle_setNoDelay, r.lifecycle]
  refine ⟨_, .finish (c.setNoDelay attempt.ticket answer).1 underWay answered, ⟨?_, ?_⟩, rfl⟩
  · exact lifecycle_discard _ _
  · apply records_discard records
    intro stream discarded
    exact known stream (Lifecycle.answer_of_discarded discarded)

theorem obtain (r : c.Reflects s) (direction : Direction) :
    ∃ next,
      Step s (.obtained direction (c.lifecycle.obtain direction c.transport.cloneStream).1) next ∧
      (c.obtain direction).2.Reflects next ∧ next.attempts = s.attempts := by
  have step := Step.obtain (s := s) direction c.transport.cloneStream
  rw [← r.lifecycle] at step
  exact ⟨_, step, ⟨rfl, r.records⟩, rfl⟩

theorem close (r : c.Reflects s) (h : Consistent s) :
    ∃ next, Step s (.closed c.close.1) next ∧ c.close.2.Reflects next ∧
      next.attempts = s.attempts := by
  simp only [Connection.close]
  rw [r.lifecycle]
  refine ⟨_, .close, ⟨?_, ?_⟩, rfl⟩
  · exact lifecycle_discard _ _
  · apply records_discard r.records
    intro stream discarded
    exact h.opened_of_stores stream (Lifecycle.stored_of_discarded discarded)

end Reflects

/-! ## Whatever the callers do -/

/-- Nothing has been done with the connection, and its transport has opened nothing. -/
structure IsNew (c : Connection) : Prop where
  lifecycle : c.lifecycle = {}
  unused : c.transport.streams = []

/-- What callers of a connection and its environment can bring about: the events that they see, one
after the other, and the attempts that are under way then. The environment may decide at any time
which operations of the transport are going to fail, and callers keep their handles for as long as
they like. -/
inductive Reached (start : Connection) : List Event → Connection → List Attempt → Prop
  | start : Reached start [] start []
  | script {events : List Event} {c : Connection} {attempts : List Attempt} (medium : Medium)
      (behavior : Behavior) (failures : Failures) (reached : Reached start events c attempts) :
      Reached start events { c with transport := { c.transport with medium, behavior, failures } }
        attempts
  | prepare {events : List Event} {c : Connection} {attempts : List Attempt}
      (reached : Reached start events c attempts) :
      Reached start (events ++ [.prepared c.transport.medium.available c.prepare.1]) c.prepare.2
        attempts
  | refuse {events : List Event} {c : Connection} {attempts : List Attempt} {e : ConnectionError}
      (device : String) (reached : Reached start events c attempts)
      (refused : c.beginConnect = .error e) :
      Reached start (events ++ [.returned device (.error e)]) c attempts
  | begin {events : List Event} {c begun : Connection} {attempts : List Attempt} {ticket : UInt64}
      (device : String) (reached : Reached start events c attempts)
      (began : c.beginConnect = .ok (ticket, begun)) :
      Reached start (events ++ [.began ticket]) begun ({ device, ticket } :: attempts)
  | answer {events : List Event} {c : Connection} {before after : List Attempt} {attempt : Attempt}
      (reached : Reached start events c (before ++ attempt :: after))
      (waiting : attempt.answer = none) :
      Reached start (events ++ [.answered attempt.ticket c.openStream.1]) c.openStream.2
        (before ++ { attempt with answer := some c.openStream.1 } :: after)
  /-- The transport opens nothing, for a reason of its own. -/
  | fail {events : List Event} {c : Connection} {before after : List Attempt} {attempt : Attempt}
      (e : TransportError) (reached : Reached start events c (before ++ attempt :: after))
      (waiting : attempt.answer = none) :
      Reached start (events ++ [.answered attempt.ticket (.error e)]) c
        (before ++ { attempt with answer := some (.error e) } :: after)
  | finish {events : List Event} {c : Connection} {before after : List Attempt} {attempt : Attempt}
      {answer : Except TransportError Nat}
      (reached : Reached start events c (before ++ attempt :: after))
      (answered : attempt.answer = some answer) :
      Reached start
        (events ++
          [.returned attempt.device (c.finishConnect attempt.device attempt.ticket answer).1])
        (c.finishConnect attempt.device attempt.ticket answer).2 (before ++ after)
  | obtain {events : List Event} {c : Connection} {attempts : List Attempt} (direction : Direction)
      (reached : Reached start events c attempts) :
      Reached start
        (events ++
          [.obtained direction (c.lifecycle.obtain direction c.transport.cloneStream).1])
        (c.obtain direction).2 attempts
  | close {events : List Event} {c : Connection} {attempts : List Attempt}
      (reached : Reached start events c attempts) :
      Reached start (events ++ [.closed c.close.1]) c.close.2 attempts
  | read {events : List Event} {c : Connection} {attempts : List Attempt} (handle : Handle)
      (length : Nat) (reached : Reached start events c attempts) :
      Reached start events (c.read handle length).2 attempts
  | write {events : List Event} {c : Connection} {attempts : List Attempt} (handle : Handle)
      (bytes : List UInt8) (reached : Reached start events c attempts) :
      Reached start events (c.write handle bytes).2 attempts

namespace Reached

variable {start c : Connection} {events : List Event} {attempts : List Attempt}

theorem connect (reached : Reached start events c attempts) (device : String) :
    ∃ later, Reached start (events ++ later) (c.connect device).2 attempts := by
  rw [Connection.connect]
  cases began : c.beginConnect with
  | error e => exact ⟨_, reached.refuse device began⟩
  | ok begun =>
    obtain ⟨ticket, begun⟩ := begun
    have waiting : Reached start (events ++ [.began ticket]) begun
        ([] ++ { device, ticket } :: attempts) := reached.begin device began
    have finished := (waiting.answer rfl).finish rfl
    simp only [List.append_assoc] at finished
    exact ⟨_, finished⟩

theorem endpoint_eq (reached : Reached start events c attempts) : c.endpoint = start.endpoint := by
  induction reached with
  | start => rfl
  | begin device reached began ih => exact (endpoint_begun began).trans ih
  | finish reached answered ih => exact (endpoint_finishConnect _ _ _ _).trans ih
  | close reached ih => exact (endpoint_close _).trans ih
  | script medium behavior failures reached ih => exact ih
  | prepare reached ih => exact ih
  | refuse device reached refused ih => exact ih
  | answer reached waiting ih => exact ih
  | fail e reached waiting ih => exact ih
  | obtain direction reached ih => exact ih
  | read handle length reached ih => exact ih
  | write handle bytes reached ih => exact ih

/-- The events are those of a run of the lifecycle, which the connection and the record of its
transport come out of. -/
theorem reflects (reached : Reached start events c attempts) (new : start.IsNew) :
    ∃ s, Run {} events s ∧ c.Reflects s ∧ s.attempts = attempts := by
  induction reached with
  | start => exact ⟨{}, .nil, ⟨new.lifecycle, .of_unused new.unused⟩, rfl⟩
  | script medium behavior failures reached ih =>
    obtain ⟨s, run, r, underWay⟩ := ih
    have records := r.records
    exact ⟨s, run, ⟨r.lifecycle, records.opened, records.prompt, records.shutDown⟩, underWay⟩
  | prepare reached ih =>
    obtain ⟨s, run, r, underWay⟩ := ih
    obtain ⟨next, step, r', same⟩ := r.prepare
    exact ⟨next, run.snoc step, r', same.trans underWay⟩
  | refuse device reached refused ih =>
    obtain ⟨s, run, r, underWay⟩ := ih
    exact ⟨s, run.snoc (r.refuse device refused), r, underWay⟩
  | begin device reached began ih =>
    obtain ⟨s, run, r, underWay⟩ := ih
    obtain ⟨next, step, r', more⟩ := r.begin device began
    exact ⟨next, run.snoc step, r', by rw [more, underWay]⟩
  | answer reached waiting ih =>
    obtain ⟨s, run, r, underWay⟩ := ih
    obtain ⟨next, step, r', answered⟩ := r.answer underWay waiting
    exact ⟨next, run.snoc step, r', answered⟩
  | fail e reached waiting ih =>
    obtain ⟨s, run, r, underWay⟩ := ih
    obtain ⟨next, step, r', answered⟩ := r.fail e underWay waiting
    exact ⟨next, run.snoc step, r', answered⟩
  | finish reached answered ih =>
    obtain ⟨s, run, r, underWay⟩ := ih
    obtain ⟨next, step, r', rest⟩ := r.finish run.consistent underWay answered
    exact ⟨next, run.snoc step, r', rest⟩
  | obtain direction reached ih =>
    obtain ⟨s, run, r, underWay⟩ := ih
    obtain ⟨next, step, r', same⟩ := r.obtain direction
    exact ⟨next, run.snoc step, r', same.trans underWay⟩
  | close reached ih =>
    obtain ⟨s, run, r, underWay⟩ := ih
    obtain ⟨next, step, r', same⟩ := r.close run.consistent
    exact ⟨next, run.snoc step, r', same.trans underWay⟩
  | read handle length reached ih =>
    obtain ⟨s, run, r, underWay⟩ := ih
    exact ⟨s, run, ⟨r.lifecycle, r.records.read handle.stream length⟩, underWay⟩
  | write handle bytes reached ih =>
    obtain ⟨s, run, r, underWay⟩ := ih
    exact ⟨s, run, ⟨r.lifecycle, r.records.write handle.stream bytes⟩, underWay⟩

end Reached

end Connection

end RemoteDevice
