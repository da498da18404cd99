import RemoteDevice.Connection.Lifecycle

/-!
# A lifecycle shared by callers

Any number of callers use one lifecycle at once. What they do is cut into steps that nothing
interrupts: preparing, the two steps of a connect, the answer of the transport between these two,
obtaining a handle, and closing. `Step` says what one of them does, for every answer that a
transport may give, and `Run` puts steps of all callers one after the other in any order.

Beside the lifecycle the state keeps the calls of connect that are under way, and the fate of
every stream: that it was opened, that it was set to send small amounts at once, that it was shut
down. Shutting down takes place whether or not the transport reports a failure, so its report does
not show.
-/
set_option autoImplicit false

namespace RemoteDevice.Lifecycle

/-- A call of connect between its two steps. -/
structure Attempt where
  /-- The name under which the caller knows the device. -/
  device : String
  ticket : UInt64
  /-- The answer of the transport; nothing as long as the caller waits for it. -/
  answer : Option (Except TransportError Nat) := none

structure Shared where
  lifecycle : Lifecycle := {}
  attempts : List Attempt := []
  /-- Every stream ever opened. -/
  opened : List Nat := []
  /-- The streams that were made to send small amounts at once. -/
  prompt : List Nat := []
  shutDown : List Nat := []

namespace Shared

/-- The stream came out of an attempt that has yet to finish. -/
def Holds (s : Shared) (stream : Nat) : Prop :=
  ∃ attempt ∈ s.attempts, attempt.answer = some (.ok stream)

def Stores (s : Shared) (stream : Nat) : Prop := s.lifecycle.stream = some stream

end Shared

/-- What a caller or the transport sees of a step. -/
inductive Event where
  | prepared (available ready : Bool)
  | began (ticket : UInt64)
  | answered (ticket : UInt64) (answer : Except TransportError Nat)
  /-- A connect came to its end, be it in its first step or in its second. -/
  | returned (device : String) (result : Except ConnectionError Unit)
  | obtained (direction : Direction) (result : Except HandleFault Handle)
  | closed (closedNow : Bool)

/-- One step of one caller. A transport answers with a stream that it has not given before. -/
inductive Step (s : Shared) : Event → Shared → Prop
  | prepare (available : Bool) :
      Step s (.prepared available (s.lifecycle.prepare available).1)
        { s with lifecycle := (s.lifecycle.prepare available).2 }
  | refuse (device : String) {e : ConnectionError} (refused : s.lifecycle.beginConnect = .error e) :
      Step s (.returned device (.error e)) s
  | begin (device : String) {ticket : UInt64} {next : Lifecycle}
      (begun : s.lifecycle.beginConnect = .ok (ticket, next)) :
      Step s (.began ticket)
        { s with lifecycle := next, attempts := { device, ticket } :: s.attempts }
  | answer {before after : List Attempt} {attempt : Attempt} (answer : Except TransportError Nat)
      (underWay : s.attempts = before ++ attempt :: after) (waiting : attempt.answer = none)
      (fresh : ∀ stream, answer = .ok stream → stream ∉ s.opened) :
      Step s (.answered attempt.ticket answer)
        { s with
          attempts := before ++ { attempt with answer := some answer } :: after
          opened := answer.toOption.toList ++ s.opened }
  | finish {before after : List Attempt} {attempt : Attempt} {answer : Except TransportError Nat}
      (noDelay : Except TransportError Unit) (underWay : s.attempts = before ++ attempt :: after)
      (answered : attempt.answer = some answer) :
      Step s
        (.returned attempt.device
          ((s.lifecycle.finishConnect attempt.ticket answer noDelay).outcome attempt.device))
        { s with
          lifecycle := (s.lifecycle.finishConnect attempt.ticket answer noDelay).next
          attempts := before ++ after
          prompt := match noDelay with
            | .ok _ => (s.lifecycle.incoming attempt.ticket answer).toList ++ s.prompt
            | .error _ => s.prompt
          shutDown :=
            (s.lifecycle.finishConnect attempt.ticket answer noDelay).discarded.toList ++
              s.shutDown }
  | obtain (direction : Direction) (cloned : Except TransportError Unit) :
      Step s (.obtained direction (s.lifecycle.obtain direction cloned).1)
        { s with lifecycle := (s.lifecycle.obtain direction cloned).2 }
  | close :
      Step s (.closed s.lifecycle.close.closedNow)
        { s with
          lifecycle := s.lifecycle.close.next
          shutDown := s.lifecycle.close.discarded.toList ++ s.shutDown }

/-- Steps one after the other, the last one at the end of the list. -/
inductive Run (start : Shared) : List Event → Shared → Prop
  | nil : Run start [] start
  | snoc {events : List Event} {s next : Shared} {event : Event} (run : Run start events s)
      (step : Step s event next) : Run start (events ++ [event]) next

theorem Run.append {start s t : Shared} {events later : List Event} (run : Run start events s)
    (onward : Run s later t) : Run start (events ++ later) t := by
  induction onward with
  | nil =>
    rw [List.append_nil]
    exact run
  | snoc onward step ih =>
    rw [← List.append_assoc]
    exact ih.snoc step

end RemoteDevice.Lifecycle
