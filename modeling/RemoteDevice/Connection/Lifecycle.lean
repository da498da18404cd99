import RemoteDevice.Connection.Error

/-!
The life of a connection: it is prepared, connected at most once with success, and closed for
good. Each function here is one uninterrupted step, and steps of several callers may follow one
another in any order. Connecting takes two steps with the opening of the stream between them; a
ticket from the first step tells the second whether the connection was closed in the meantime.
What the transport answers comes in as an argument, and a stream that has to be shut down goes out
in the result.
-/
set_option autoImplicit false

namespace RemoteDevice

/-- One end of a stream as it is given to callers. -/
structure Handle where
  number : Nat
  stream : Nat
deriving DecidableEq, Repr

inductive Direction where
  | input
  | output
deriving DecidableEq, Repr

structure Lifecycle where
  state : ConnectionState := .new
  /-- Moves on with each attempt to connect and with the closing, and starts over after 2 ^ 64. -/
  generation : UInt64 := 0
  stream : Option Nat := none
  input : Option Handle := none
  output : Option Handle := none
  /-- The number of handles made so far. -/
  handles : Nat := 0
deriving DecidableEq, Repr

namespace Lifecycle

/-- Whether preparing depends on the medium. -/
def needsMedium (l : Lifecycle) : Bool := l.state = .new || l.state = .prepared

/-- Prepares the connection if the medium is there; tells whether it can be connected or is. -/
def prepare (l : Lifecycle) (available : Bool) : Bool × Lifecycle :=
  match l.state with
  | .closed => (false, l)
  | .connecting | .connected => (true, l)
  | .new | .prepared => if available then (true, { l with state := .prepared }) else (false, l)

/-- Starts to connect and gives the ticket, unless the connection is not prepared. -/
def beginConnect (l : Lifecycle) : Except ConnectionError (UInt64 × Lifecycle) :=
  if l.state = .prepared then
    .ok (l.generation + 1, { l with state := .connecting, generation := l.generation + 1 })
  else .error (.invalidState l.state "connect")

/-- Whether the attempt with the ticket is still going on. -/
def awaits (l : Lifecycle) (ticket : UInt64) : Bool :=
  l.generation = ticket && l.state = .connecting

/-- The stream that an attempt is about to keep, which has to send small amounts at once. -/
def incoming (l : Lifecycle) (ticket : UInt64) (opened : Except TransportError Nat) : Option Nat :=
  if l.awaits ticket then opened.toOption else none

/-- How an attempt to connect ends. -/
structure Finish where
  result : Except ConnectionFault Unit
  /-- The stream that is not needed any more. -/
  discarded : Option Nat
  next : Lifecycle

/-- What the caller is told, who gave a name to the device. -/
def Finish.outcome (f : Finish) (device : String) : Except ConnectionError Unit :=
  f.result.mapError (.failed device)

/-- Ends an attempt to connect, given the stream or why there is none, and whether the stream
sends small amounts at once. -/
def finishConnect (l : Lifecycle) (ticket : UInt64) (opened : Except TransportError Nat)
    (noDelay : Except TransportError Unit) : Finish :=
  if l.awaits ticket then
    match opened, noDelay with
    | .error e, _ => ⟨.error (.transport e), none, { l with state := .prepared }⟩
    | .ok s, .error e => ⟨.error (.latency e), some s, { l with state := .prepared }⟩
    | .ok s, .ok _ => ⟨.ok (), none, { l with state := .connected, stream := some s }⟩
  else ⟨.error .closedMeanwhile, opened.toOption, l⟩

def handle? (l : Lifecycle) : Direction → Option Handle
  | .input => l.input
  | .output => l.output

def setHandle (l : Lifecycle) (h : Handle) : Direction → Lifecycle
  | .input => { l with input := some h }
  | .output => { l with output := some h }

/-- Why there is no handle. -/
inductive HandleFault where
  | notConnected
  | clone (error : TransportError)
deriving DecidableEq, Repr

/-- The handle for a direction: the one given before, or a new one of the stream, for which the
transport has to clone it. -/
def obtain (l : Lifecycle) (d : Direction) (cloned : Except TransportError Unit) :
    Except HandleFault Handle × Lifecycle :=
  match l.handle? d with
  | some h => (.ok h, l)
  | none =>
    match l.state, l.stream, cloned with
    | .connected, some _, .error e => (.error (.clone e), l)
    | .connected, some s, .ok _ =>
      (.ok ⟨l.handles, s⟩, { l with handles := l.handles + 1 }.setHandle ⟨l.handles, s⟩ d)
    | _, _, _ => (.error .notConnected, l)

/-- What closing does. -/
structure Closing where
  /-- Whether the connection was open before. -/
  closedNow : Bool
  discarded : Option Nat
  next : Lifecycle
deriving DecidableEq, Repr

/-- Closes the connection and drops its stream and handles. -/
def close (l : Lifecycle) : Closing :=
  if l.state = .closed then ⟨false, none, l⟩
  else
    ⟨true, l.stream,
      { l with
        state := .closed
        generation := l.generation + 1
        stream := none
        input := none
        output := none }⟩

end Lifecycle

end RemoteDevice
