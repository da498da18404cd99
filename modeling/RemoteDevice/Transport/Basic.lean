import RemoteDevice.Transport.Error
import RemoteDevice.Transport.Loopback

/-!
Transports open streams. What a transport does is scripted: how it answers, and which operations
on its streams fail. Its streams are numbered in the order in which they were opened.
-/
set_option autoImplicit false

namespace RemoteDevice

/-- Where a stream leads to. -/
structure Endpoint where
  host : String
  port : UInt16
deriving DecidableEq, Repr

/-- A host with a colon in it is written in brackets, so that the port is what follows the last
colon. -/
def Endpoint.text (e : Endpoint) : String :=
  let host := if e.host.toList.contains ':' then "[" ++ e.host ++ "]" else e.host
  host ++ ":" ++ toString e.port.toNat

/-- What a transport works over, and whether anybody was told that it is missing. -/
structure Medium where
  available : Bool := true
  notified : Bool := false
deriving DecidableEq, Repr

/-- How a transport answers when a stream is to be opened. -/
inductive Behavior where
  | accept
  | refuse
  | timeout
  /-- Accepts after some milliseconds. -/
  | delay (milliseconds : Nat)
deriving DecidableEq, Repr

namespace Behavior

/-- The answer, if the opener waits for `limit` milliseconds. -/
def answer (b : Behavior) (e : Endpoint) (limit : Nat) : Except TransportError Unit :=
  match b with
  | accept => .ok ()
  | refuse => .error (.refused e.text)
  | timeout => .error .timeout
  | delay ms => if limit < ms then .error .timeout else .ok ()

/-- Whether the opener has to wait. -/
def isSlow (b : Behavior) (limit : Nat) : Bool :=
  match b with
  | delay ms => 0 < min ms limit
  | _ => false

end Behavior

/-- The operations that fail. Shutting down takes place even where it fails. -/
structure Failures where
  noDelay : Bool := false
  clone : Bool := false
  shutDown : Bool := false
deriving DecidableEq, Repr

structure Transport where
  kind : String
  medium : Medium := {}
  behavior : Behavior := .accept
  failures : Failures := {}
  streams : List Loopback := []
deriving DecidableEq, Repr

namespace Transport

/-- A transport whose streams lead back to where they start. -/
def mock : Transport := { kind := "mock" }

/-- A network on which nobody answers. -/
def tcp : Transport := { kind := "tcp", behavior := .timeout }

/-- Tells whoever is responsible that the medium is missing. -/
def notifyUnavailable (t : Transport) : Transport :=
  { t with medium := { t.medium with notified := true } }

/-- The number of streams opened so far. -/
def opened (t : Transport) : Nat := t.streams.length

/-- Opens a stream and gives its number. -/
def openStream (t : Transport) (e : Endpoint) (limit : Nat) :
    Except TransportError Nat × Transport :=
  match t.behavior.answer e limit with
  | .error error => (.error error, t)
  | .ok _ => (.ok t.opened, { t with streams := t.streams ++ [{}] })

def modifyStream (t : Transport) (stream : Nat) (f : Loopback → Loopback) : Transport :=
  { t with streams := t.streams.modify stream f }

/-- Has small amounts of bytes sent at once. -/
def setNoDelay (t : Transport) (stream : Nat) : Except TransportError Unit × Transport :=
  if t.failures.noDelay then (.error (.unsupported "nodelay"), t)
  else (.ok (), t.modifyStream stream fun s => { s with noDelay := true })

/-- Whether a stream can be given another handle now. -/
def cloneStream (t : Transport) : Except TransportError Unit :=
  if t.failures.clone then .error (.unavailable "clone") else .ok ()

def shutDown (t : Transport) (stream : Nat) : Except TransportError Unit × Transport :=
  (if t.failures.shutDown then .error (.io "shutdown") else .ok (),
    t.modifyStream stream Loopback.shutDown)

/-- Reads from a stream; there is nothing to read from a number that no stream has. -/
def read (t : Transport) (stream length : Nat) : Except StreamError (List UInt8) × Transport :=
  match t.streams[stream]? with
  | none => (.ok [], t)
  | some s =>
    let (result, next) := s.read length
    (result, t.modifyStream stream fun _ => next)

def write (t : Transport) (stream : Nat) (bytes : List UInt8) :
    Except StreamError Nat × Transport :=
  match t.streams[stream]? with
  | none => (.error .brokenPipe, t)
  | some s =>
    let (result, next) := s.write bytes
    (result, t.modifyStream stream fun _ => next)

end Transport

end RemoteDevice
