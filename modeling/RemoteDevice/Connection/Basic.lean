import RemoteDevice.Connection.Lifecycle
import RemoteDevice.Transport.Basic

/-!
A connection: a lifecycle together with the transport that answers it. The operations put the
steps of the lifecycle together with the answers and carry out what the steps ask for.
-/
set_option autoImplicit false

namespace RemoteDevice

structure Connection where
  transport : Transport
  endpoint : Endpoint
  /-- How many milliseconds an attempt to connect may take. -/
  timeout : Nat := 10000
  lifecycle : Lifecycle := {}
deriving DecidableEq, Repr

namespace Connection

def state (c : Connection) : ConnectionState := c.lifecycle.state

/-- Prepares the connection; where only the medium is missing, that is made known. -/
def prepare (c : Connection) : Bool × Connection :=
  let available := c.transport.medium.available
  let (ready, lifecycle) := c.lifecycle.prepare available
  let transport :=
    if c.lifecycle.needsMedium && !available then c.transport.notifyUnavailable else c.transport
  (ready, { c with transport, lifecycle })

def beginConnect (c : Connection) : Except ConnectionError (UInt64 × Connection) :=
  match c.lifecycle.beginConnect with
  | .error e => .error e
  | .ok (ticket, lifecycle) => .ok (ticket, { c with lifecycle })

/-- Has the transport open a stream. -/
def openStream (c : Connection) : Except TransportError Nat × Connection :=
  let (opened, transport) := c.transport.openStream c.endpoint c.timeout
  (opened, { c with transport })

/-- Shuts a stream down, if there is one. Whether that succeeds makes no difference. -/
def discard (c : Connection) : Option Nat → Connection
  | none => c
  | some stream => { c with transport := (c.transport.shutDown stream).2 }

/-- Has the stream of an attempt that is still going on send small amounts at once. -/
def setNoDelay (c : Connection) (ticket : UInt64) (opened : Except TransportError Nat) :
    Except TransportError Unit × Connection :=
  match c.lifecycle.incoming ticket opened with
  | some stream =>
    let (result, transport) := c.transport.setNoDelay stream
    (result, { c with transport })
  | none => (.ok (), c)

/-- Ends an attempt of the device `device` to connect. -/
def finishConnect (c : Connection) (device : String) (ticket : UInt64)
    (opened : Except TransportError Nat) : Except ConnectionError Unit × Connection :=
  let (noDelay, c) := c.setNoDelay ticket opened
  let finish := c.lifecycle.finishConnect ticket opened noDelay
  let c := { c with lifecycle := finish.next }.discard finish.discarded
  (finish.outcome device, c)

/-- Connects without anything in between. -/
def connect (c : Connection) (device : String) : Except ConnectionError Unit × Connection :=
  match c.beginConnect with
  | .error e => (.error e, c)
  | .ok (ticket, c) =>
    let (opened, c) := c.openStream
    c.finishConnect device ticket opened

def obtain (c : Connection) (d : Direction) : Except ConnectionError Handle × Connection :=
  let (result, lifecycle) := c.lifecycle.obtain d c.transport.cloneStream
  let error : Lifecycle.HandleFault → ConnectionError
    | .notConnected => .notConnected
    | .clone e => .failed c.endpoint.text (.handle e)
  (result.mapError error, { c with lifecycle })

/-- Closes the connection and tells whether it was open before. -/
def close (c : Connection) : Bool × Connection :=
  let closing := c.lifecycle.close
  (closing.closedNow, { c with lifecycle := closing.next }.discard closing.discarded)

/-- Reads through a handle, which may be older than the closing. -/
def read (c : Connection) (h : Handle) (length : Nat) :
    Except StreamError (List UInt8) × Connection :=
  let (result, transport) := c.transport.read h.stream length
  (result, { c with transport })

def write (c : Connection) (h : Handle) (bytes : List UInt8) :
    Except StreamError Nat × Connection :=
  let (result, transport) := c.transport.write h.stream bytes
  (result, { c with transport })

end Connection

end RemoteDevice
