import RemoteDevice.Connection.Basic
import RemoteDevice.Descriptor.Encoder
import RemoteDevice.Device.Hub
import RemoteDevice.Device.Info

/-!
Devices: a descriptor with a connection to what it describes, under a session id of this program.
A device counts its attempts to connect and tells its listener how they end and when it is closed.
-/
set_option autoImplicit false

namespace RemoteDevice

/-- What a device is made from. -/
structure Blueprint where
  /-- The name under which devices of this kind are registered. -/
  typeName : String
  descriptor : Descriptor
  transport : Transport
  timeout : Nat := 10000
deriving DecidableEq, Repr

structure Device where
  session : Nat
  typeName : String
  descriptor : Descriptor
  connection : Connection
  listener : Option Nat := none
  info : DeviceInfo := {}
  /-- Whether its attempts to connect are counted. -/
  metered : Bool := false
deriving DecidableEq, Repr

namespace Device

/-- Makes a device under the next session id. -/
def create (b : Blueprint) (hub : Hub) : Device × Hub :=
  let (session, hub) := hub.takeSession
  let endpoint : Endpoint := ⟨b.descriptor.host, b.descriptor.port⟩
  ({ session, typeName := b.typeName, descriptor := b.descriptor
     connection := { transport := b.transport, endpoint, timeout := b.timeout } }, hub)

def state (d : Device) : ConnectionState := d.connection.state

def displayAddress (d : Device) : String := d.connection.endpoint.text

/-- The name of the device, or its address if it has none. -/
def label (d : Device) : String :=
  if d.descriptor.name.isEmpty then d.displayAddress else d.descriptor.name

def sessionText (d : Device) : String := "dev-" ++ toString d.session

/-- The label and the session id, as notices name the device. -/
def fullName (d : Device) : String := d.label ++ " (" ++ d.sessionText ++ ")"

/-- The question to ask before connecting, unless no confirmation is wanted. -/
def connectionMessage (d : Device) (skipConfirmation : Bool) : Option String :=
  if skipConfirmation then none
  else some ("Connect to " ++ d.label ++ " at " ++ d.displayAddress ++ "?")

def serialize (d : Device) : Except FieldError String := d.descriptor.encode

/-- Whether an encrypted session can be tried. -/
def triesEncryption (d : Device) : Bool := d.descriptor.hasPsk

def setListener (d : Device) (listener : Nat) : Device := { d with listener := some listener }

def clearListener (d : Device) : Device := { d with listener := none }

/-- The listener, provided that it has not been released. -/
def reachListener (d : Device) (hub : Hub) : Option Nat := hub.listeners.reach d.listener

def prepare (d : Device) : Bool × Device :=
  let (ready, connection) := d.connection.prepare
  (ready, { d with connection })

def countAttempt (d : Device) (hub : Hub) : Hub :=
  if d.metered then
    hub.modifyMetrics fun m => { m with connectAttempts := m.connectAttempts + 1 }
  else hub

def countFailure (d : Device) (hub : Hub) : Hub :=
  if d.metered then
    hub.modifyMetrics fun m => { m with connectFailures := m.connectFailures + 1 }
  else hub

/-- Counts how an attempt to connect ended and tells the listener. -/
def report (d : Device) (hub : Hub) : Except ConnectionError Unit → Hub
  | .ok _ => hub.notify d.listener (.opened d.fullName)
  | .error e => (d.countFailure hub).notify d.listener (.failed d.fullName e.message)

def connect (d : Device) (hub : Hub) : Except ConnectionError Unit × Device × Hub :=
  let (result, connection) := d.connection.connect d.fullName
  let d := { d with connection }
  (result, d, d.report (d.countAttempt hub) result)

/-- Tells the listener that the device was closed, unless it had been closed before. -/
def reportClosing (d : Device) (hub : Hub) (closedNow : Bool) : Hub :=
  if closedNow then hub.notify d.listener (.closed d.fullName) else hub

def close (d : Device) (hub : Hub) : Device × Hub :=
  let (closedNow, connection) := d.connection.close
  let d := { d with connection }
  (d, d.reportClosing hub closedNow)

/-- Connects while another caller closes the device as soon as it is connecting. If connecting
does not have to wait for the transport, it is over by then. -/
def connectWhileClosing (d : Device) (hub : Hub) : Except ConnectionError Unit × Device × Hub :=
  match d.connection.beginConnect with
  | .ok (ticket, connection) =>
    if connection.transport.behavior.isSlow connection.timeout then
      let (d, hub) := { d with connection }.close (d.countAttempt hub)
      let (opened, connection) := d.connection.openStream
      let (result, connection) := connection.finishConnect d.fullName ticket opened
      let d := { d with connection }
      (result, d, d.report hub result)
    else
      let (result, d, hub) := d.connect hub
      (result, d.close hub)
  | .error _ =>
    let (result, d, hub) := d.connect hub
    (result, d.close hub)

def obtain (d : Device) (direction : Direction) : Except ConnectionError Handle × Device :=
  let (result, connection) := d.connection.obtain direction
  (result, { d with connection })

end Device

end RemoteDevice
