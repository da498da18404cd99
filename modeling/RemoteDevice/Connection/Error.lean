import RemoteDevice.Transport.Error

/-!
The states of a connection and why an operation on one fails.
-/
set_option autoImplicit false

namespace RemoteDevice

inductive ConnectionState where
  | new
  | prepared
  | connecting
  | connected
  /-- Nothing leads out of this state. -/
  | closed
deriving DecidableEq, Repr

def ConnectionState.name : ConnectionState → String
  | new => "new"
  | prepared => "prepared"
  | connecting => "connecting"
  | connected => "connected"
  | closed => "closed"

/-- Why a connection could not be made or used. -/
inductive ConnectionFault where
  | closedMeanwhile
  | transport (error : TransportError)
  /-- The stream would hold back small amounts of bytes. -/
  | latency (error : TransportError)
  /-- The stream could not be given another handle. -/
  | handle (error : TransportError)
deriving DecidableEq, Repr

def ConnectionFault.message : ConnectionFault → String
  | closedMeanwhile => "closed while connecting"
  | transport e => e.message
  | latency e => "disabling latency buffering: " ++ e.message
  | handle e => "duplicating stream handle: " ++ e.message

inductive ConnectionError where
  | failed (device : String) (fault : ConnectionFault)
  | notConnected
  | invalidState (state : ConnectionState) (operation : String)
deriving DecidableEq, Repr

namespace ConnectionError

def message : ConnectionError → String
  | failed device fault => "connection to " ++ device ++ " failed: " ++ fault.message
  | notConnected => "stream requested before the connection was established"
  | invalidState state operation =>
    "`" ++ operation ++ "` is not valid in state " ++ state.name

/-- Whether the operation may be tried again on the same device. -/
def isRetryable : ConnectionError → Bool
  | failed _ _ => true
  | _ => false

end ConnectionError

end RemoteDevice
