/-!
What can go wrong while a stream is opened or used.
-/
set_option autoImplicit false

namespace RemoteDevice

inductive TransportError where
  | unavailable (medium : String)
  | unsupported (operation : String)
  | refused (detail : String)
  | io (detail : String)
  | timeout
deriving DecidableEq, Repr

namespace TransportError

def message : TransportError → String
  | unavailable medium => "transport medium unavailable: " ++ medium
  | unsupported operation => "operation not supported on this backend: " ++ operation
  | refused detail => "connection refused: " ++ detail
  | io detail => "I/O error: " ++ detail
  | timeout => "timeout"

end TransportError

/-- The kinds of failures of a system that are told apart. -/
inductive SystemFailure where
  | timedOut
  | wouldBlock
  | connectionRefused
  | other
deriving DecidableEq, Repr

/-- Classifies a failure: late answers count as timeouts. -/
def TransportError.ofSystem (failure : SystemFailure) (detail : String) : TransportError :=
  match failure with
  | .timedOut | .wouldBlock => timeout
  | .connectionRefused => refused detail
  | .other => io detail

end RemoteDevice
