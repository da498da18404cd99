/-!
Loopback streams: bytes written to one can be read back from it in the same order. After it has
been shut down nothing more can be written, but what was written before can still be read.
-/
set_option autoImplicit false

namespace RemoteDevice

structure Loopback where
  /-- The bytes written and not yet read. -/
  buffered : List UInt8 := []
  isShutDown : Bool := false
  noDelay : Bool := false
deriving DecidableEq, Repr

/-- Why bytes cannot be read or written. -/
inductive StreamError where
  /-- Nothing arrived in time. -/
  | timedOut
  | brokenPipe
deriving DecidableEq, Repr

def StreamError.message : StreamError → String
  | timedOut => "mock read timed out"
  | brokenPipe => "mock stream shut down"

namespace Loopback

/-- Takes up to `length` bytes. With nothing buffered an open stream keeps the reader waiting and
one that is shut down is at its end. -/
def read (s : Loopback) (length : Nat) : Except StreamError (List UInt8) × Loopback :=
  if s.buffered.isEmpty then (if s.isShutDown then .ok [] else .error .timedOut, s)
  else (.ok (s.buffered.take length), { s with buffered := s.buffered.drop length })

/-- Appends bytes and tells how many were taken. -/
def write (s : Loopback) (bytes : List UInt8) : Except StreamError Nat × Loopback :=
  if s.isShutDown then (.error .brokenPipe, s)
  else (.ok bytes.length, { s with buffered := s.buffered ++ bytes })

def shutDown (s : Loopback) : Loopback := { s with isShutDown := true }

end Loopback

end RemoteDevice
