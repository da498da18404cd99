/-!
What the devices of one program share: the session ids given out, the counters, and the listeners
that are told about connections. A device refers to its listener by number and does not keep it;
once the listener is released nothing reaches it any more.
-/
set_option autoImplicit false

namespace RemoteDevice

/-- What a listener is told; the texts name the device. -/
inductive Notice where
  | opened (device : String)
  | failed (device message : String)
  | closed (device : String)
deriving DecidableEq, Repr

/-- Listeners by number, and every notice that reached one, in order. -/
structure Listeners where
  /-- The number of listeners ever made. -/
  count : Nat := 0
  alive : List Nat := []
  received : List (Nat × Notice) := []
deriving DecidableEq, Repr

namespace Listeners

/-- Makes a listener and gives its number. -/
def add (l : Listeners) : Nat × Listeners :=
  (l.count, { l with count := l.count + 1, alive := l.count :: l.alive })

def release (l : Listeners) (listener : Nat) : Listeners :=
  { l with alive := l.alive.filter (· ≠ listener) }

/-- The listener, provided that it has not been released. -/
def reach (l : Listeners) (listener : Option Nat) : Option Nat := listener.filter l.alive.contains

def notify (l : Listeners) (listener : Option Nat) (n : Notice) : Listeners :=
  match l.reach listener with
  | some number => { l with received := l.received ++ [(number, n)] }
  | none => l

/-- What has reached a listener. -/
def noticesOf (l : Listeners) (listener : Nat) : List Notice :=
  (l.received.filter fun entry => entry.1 = listener).map Prod.snd

end Listeners

structure Metrics where
  /-- How many devices the last reconstruction gave. -/
  devicesLoaded : Nat := 0
  entriesSkipped : Nat := 0
  connectAttempts : Nat := 0
  connectFailures : Nat := 0
deriving DecidableEq, Repr

namespace Metrics

/-- One metric in the exposition format: what it means, its type and its value. -/
def exposition (name help type : String) (value : Nat) : String :=
  "# HELP " ++ name ++ " " ++ help ++ "\n# TYPE " ++ name ++ " " ++ type ++ "\n" ++ name ++ " " ++
    toString value ++ "\n"

/-- All metrics in the order of their names. -/
def text (m : Metrics) : String :=
  exposition "opdi_connect_attempts" "Total device connect attempts" "counter" m.connectAttempts ++
  exposition "opdi_connect_failures" "Device connect attempts that failed" "counter"
    m.connectFailures ++
  exposition "opdi_devices_loaded" "Number of devices reconstructed from the registry" "gauge"
    m.devicesLoaded ++
  exposition "opdi_registry_entries_skipped" "Registry entries dropped during reconstruction"
    "counter" m.entriesSkipped

end Metrics

structure Hub where
  /-- The number of session ids given out; the ids start at 1. -/
  sessions : Nat := 0
  metrics : Metrics := {}
  listeners : Listeners := {}
deriving DecidableEq, Repr

namespace Hub

/-- Gives out the next session id. -/
def takeSession (h : Hub) : Nat × Hub := (h.sessions + 1, { h with sessions := h.sessions + 1 })

def modifyMetrics (h : Hub) (f : Metrics → Metrics) : Hub := { h with metrics := f h.metrics }

def notify (h : Hub) (listener : Option Nat) (n : Notice) : Hub :=
  { h with listeners := h.listeners.notify listener n }

end Hub

end RemoteDevice
