import RemoteDevice.Transport.Loopback

/-!
# Nothing is lost in a loopback stream

What was delivered and what is still buffered are together what was there at first and what was
accepted since (`Flows.conserved`). From the shutting down on nothing is accepted, so that what was
buffered then is all that is left to deliver (`Flows.drained`).
-/
set_option autoImplicit false

namespace RemoteDevice.Loopback

/-- A use of a stream and what came of it. -/
inductive Use where
  | read (length : Nat) (result : Except StreamError (List UInt8))
  | write (bytes : List UInt8) (result : Except StreamError Nat)
  | shutDown

def Use.delivered : Use → List UInt8
  | read _ (.ok bytes) => bytes
  | _ => []

def Use.accepted : Use → List UInt8
  | write bytes (.ok count) => bytes.take count
  | _ => []

def delivered (uses : List Use) : List UInt8 := uses.flatMap Use.delivered

def accepted (uses : List Use) : List UInt8 := uses.flatMap Use.accepted

inductive Flows : Loopback → List Use → Loopback → Prop
  | nil (s : Loopback) : Flows s [] s
  | noDelay {s t : Loopback} {uses : List Use} (noDelay : Bool)
      (flows : Flows { s with noDelay } uses t) : Flows s uses t
  | read {s t : Loopback} {uses : List Use} (length : Nat)
      (flows : Flows (s.read length).2 uses t) :
      Flows s (.read length (s.read length).1 :: uses) t
  | write {s t : Loopback} {uses : List Use} (bytes : List UInt8)
      (flows : Flows (s.write bytes).2 uses t) :
      Flows s (.write bytes (s.write bytes).1 :: uses) t
  | shutDown {s t : Loopback} {uses : List Use} (flows : Flows s.shutDown uses t) :
      Flows s (.shutDown :: uses) t

theorem Flows.append {s t u : Loopback} {uses later : List Use} (flows : Flows s uses t)
    (onward : Flows t later u) : Flows s (uses ++ later) u := by
  induction flows with
  | nil => exact onward
  | noDelay noDelay flows ih => exact .noDelay noDelay (ih onward)
  | read length flows ih => exact .read length (ih onward)
  | write bytes flows ih => exact .write bytes (ih onward)
  | shutDown flows ih => exact .shutDown (ih onward)

/-! ## One use -/

section Use

variable (s : Loopback)

theorem read_eq (length : Nat) (ready : s.buffered ≠ [] ∨ s.isShutDown = true) :
    s.read length =
      (.ok (s.buffered.take length), { s with buffered := s.buffered.drop length }) := by
  rw [read]
  split
  next empty =>
    rw [List.isEmpty_iff] at empty
    have shut := ready.resolve_left fun nonempty => nonempty empty
    rw [if_pos shut, empty, List.take_nil, List.drop_nil, ← empty]
  next => rfl

/-- Only an empty open stream keeps its reader waiting. -/
theorem read_waiting {s : Loopback} (length : Nat) (empty : s.buffered = [])
    (unshut : s.isShutDown = false) : s.read length = (.error .timedOut, s) := by
  simp [read, empty, unshut]

theorem write_open {s : Loopback} (bytes : List UInt8) (unshut : s.isShutDown = false) :
    s.write bytes = (.ok bytes.length, { s with buffered := s.buffered ++ bytes }) := by
  simp [write, unshut]

theorem write_shutDown {s : Loopback} (bytes : List UInt8) (shut : s.isShutDown = true) :
    s.write bytes = (.error .brokenPipe, s) := by
  simp [write, shut]

theorem count_of_written {s : Loopback} {bytes : List UInt8} {count : Nat}
    (written : (s.write bytes).1 = .ok count) : count = bytes.length := by
  cases shut : s.isShutDown with
  | false =>
    rw [write_open bytes shut] at written
    cases written
    rfl
  | true =>
    rw [write_shutDown bytes shut] at written
    cases written

theorem shutDown_shutDown {s : Loopback} (shut : s.isShutDown = true) : s.shutDown = s := by
  rw [shutDown, ← shut]

theorem isShutDown_read (length : Nat) : (s.read length).2.isShutDown = s.isShutDown := by
  rw [read]
  split <;> rfl

theorem isShutDown_write (bytes : List UInt8) : (s.write bytes).2.isShutDown = s.isShutDown := by
  rw [write]
  split <;> rfl

theorem conserved_read (length : Nat) :
    (Use.read length (s.read length).1).delivered ++ (s.read length).2.buffered = s.buffered := by
  by_cases ready : s.buffered ≠ [] ∨ s.isShutDown = true
  · rw [s.read_eq length ready]
    exact List.take_append_drop length s.buffered
  · simp only [not_or, Decidable.not_not, Bool.not_eq_true] at ready
    rw [read_waiting length ready.1 ready.2]
    rfl

theorem conserved_write (bytes : List UInt8) :
    (s.write bytes).2.buffered =
      s.buffered ++ (Use.write bytes (s.write bytes).1).accepted := by
  cases shut : s.isShutDown with
  | false => simp [write_open bytes shut, Use.accepted]
  | true => simp [write_shutDown bytes shut, Use.accepted]

end Use

/-! ## All uses -/

namespace Flows

variable {s t : Loopback} {uses : List Use}

theorem conserved (flows : Flows s uses t) :
    delivered uses ++ t.buffered = s.buffered ++ accepted uses := by
  induction flows with
  | nil s => simp [delivered, accepted]
  | noDelay noDelay flows ih => exact ih
  | @read s t uses length flows ih =>
    have step := s.conserved_read length
    calc delivered (.read length (s.read length).1 :: uses) ++ t.buffered
        = (Use.read length (s.read length).1).delivered ++ (delivered uses ++ t.buffered) := by
          simp [delivered]
      _ = s.buffered ++ accepted uses := by rw [ih, ← List.append_assoc, step]
  | @write s t uses bytes flows ih =>
    have step := s.conserved_write bytes
    calc delivered uses ++ t.buffered
        = s.buffered ++ (Use.write bytes (s.write bytes).1).accepted ++ accepted uses := by
          rw [ih, step]
      _ = s.buffered ++ accepted (.write bytes (s.write bytes).1 :: uses) := by simp [accepted]
  | shutDown flows ih => exact ih

theorem isShutDown (flows : Flows s uses t) (shut : s.isShutDown = true) : t.isShutDown = true := by
  induction flows with
  | nil => exact shut
  | noDelay noDelay flows ih => exact ih shut
  | read length flows ih => exact ih (by rw [isShutDown_read, shut])
  | write bytes flows ih => exact ih (by rw [isShutDown_write, shut])
  | shutDown flows ih => exact ih rfl

theorem accepted_eq_nil (flows : Flows s uses t) (shut : s.isShutDown = true) :
    accepted uses = [] := by
  induction flows with
  | nil => rfl
  | noDelay noDelay flows ih => exact ih shut
  | read length flows ih => exact ih (by rw [isShutDown_read, shut])
  | write bytes flows ih =>
    have rest := ih (by rw [isShutDown_write, shut])
    rw [write_shutDown bytes shut]
    exact rest
  | shutDown flows ih => exact ih rfl

theorem drained (flows : Flows s uses t) (shut : s.isShutDown = true) :
    delivered uses ++ t.buffered = s.buffered := by
  rw [flows.conserved, flows.accepted_eq_nil shut, List.append_nil]

end Flows

end RemoteDevice.Loopback
