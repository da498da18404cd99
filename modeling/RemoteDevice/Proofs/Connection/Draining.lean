import RemoteDevice.Proofs.Connection.Scripted
import RemoteDevice.Proofs.Connection.Sound
import RemoteDevice.Proofs.Outcome
import RemoteDevice.Proofs.Transport.Carriage

/-!
# What callers get out of the streams of a connection

Every stream passes its bytes on in order, whichever handles are used and whatever becomes of the
connection in the meantime (`History.carries`). Handles that callers keep when the connection is
closed give them exactly what was not read before, and then the end.
-/
set_option autoImplicit false

namespace RemoteDevice

open Loopback (Use Flows delivered accepted)

namespace Connection

open Transport (usesOf)

def shutDowns (discarded : Option Nat) : List (Nat × Use) :=
  discarded.toList.map fun stream => (stream, .shutDown)

/-- One thing that callers or the environment do, with the uses of streams it comes to and the
handles it gives out. An attempt may come back with any stream opened by then, and streams may be
used by others than the connection. -/
inductive Move (c : Connection) : List (Nat × Use) → List Handle → Connection → Prop
  | script (medium : Medium) (behavior : Behavior) (failures : Failures) :
      Move c [] [] { c with transport := { c.transport with medium, behavior, failures } }
  | prepare : Move c [] [] c.prepare.2
  | begin {begun : Connection} {ticket : UInt64} (began : c.beginConnect = .ok (ticket, begun)) :
      Move c [] [] begun
  | answer (endpoint : Endpoint) (limit : Nat) :
      Move c [] [] { c with transport := (c.transport.openStream endpoint limit).2 }
  | finish (device : String) (ticket : UInt64) (answer : Except TransportError Nat)
      (known : ∀ stream, answer = .ok stream → stream < c.transport.opened) :
      Move c
        (shutDowns
          (c.lifecycle.finishConnect ticket answer (c.setNoDelay ticket answer).1).discarded)
        [] (c.finishConnect device ticket answer).2
  | obtain (direction : Direction) :
      Move c [] (c.obtain direction).1.toOption.toList (c.obtain direction).2
  | close : Move c (shutDowns c.lifecycle.close.discarded) [] c.close.2
  | read (handle : Handle) (length : Nat) (there : handle.stream < c.transport.opened) :
      Move c [(handle.stream, .read length (c.read handle length).1)] [] (c.read handle length).2
  | write (handle : Handle) (bytes : List UInt8) (there : handle.stream < c.transport.opened) :
      Move c [(handle.stream, .write bytes (c.write handle bytes).1)] [] (c.write handle bytes).2
  | shutDown (stream : Nat) (there : stream < c.transport.opened) :
      Move c [(stream, .shutDown)] [] { c with transport := (c.transport.shutDown stream).2 }

inductive History (start : Connection) : List (Nat × Use) → List Handle → Connection → Prop
  | nil : History start [] [] start
  | snoc {c next : Connection} {uses later : List (Nat × Use)} {given more : List Handle}
      (history : History start uses given c) (move : Move c later more next) :
      History start (uses ++ later) (given ++ more) next

/-- Whatever happens from now on, the stream delivers the bytes and then the end, and takes
nothing. -/
def Drains (c : Connection) (stream : Nat) (bytes : List UInt8) : Prop :=
  ∀ uses given later, History c uses given later →
    ∃ rest, delivered (usesOf stream uses) ++ rest = bytes ∧
      ∀ handle : Handle, handle.stream = stream →
        (∀ length, (later.read handle length).1 = .ok (rest.take length)) ∧
        ∀ data, later.write handle data = (.error .brokenPipe, later)

abbrev Sound (c : Connection) : Prop := c.lifecycle.Sound c.transport.opened

variable {start c next : Connection} {uses later : List (Nat × Use)} {given more : List Handle}

/-! ## One move -/

theorem carries_setNoDelay (ticket : UInt64) {answer : Except TransportError Nat}
    (known : ∀ stream, answer = .ok stream → stream < c.transport.opened) :
    c.transport.Carries [] (c.setNoDelay ticket answer).2.transport := by
  rw [setNoDelay]
  cases incoming : c.lifecycle.incoming ticket answer with
  | none => exact .of_streams rfl
  | some stream =>
    have answered := (Lifecycle.incoming_eq_some_iff.mp incoming).2
    exact .setNoDelay (known stream answered)

theorem carries_discard (next : Lifecycle) {discarded : Option Nat}
    (known : ∀ stream, discarded = some stream → stream < c.transport.opened) :
    c.transport.Carries (shutDowns discarded)
      ({ c with lifecycle := next }.discard discarded).transport := by
  cases discarded with
  | none => exact .of_streams rfl
  | some stream => exact .shutDown (known stream rfl)

theorem Move.becomes (move : Move c uses given next) :
    c.lifecycle.Becomes c.transport.opened next.lifecycle := by
  cases move with
  | prepare => exact Lifecycle.prepare_becomes _ _
  | begin began =>
    obtain ⟨lifecycle, accepted, rfl⟩ := begin_ok began
    exact Lifecycle.begin_becomes accepted
  | finish device ticket answer known =>
    simp only [finishConnect, lifecycle_discard, lifecycle_setNoDelay]
    exact Lifecycle.finish_becomes _ known
  | obtain direction => exact Lifecycle.obtain_becomes _ _
  | close =>
    simp only [Connection.close, lifecycle_discard]
    exact Lifecycle.close_becomes
  | _ => exact .same

theorem Move.carries (move : Move c uses given next) (sound : c.Sound) :
    c.transport.Carries uses next.transport := by
  cases move with
  | script => exact .of_streams rfl
  | prepare =>
    simp only [Connection.prepare]
    split <;> exact .of_streams rfl
  | begin began =>
    obtain ⟨lifecycle, -, rfl⟩ := begin_ok began
    exact .of_streams rfl
  | answer endpoint limit => exact .openStream endpoint limit
  | finish device ticket answer known =>
    have prompt := carries_setNoDelay ticket known
    simp only [finishConnect, lifecycle_setNoDelay]
    refine prompt.append (carries_discard _ ?_)
    intro stream discarded
    have answered := Lifecycle.answer_of_discarded discarded
    exact Nat.lt_of_lt_of_le (known stream answered) prompt.opened_le
  | obtain direction => exact .of_streams rfl
  | close =>
    apply carries_discard c.lifecycle.close.next
    intro stream discarded
    exact (sound.stored stream (Lifecycle.stored_of_discarded discarded)).2
  | read handle length there => exact .read there length
  | write handle bytes there => exact .write there bytes
  | shutDown stream there => exact .shutDown there

theorem Move.sound (move : Move c uses given next) (sound : c.Sound) : next.Sound :=
  (move.becomes.sound sound).mono (move.carries sound).opened_le

theorem Move.stored_of_given (move : Move c uses given next) (sound : c.Sound) {handle : Handle}
    (member : handle ∈ given) : next.lifecycle.stream = some handle.stream := by
  cases move with
  | obtain direction =>
    cases result : (c.obtain direction).1 with
    | error e => simp [result, Except.toOption] at member
    | ok kept =>
      simp only [result, Except.toOption, Option.toList_some, List.mem_singleton] at member
      rw [member]
      exact sound.of_obtained (mapError_eq_ok_iff.mp result)
  | _ => cases member

/-! ## All moves -/

namespace History

theorem sound (history : History start uses given c) (sound : start.Sound) : c.Sound := by
  induction history with
  | nil => exact sound
  | snoc history move ih => exact move.sound ih

theorem carries (history : History start uses given c) (sound : start.Sound) :
    start.transport.Carries uses c.transport := by
  induction history with
  | nil => exact .of_streams rfl
  | snoc history move ih => exact ih.append (move.carries (history.sound sound))

theorem conserved (history : History start uses given c) (sound : start.Sound)
    (unused : start.transport.streams = []) (stream : Nat) :
    delivered (usesOf stream uses) ++ (c.transport.loopback stream).buffered =
      accepted (usesOf stream uses) := by
  have conserved := ((history.carries sound).flows stream).conserved
  have empty : start.transport.loopback stream = {} := by simp [Transport.loopback, unused]
  rwa [empty, List.nil_append] at conserved

/-- Handles are given out for one stream only, which stays until the closing. -/
theorem stored_of_given (history : History start uses given c) (sound : start.Sound)
    {handle : Handle} (member : handle ∈ given) :
    c.lifecycle.stream = some handle.stream ∨ c.state = .closed := by
  induction history with
  | nil => cases member
  | snoc history move ih =>
    have sound' := history.sound sound
    rcases List.mem_append.mp member with before | now
    · rcases ih before with stored | closed
      · exact move.becomes.stored_or_closed sound' stored
      · exact .inr (move.becomes.stays_closed closed)
    · exact .inl (move.stored_of_given sound' now)

end History

theorem read_of_lt {handle : Handle} (there : handle.stream < c.transport.opened) (length : Nat) :
    (c.read handle length).1 = ((c.transport.loopback handle.stream).read length).1 := by
  simp only [Connection.read, Transport.read_eq there]

theorem write_of_lt {handle : Handle} (there : handle.stream < c.transport.opened)
    (data : List UInt8) :
    (c.write handle data).1 = ((c.transport.loopback handle.stream).write data).1 := by
  simp only [Connection.write, Transport.write_eq there]

theorem same_of_lt {handle : Handle} (there : handle.stream < c.transport.opened) :
    (c.transport.modifyStream handle.stream fun _ => c.transport.loopback handle.stream) =
      c.transport :=
  Transport.modifyStream_of_same there rfl

theorem write_of_shutDown {handle : Handle} (there : handle.stream < c.transport.opened)
    (shut : (c.transport.loopback handle.stream).isShutDown = true) (data : List UInt8) :
    c.write handle data = (.error .brokenPipe, c) := by
  have refused := Loopback.write_shutDown data shut
  simp only [Connection.write, Transport.write_eq there, refused, same_of_lt there]

theorem read_of_waiting {handle : Handle} (there : handle.stream < c.transport.opened)
    (empty : (c.transport.loopback handle.stream).buffered = [])
    (unshut : (c.transport.loopback handle.stream).isShutDown = false) (length : Nat) :
    c.read handle length = (.error .timedOut, c) := by
  have waiting := Loopback.read_waiting length empty unshut
  simp only [Connection.read, Transport.read_eq there, waiting, same_of_lt there]

theorem drains_of_shutDown (sound : c.Sound) {stream : Nat} (there : stream < c.transport.opened)
    (shut : (c.transport.loopback stream).isShutDown = true) :
    c.Drains stream (c.transport.loopback stream).buffered := by
  intro uses given later history
  have carries := history.carries sound
  have flows := carries.flows stream
  have there' := Nat.lt_of_lt_of_le there carries.opened_le
  have shut' := flows.isShutDown shut
  refine ⟨(later.transport.loopback stream).buffered, flows.drained shut, ?_⟩
  rintro handle rfl
  refine ⟨?_, write_of_shutDown there' shut'⟩
  intro length
  rw [read_of_lt there', Loopback.read_eq _ length (.inr shut')]

theorem found_of_shutDown {stream : Nat} {s : Loopback}
    (found : c.transport.streams[stream]? = some s) :
    (c.transport.shutDown stream).2.streams[stream]? = some { s with isShutDown := true } := by
  simp [Transport.shutDown, Transport.modifyStream, found, Loopback.shutDown]

theorem drains_of_found (sound : c.Sound) {stream : Nat} {s : Loopback}
    (found : c.transport.streams[stream]? = some s) (shut : s.isShutDown = true) :
    c.Drains stream s.buffered := by
  rw [← Transport.loopback_of_some found] at shut ⊢
  exact drains_of_shutDown sound (Transport.lt_of_some found) shut

theorem transport_close {stream : Nat} (stored : c.lifecycle.stream = some stream)
    (connected : c.state = .connected) :
    c.close.2.transport = (c.transport.shutDown stream).2 := by
  have unclosed : c.lifecycle.state ≠ .closed := fun closed => nomatch connected.symm.trans closed
  simp only [close, Lifecycle.close_open unclosed, stored, discard]

theorem drains_of_close (sound : c.Sound) {stream : Nat}
    (stored : c.lifecycle.stream = some stream) :
    c.close.2.Drains stream (c.transport.loopback stream).buffered := by
  obtain ⟨connected, there⟩ := sound.stored stream stored
  have found := found_of_shutDown (Transport.some_of_lt there)
  rw [← transport_close stored connected] at found
  have sound' : c.close.2.Sound := Move.close.sound sound
  exact drains_of_found (s := { c.transport.loopback stream with isShutDown := true }) sound' found
    rfl

/-- Streams lose and invent nothing, and deliver in order; what is buffered when a stream is shut
down, or when the device is closed whose handles are kept, is exactly what is delivered before the
end. -/
theorem History.lossless (history : History start uses given c)
    (unused : start.transport.streams = []) (new : start.lifecycle = {}) :
    (∀ stream s, c.transport.streams[stream]? = some s →
      delivered (usesOf stream uses) ++ s.buffered = accepted (usesOf stream uses) ∧
      (∀ handle : Handle, handle.stream = stream →
        (∀ length, s.buffered ≠ [] → ∃ bytes, (c.read handle length).1 = .ok bytes ∧
          bytes.length = min length s.buffered.length ∧ bytes <+: s.buffered) ∧
        (∀ length, s.buffered = [] → s.isShutDown = false →
          c.read handle length = (.error .timedOut, c)) ∧
        ∀ data count, (c.write handle data).1 = .ok count → count = data.length) ∧
      (c.transport.shutDown stream).2.streams[stream]? = some { s with isShutDown := true } ∧
      Drains { c with transport := (c.transport.shutDown stream).2 } stream s.buffered ∧
      (s.isShutDown = true →
        c.Drains stream s.buffered ∧ (c.transport.shutDown stream).2 = c.transport)) ∧
    ∀ handle ∈ given, c.state = .connected →
      ∃ s, c.transport.streams[handle.stream]? = some s ∧
        c.close.2.Drains handle.stream s.buffered := by
  have fresh : start.Sound := by
    rw [Sound, new]
    exact .initial
  have sound := history.sound fresh
  constructor
  · intro stream s found
    have same := Transport.loopback_of_some found
    have there := Transport.lt_of_some found
    have found' := found_of_shutDown found
    refine ⟨?_, ?_, found', ?_, ?_⟩
    · exact same ▸ history.conserved fresh unused stream
    · rintro handle rfl
      refine ⟨?_, ?_, ?_⟩
      · intro length nonempty
        refine ⟨s.buffered.take length, ?_, List.length_take, List.take_prefix length s.buffered⟩
        rw [read_of_lt there, same, Loopback.read_eq _ length (.inl nonempty)]
      · intro length empty unshut
        rw [← same] at empty unshut
        exact read_of_waiting there empty unshut length
      · intro data count written
        rw [write_of_lt there] at written
        exact Loopback.count_of_written written
    · have sound' := (Move.shutDown stream there).sound sound
      exact drains_of_found (s := { s with isShutDown := true }) sound' found' rfl
    · intro shut
      refine ⟨drains_of_found sound found shut, ?_⟩
      exact Transport.modifyStream_of_same there (Loopback.shutDown_shutDown (same ▸ shut))
  · intro handle member connected
    have unclosed : c.state ≠ .closed := by simp [connected]
    have stored := (history.stored_of_given fresh member).resolve_right unclosed
    exact ⟨_, Transport.some_of_lt (sound.stored _ stored).2, drains_of_close sound stored⟩

/-- Two of three bytes are still there when the device is closed. -/
theorem History.lossless_of_pump :
    let start : Connection := { transport := .mock, endpoint := ⟨"10.0.0.9", 13110⟩ }
    let c : Connection :=
      { start with
        transport := { Transport.mock with streams := [{ buffered := [2, 3], noDelay := true }] }
        lifecycle :=
          { state := .connected, generation := 1, stream := some 0, input := some ⟨0, 0⟩
            handles := 1 } }
    History start [(0, .write [1, 2, 3] (.ok 3)), (0, .read 1 (.ok [1]))] [⟨0, 0⟩] c ∧
      c.close.2.Drains 0 [2, 3] := by
  intro start c
  have known : ∀ stream, (.ok 0 : Except TransportError Nat) = .ok stream → stream < 1 := by simp
  let opened := { Transport.mock with streams := [{}] }
  let attempted : Lifecycle := { state := .connecting, generation := 1 }
  have begun : History start [] [] { start with lifecycle := attempted } :=
    (History.nil.snoc .prepare).snoc (.begin rfl)
  have answered : History start [] [] { start with transport := opened, lifecycle := attempted } :=
    begun.snoc (.answer start.endpoint start.timeout)
  have obtained : History start [] [⟨0, 0⟩]
      { c with transport := { opened with streams := [{ noDelay := true }] } } :=
    (answered.snoc (.finish "pump" 1 (.ok 0) known)).snoc (.obtain .input)
  have read : History start _ [⟨0, 0⟩] c :=
    (obtained.snoc (.write ⟨0, 0⟩ [1, 2, 3] Nat.one_pos)).snoc (.read ⟨0, 0⟩ 1 Nat.one_pos)
  obtain ⟨s, found, drains⟩ := (read.lossless rfl rfl).2 ⟨0, 0⟩ (List.mem_singleton.mpr rfl) rfl
  cases found
  exact ⟨read, drains⟩

end Connection

end RemoteDevice
