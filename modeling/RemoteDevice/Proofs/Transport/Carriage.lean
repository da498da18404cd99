import RemoteDevice.Proofs.Transport.Flow
import RemoteDevice.Transport.Basic

/-!
# The streams of a transport

The operations of a transport use one stream at a time and leave the others alone, so the uses of
a stream can be told from the uses of all (`Transport.Carries`).
-/
set_option autoImplicit false

namespace RemoteDevice

open Loopback (Use Flows)

namespace Transport

/-- A stream that has yet to be opened counts as an empty one. -/
def loopback (t : Transport) (stream : Nat) : Loopback := t.streams[stream]?.getD {}

def usesOf (stream : Nat) (uses : List (Nat × Use)) : List Use :=
  uses.filterMap fun (number, use) => if number = stream then some use else none

theorem usesOf_append (stream : Nat) (uses later : List (Nat × Use)) :
    usesOf stream (uses ++ later) = usesOf stream uses ++ usesOf stream later := by
  rw [usesOf, List.filterMap_append]
  rfl

theorem usesOf_single (stream number : Nat) (use : Use) :
    usesOf stream [(number, use)] = if number = stream then [use] else [] := by
  rw [usesOf, List.filterMap_cons]
  split <;> simp_all

/-- The uses account for all that happened to the streams in between. -/
structure Carries (t : Transport) (uses : List (Nat × Use)) (t' : Transport) : Prop where
  opened_le : t.opened ≤ t'.opened
  flows : ∀ stream, Flows (t.loopback stream) (usesOf stream uses) (t'.loopback stream)

variable {t t' : Transport}

theorem loopback_of_some {stream : Nat} {s : Loopback} (found : t.streams[stream]? = some s) :
    t.loopback stream = s := by
  rw [loopback, found, Option.getD_some]

theorem lt_of_some {stream : Nat} {s : Loopback} (found : t.streams[stream]? = some s) :
    stream < t.opened := (List.getElem?_eq_some_iff.mp found).1

theorem some_of_lt {stream : Nat} (there : stream < t.opened) :
    t.streams[stream]? = some (t.loopback stream) := by
  have inside : stream < t.streams.length := there
  simp [loopback, inside]

theorem loopback_modifyStream {f : Loopback → Loopback} {stream : Nat} (there : stream < t.opened)
    (other : Nat) :
    (t.modifyStream stream f).loopback other =
      if stream = other then f (t.loopback stream) else t.loopback other := by
  rw [loopback, modifyStream, List.getElem?_modify]
  split
  next same =>
    subst same
    rw [some_of_lt there]
    rfl
  next =>
    rw [loopback]
    cases t.streams[other]? <;> rfl

theorem opened_modifyStream (f : Loopback → Loopback) (stream : Nat) :
    (t.modifyStream stream f).opened = t.opened := by
  simp [modifyStream, opened]

theorem modifyStream_of_same {f : Loopback → Loopback} {stream : Nat} (there : stream < t.opened)
    (same : f (t.loopback stream) = t.loopback stream) : t.modifyStream stream f = t := by
  have streams : t.streams.modify stream f = t.streams := by
    apply List.ext_getElem?
    intro other
    rw [List.getElem?_modify]
    by_cases here : stream = other
    · subst here
      simp [some_of_lt there, same]
    · simp [here]
  rw [modifyStream, streams]

theorem read_eq {stream : Nat} (there : stream < t.opened) (length : Nat) :
    t.read stream length =
      (((t.loopback stream).read length).1,
        t.modifyStream stream fun _ => ((t.loopback stream).read length).2) := by
  rw [read, some_of_lt there]

theorem write_eq {stream : Nat} (there : stream < t.opened) (bytes : List UInt8) :
    t.write stream bytes =
      (((t.loopback stream).write bytes).1,
        t.modifyStream stream fun _ => ((t.loopback stream).write bytes).2) := by
  rw [write, some_of_lt there]

namespace Carries

theorem of_streams (same : t'.streams = t.streams) : t.Carries [] t' where
  opened_le := by simp [opened, same]
  flows := by
    intro stream
    rw [loopback, loopback, same]
    exact .nil _

theorem append {u : Transport} {uses later : List (Nat × Use)} (carries : t.Carries uses t')
    (onward : t'.Carries later u) : t.Carries (uses ++ later) u where
  opened_le := Nat.le_trans carries.opened_le onward.opened_le
  flows := by
    intro stream
    rw [usesOf_append]
    exact (carries.flows stream).append (onward.flows stream)

theorem openStream (e : Endpoint) (limit : Nat) : t.Carries [] (t.openStream e limit).2 := by
  rw [Transport.openStream]
  split
  next => exact of_streams rfl
  next =>
    refine ⟨by simp [opened], ?_⟩
    intro stream
    have same : ((t.streams ++ [({} : Loopback)])[stream]?).getD {} = t.loopback stream := by
      rcases Nat.lt_trichotomy stream t.streams.length with before | rfl | after
      · rw [List.getElem?_append_left before, loopback]
      · simp [loopback]
      · rw [loopback, List.getElem?_eq_none (by simp; omega), List.getElem?_eq_none (by omega)]
    simp only [loopback] at same ⊢
    rw [same]
    exact .nil _

section Modify

variable {f : Loopback → Loopback} {stream : Nat}

theorem modify (there : stream < t.opened) {use : Use}
    (flows : Flows (t.loopback stream) [use] (f (t.loopback stream))) :
    t.Carries [(stream, use)] (t.modifyStream stream f) where
  opened_le := Nat.le_of_eq (opened_modifyStream _ stream).symm
  flows := by
    intro other
    rw [loopback_modifyStream there, usesOf_single]
    split
    next same => exact same ▸ flows
    next => exact .nil _

theorem setNoDelay (there : stream < t.opened) : t.Carries [] (t.setNoDelay stream).2 := by
  rw [Transport.setNoDelay]
  split
  next => exact of_streams rfl
  next =>
    refine ⟨Nat.le_of_eq (opened_modifyStream _ stream).symm, ?_⟩
    intro other
    rw [loopback_modifyStream there]
    split
    next same => exact same ▸ .noDelay true (.nil _)
    next => exact .nil _

theorem read (there : stream < t.opened) (length : Nat) :
    t.Carries [(stream, .read length (t.read stream length).1)] (t.read stream length).2 := by
  rw [read_eq there]
  exact modify there (.read length (.nil _))

theorem write (there : stream < t.opened) (bytes : List UInt8) :
    t.Carries [(stream, .write bytes (t.write stream bytes).1)] (t.write stream bytes).2 := by
  rw [write_eq there]
  exact modify there (.write bytes (.nil _))

theorem shutDown (there : stream < t.opened) :
    t.Carries [(stream, .shutDown)] (t.shutDown stream).2 :=
  modify there (.shutDown (.nil _))

end Modify

end Carries

end Transport

end RemoteDevice
