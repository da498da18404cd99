import RemoteDevice.Device.Basic
import RemoteDevice.Proofs.Connection.Scripted

/-!
# Devices in use

Callers use the connection of a device in any way they like, several of them at once. None of this
changes what the device is: its type, its descriptor, and where it connects to.
-/
set_option autoImplicit false

namespace RemoteDevice

namespace Device

open Connection (Reached)

/-- The device was made at some time, and its connection has been in use since. Who listens to it,
what it reports and whether it is counted may have been changed too. -/
def Live (d : Device) : Prop :=
  ∃ b hub events attempts, d.typeName = b.typeName ∧ d.descriptor = b.descriptor ∧
    Reached (create b hub).1.connection events d.connection attempts

theorem live_create (b : Blueprint) (hub : Hub) : (create b hub).1.Live :=
  ⟨b, hub, [], [], rfl, rfl, .start⟩

namespace Live

variable {d : Device}

/-! ## Operations of the device itself -/

theorem prepare (live : d.Live) : d.prepare.2.Live := by
  obtain ⟨b, hub, events, attempts, typeName, descriptor, reached⟩ := live
  exact ⟨b, hub, _, attempts, typeName, descriptor, reached.prepare⟩

theorem connect (live : d.Live) (hub : Hub) : (d.connect hub).2.1.Live := by
  obtain ⟨b, first, events, attempts, typeName, descriptor, reached⟩ := live
  obtain ⟨later, connected⟩ := reached.connect d.fullName
  exact ⟨b, first, _, attempts, typeName, descriptor, connected⟩

theorem close (live : d.Live) (hub : Hub) : (d.close hub).1.Live := by
  obtain ⟨b, first, events, attempts, typeName, descriptor, reached⟩ := live
  exact ⟨b, first, _, attempts, typeName, descriptor, reached.close⟩

theorem obtain (live : d.Live) (direction : Direction) : (d.obtain direction).2.Live := by
  obtain ⟨b, hub, events, attempts, typeName, descriptor, reached⟩ := live
  exact ⟨b, hub, _, attempts, typeName, descriptor, reached.obtain direction⟩

theorem connectWhileClosing (live : d.Live) (hub : Hub) :
    (d.connectWhileClosing hub).2.1.Live := by
  rw [Device.connectWhileClosing]
  split
  next ticket begun began =>
    split
    next =>
      obtain ⟨b, first, events, attempts, typeName, descriptor, reached⟩ := live
      have waiting : Reached (create b first).1.connection
          (events ++ [.began ticket] ++ [.closed begun.close.1]) begun.close.2
          ([] ++ ⟨d.fullName, ticket, none⟩ :: attempts) := (reached.begin d.fullName began).close
      exact ⟨b, first, _, attempts, typeName, descriptor, (waiting.answer rfl).finish rfl⟩
    next => exact (live.connect hub).close _
  next => exact (live.connect hub).close _

/-! ## What does not change -/

theorem endpoint_eq (live : d.Live) :
    d.connection.endpoint = ⟨d.descriptor.host, d.descriptor.port⟩ := by
  obtain ⟨b, hub, events, attempts, -, descriptor, reached⟩ := live
  rw [reached.endpoint_eq, descriptor]
  rfl

end Live

end Device

end RemoteDevice
