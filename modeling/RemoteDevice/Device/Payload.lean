import RemoteDevice.Descriptor.Decoder
import RemoteDevice.Device.Basic
import RemoteDevice.Device.Error

/-!
Devices from payloads, which are written descriptors, and the constructors of types of devices.
-/
set_option autoImplicit false

namespace RemoteDevice

/-- The type name of devices that are reached by TCP. -/
def tcpTypeName : String := "device_registry::TcpIpDevice"

namespace Blueprint

/-- A device that is reached by TCP, over a medium that is given. -/
def tcp (d : Descriptor) (medium : Medium) : Blueprint :=
  { typeName := tcpTypeName, descriptor := d, transport := { Transport.tcp with medium } }

/-- What the payload of such a device says. -/
def ofPayload (payload : String) (medium : Medium) : Except FormatError Blueprint :=
  (Descriptor.decodeAs Descriptor.tcpTag payload).map fun d => tcp d medium

end Blueprint

/-- Makes a device from its payload; it is numbered only afterwards. -/
abbrev Constructor : Type := String → Except ConstructionError Blueprint

namespace Constructor

/-- Devices reached by TCP. -/
def tcp (medium : Medium) : Constructor := fun payload =>
  (Blueprint.ofPayload payload medium).mapError .format

/-- Devices of a type that lead back to where they start; without a tag every tag will do. -/
def mock (typeName : String) (tag : Option String) : Constructor := fun payload =>
  let read := match tag with
    | some tag => Descriptor.decodeAs tag payload
    | none => Descriptor.decode payload
  (read.map fun descriptor => { typeName, descriptor, transport := .mock }).mapError .format

end Constructor

end RemoteDevice
