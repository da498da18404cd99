/-!
Descriptors: what is needed to find a device again, with the credentials to present to it.
-/
set_option autoImplicit false

namespace RemoteDevice

structure Descriptor where
  /-- The kind of transport. -/
  tag : String
  name : String
  user : String := ""
  password : String := ""
  host : String
  port : UInt16
  /-- The pre-shared key. -/
  psk : Option String := none
deriving DecidableEq, Repr

namespace Descriptor

/-- The tag of devices that are reached by TCP. -/
def tcpTag : String := "tcpip"

def tcp (name host : String) (port : UInt16) : Descriptor := { tag := tcpTag, name, host, port }

def withCredentials (d : Descriptor) (user password : String) : Descriptor :=
  { d with user, password }

/-- Keys of no characters are not stored. -/
def storedPsk (psk : String) : Option String := if psk.isEmpty then none else some psk

def withPsk (d : Descriptor) (psk : String) : Descriptor := { d with psk := storedPsk psk }

def withName (d : Descriptor) (name : String) : Descriptor := { d with name }

/-- Whether a key is there that is not empty. -/
def hasPsk (d : Descriptor) : Bool := d.psk.any fun key => !key.isEmpty

/-- The descriptor with an empty key as no key. -/
def normal (d : Descriptor) : Descriptor := { d with psk := d.psk.bind storedPsk }

end Descriptor

end RemoteDevice
