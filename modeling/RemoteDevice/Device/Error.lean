import RemoteDevice.Connection.Error
import RemoteDevice.Descriptor.Error

/-!
Errors around devices: of their descriptors, their connections and their reconstruction.
-/
set_option autoImplicit false

namespace RemoteDevice

/-- Why a device cannot be made from what is stored of it. -/
inductive ConstructionError where
  | unregistered
  | format (error : FormatError)
  | connection (error : ConnectionError)
  /-- Whatever else a constructor finds wrong, in its own words. -/
  | other (reason : String)
deriving DecidableEq, Repr

inductive DeviceError where
  | format (error : FormatError)
  | field (error : FieldError)
  | connection (error : ConnectionError)
  | reconstruction (typeName : String) (error : ConstructionError)
deriving DecidableEq, Repr

def FormatError.inContext (e : FormatError) : String := "malformed descriptor: " ++ e.message

def ConstructionError.message : ConstructionError → String
  | unregistered => "no constructor registered"
  | format e => e.inContext
  | connection e => e.message
  | other reason => reason

namespace DeviceError

def message : DeviceError → String
  | format e => e.inContext
  | field e => e.message
  | connection e => e.message
  | reconstruction typeName e => "cannot reconstruct `" ++ typeName ++ "`: " ++ e.message

/-- Whether the operation may be tried again on the same device. -/
def isRetryable : DeviceError → Bool
  | connection e => e.isRetryable
  | _ => false

end DeviceError

end RemoteDevice
