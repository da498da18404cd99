import RemoteDevice.Device.Error
import RemoteDevice.DisplayUnit.Definitions
import RemoteDevice.Registry.Store
import RemoteDevice.Transport.Loopback

/-!
Why a command fails, and how that is reported.
-/
set_option autoImplicit false

namespace RemoteDevice.CommandLine

inductive Failure where
  | device (error : DeviceError)
  | store (error : StoreError)
  /-- A registry that cannot be read is not to be overwritten. -/
  | unreadable (registry : String) (error : StoreError)
  | noSuchEntry (index stored : Nat)
  | noSuchDevice (index : Nat)
  | notTcp (index : Nat) (typeName : String)
  | noTarget
  | noNetwork (label : String)
  /-- An open connection cannot be used. -/
  | handle (error : ConnectionError)
  | stream (error : StreamError)
  | definitions (error : DefinitionFileError)
  | unknownUnit (file unit : String)
deriving DecidableEq, Repr

namespace Failure

def message : Failure → String
  | device e => e.message
  | store e => e.message
  | unreadable registry _ => "refusing to modify unreadable registry " ++ registry
  | noSuchEntry index stored =>
    "no device at index " ++ toString index ++ " (" ++ toString stored ++ " stored)"
  | noSuchDevice index => "no device at index " ++ toString index
  | notTcp index typeName =>
    "device " ++ toString index ++ " is a " ++ typeName ++ ", not a TCP/IP device"
  | noTarget => "provide --index <n> or --descriptor <string>"
  | noNetwork label => "network unavailable; cannot prepare " ++ label
  | handle e => e.message
  | stream e => e.message
  | definitions e => e.message
  | unknownUnit file unit => "unit not defined in " ++ file ++ ": " ++ unit

/-- What lies behind the failure. -/
def cause? : Failure → Option String
  | unreadable _ e => some e.message
  | definitions (.refused _ e) => some e.message
  | _ => none

/-- A remark before the report, if trying again may help. -/
def hint : Failure → String
  | device e => if e.isRetryable then e.message ++ " (retry possible)\n" else ""
  | _ => ""

def report (f : Failure) : String :=
  f.hint ++ "Error: " ++ f.message ++
    (match f.cause? with
      | some cause => "\n\nCaused by:\n    " ++ cause
      | none => "") ++ "\n"

end Failure

end RemoteDevice.CommandLine
