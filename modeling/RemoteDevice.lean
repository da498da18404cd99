import RemoteDevice.FileTree.Lemmas
import RemoteDevice.Main
import RemoteDevice.Property.Printer
import RemoteDevice.Proofs.Connection.Shared
import RemoteDevice.Proofs.Connection.Consistent
import RemoteDevice.Proofs.Connection.Streams
import RemoteDevice.Proofs.Connection.Retry
import RemoteDevice.Proofs.Decimal.Integer
import RemoteDevice.Proofs.Descriptor.RoundTrip
import RemoteDevice.Proofs.Connection.Scripted
import RemoteDevice.Proofs.Descriptor.Grammar
import RemoteDevice.Proofs.Descriptor.Canonical
import RemoteDevice.Proofs.Registry.Canonical
import RemoteDevice.Proofs.Template.Verdict
import RemoteDevice.Proofs.DisplayUnit.Resolved
import RemoteDevice.Proofs.DisplayUnit.Number
import RemoteDevice.Proofs.Calendar.Range
import RemoteDevice.Proofs.DisplayUnit.Shown
import RemoteDevice.Proofs.Property.RoundTrip
import RemoteDevice.Proofs.Registry.Isolation
import RemoteDevice.Proofs.Device.Live
import RemoteDevice.Proofs.Registry.Saved
import RemoteDevice.Proofs.Registry.Restoration
import RemoteDevice.Proofs.Connection.Course
import RemoteDevice.Proofs.DisplayUnit.Agreement
import RemoteDevice.Proofs.CommandLine.Editing
import RemoteDevice.Proofs.Device.Notices
import RemoteDevice.Proofs.Template.Grammar
import RemoteDevice.Proofs.Template.Semantics
import RemoteDevice.Proofs.Decimal.Base
import RemoteDevice.Proofs.Template.IntegerField
import RemoteDevice.Proofs.Connection.FailedCalls
import RemoteDevice.Proofs.Transport.Flow
import RemoteDevice.Proofs.Transport.Carriage
import RemoteDevice.Proofs.Connection.Sound
import RemoteDevice.Proofs.Connection.Draining
import RemoteDevice.Proofs.Descriptor.Refusal
import RemoteDevice.Proofs.DisplayUnit.Fields
import RemoteDevice.Proofs.DisplayUnit.Accounts
import RemoteDevice.Proofs.DisplayUnit.Faults
import RemoteDevice.Proofs.Device.Fleet
import RemoteDevice.Proofs.Device.Delivery
import RemoteDevice.Proofs.DisplayUnit.Loading
import RemoteDevice.Proofs.Property.Composition
import RemoteDevice.Proofs.Property.History
import RemoteDevice.Proofs.Registry.Storage
import RemoteDevice.Proofs.Connection.Handles
import RemoteDevice.Proofs.Registry.Sessions
import RemoteDevice.Proofs.Device.Address
import RemoteDevice.Proofs.Calendar.Gregorian
import RemoteDevice.Proofs.DisplayUnit.Local
import RemoteDevice.Proofs.Template.Limits
import RemoteDevice.Proofs.Template.Grouping
import RemoteDevice.Proofs.Property.Marks
