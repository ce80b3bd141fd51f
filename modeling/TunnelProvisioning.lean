import TunnelProvisioning.Action
import TunnelProvisioning.Adapter.Calls
import TunnelProvisioning.Adapter.Device
import TunnelProvisioning.Adapter.Listing
import TunnelProvisioning.Adapter.Provisioner
import TunnelProvisioning.Adapter.Registry
import TunnelProvisioning.Adapter.RegistryTree
import TunnelProvisioning.Adapter.Search
import TunnelProvisioning.Adapter.Session
import TunnelProvisioning.Adapter.SimulatedDevices
import TunnelProvisioning.Addressing.Basic
import TunnelProvisioning.Addressing.Ipv4
import TunnelProvisioning.Addressing.Json
import TunnelProvisioning.Binary64.Basic
import TunnelProvisioning.Binary64.Shortest
import TunnelProvisioning.Binary64.Text
import TunnelProvisioning.Command.Arguments
import TunnelProvisioning.Command.Run
import TunnelProvisioning.FileSystem.Basic
import TunnelProvisioning.FileSystem.Path
import TunnelProvisioning.FileSystem.Tree
import TunnelProvisioning.Interface.Binder
import TunnelProvisioning.Interface.Control
import TunnelProvisioning.Interface.Custody
import TunnelProvisioning.Interface.Descriptors
import TunnelProvisioning.Interface.Edits
import TunnelProvisioning.Interface.Journal
import TunnelProvisioning.Interface.Request
import TunnelProvisioning.Interface.Simulated
import TunnelProvisioning.InvalidInput
import TunnelProvisioning.IoError
import TunnelProvisioning.Json.Fault
import TunnelProvisioning.Json.Number
import TunnelProvisioning.Json.Reader
import TunnelProvisioning.Json.Value
import TunnelProvisioning.Log.Directive
import TunnelProvisioning.Log.Event
import TunnelProvisioning.Log.Filter
import TunnelProvisioning.Log.Pattern
import TunnelProvisioning.Log.Terminal
import TunnelProvisioning.Main
import TunnelProvisioning.Proofs.Adapter.Calls
import TunnelProvisioning.Proofs.Adapter.Device
import TunnelProvisioning.Proofs.Adapter.Listing
import TunnelProvisioning.Proofs.Adapter.Provisioner
import TunnelProvisioning.Proofs.Adapter.Rearrangement
import TunnelProvisioning.Proofs.Adapter.RegistryTree
import TunnelProvisioning.Proofs.Adapter.Search
import TunnelProvisioning.Proofs.Adapter.Session
import TunnelProvisioning.Proofs.Adapter.Strictness
import TunnelProvisioning.Proofs.Addressing.Display
import TunnelProvisioning.Proofs.Addressing.Driver
import TunnelProvisioning.Proofs.Addressing.Fields
import TunnelProvisioning.Proofs.Addressing.Ipv4
import TunnelProvisioning.Proofs.Addressing.Netmask
import TunnelProvisioning.Proofs.Command.Loading
import TunnelProvisioning.Proofs.Command.Telling
import TunnelProvisioning.Proofs.Command.Verbosity
import TunnelProvisioning.Proofs.FileSystem.Path
import TunnelProvisioning.Proofs.Interface.Binding
import TunnelProvisioning.Proofs.Interface.Custody
import TunnelProvisioning.Proofs.Interface.Edits
import TunnelProvisioning.Proofs.Interface.Journal
import TunnelProvisioning.Proofs.Interface.ReadBack
import TunnelProvisioning.Proofs.Interface.Request
import TunnelProvisioning.Proofs.Interface.RequestedName
import TunnelProvisioning.Proofs.Interface.Setup
import TunnelProvisioning.Proofs.Json.Entries
import TunnelProvisioning.Proofs.Json.Grammar
import TunnelProvisioning.Proofs.Json.Number
import TunnelProvisioning.Proofs.Json.Reading
import TunnelProvisioning.Proofs.Json.Sequence
import TunnelProvisioning.Proofs.Json.Skipping
import TunnelProvisioning.Proofs.Json.Text
import TunnelProvisioning.Proofs.Json.Value
import TunnelProvisioning.Proofs.Log.Origins
import TunnelProvisioning.Proofs.OwnSettings
import TunnelProvisioning.Proofs.Provisioner
import TunnelProvisioning.Proofs.Settings.Document
import TunnelProvisioning.Proofs.Settings.Files
import TunnelProvisioning.Proofs.Settings.Keys
import TunnelProvisioning.Proofs.Settings.Kinds
import TunnelProvisioning.Proofs.Settings.Overlay
import TunnelProvisioning.Proofs.Settings.SectionValues
import TunnelProvisioning.Proofs.Settings.Validation
import TunnelProvisioning.Proofs.Text.Digits
import TunnelProvisioning.Proofs.Text.Truncation
import TunnelProvisioning.Proofs.Text.Utf8
import TunnelProvisioning.Proofs.Toml.Distinct
import TunnelProvisioning.Proofs.Toml.Lines
import TunnelProvisioning.Proofs.Toml.Lookup
import TunnelProvisioning.Proofs.Toml.Nesting
import TunnelProvisioning.Proofs.Toml.Sections
import TunnelProvisioning.Proofs.Toml.Strings
import TunnelProvisioning.Proofs.WireForms
import TunnelProvisioning.Proofs.WireOutcome
import TunnelProvisioning.ProvisionError
import TunnelProvisioning.Provisioner
import TunnelProvisioning.Settings.Basic
import TunnelProvisioning.Settings.Document
import TunnelProvisioning.Settings.Error
import TunnelProvisioning.Settings.Load
import TunnelProvisioning.Text.Alphanumeric
import TunnelProvisioning.Text.Blank
import TunnelProvisioning.Text.Digits
import TunnelProvisioning.Text.Escaped
import TunnelProvisioning.Text.Quoted
import TunnelProvisioning.Text.Ranges
import TunnelProvisioning.Text.Utf8
import TunnelProvisioning.Toml.Moment
import TunnelProvisioning.Toml.Node
import TunnelProvisioning.Toml.Reader
import TunnelProvisioning.Toml.Scalar
import TunnelProvisioning.Toml.Text
import TunnelProvisioning.Toml.Writer
import TunnelProvisioning.TunnelConfig
import TunnelProvisioning.WireOutcome
