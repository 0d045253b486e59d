import GuestSpec.Bus.Allocator
import GuestSpec.Bus.Node
import GuestSpec.Bus.Placing
import GuestSpec.Bus.Request
import GuestSpec.Capability.Basic
import GuestSpec.Capability.Probe
import GuestSpec.Capability.Script
import GuestSpec.Capability.Set
import GuestSpec.CommandLine.Options
import GuestSpec.CommandLine.Program
import GuestSpec.Compile
import GuestSpec.Decimal.Layout
import GuestSpec.Decimal.Reader
import GuestSpec.Decimal.Shortest
import GuestSpec.Device.Chardev
import GuestSpec.Device.Plan
import GuestSpec.Device.Unplaced
import GuestSpec.Document.Address
import GuestSpec.Document.Backend
import GuestSpec.Document.Device
import GuestSpec.Document.Instance
import GuestSpec.Document.Machine
import GuestSpec.Document.Storage
import GuestSpec.Error
import GuestSpec.Host
import GuestSpec.Identity.ChaCha
import GuestSpec.Identity.Source
import GuestSpec.Json.Basic
import GuestSpec.Json.Codec
import GuestSpec.Json.Printer
import GuestSpec.Json.Reader
import GuestSpec.Json.Sorted
import GuestSpec.Machine.Board
import GuestSpec.Machine.Memory
import GuestSpec.Machine.Target
import GuestSpec.Main
import GuestSpec.Parameters.Basic
import GuestSpec.Parameters.File
import GuestSpec.Parameters.Size
import GuestSpec.Proofs.Bus.Accounting
import GuestSpec.Proofs.Bus.Adapters
import GuestSpec.Proofs.Bus.BootIndex
import GuestSpec.Proofs.Bus.Capacity
import GuestSpec.Proofs.Bus.Demand
import GuestSpec.Proofs.Bus.Exhaustion
import GuestSpec.Proofs.Bus.FlatChain
import GuestSpec.Proofs.Bus.Grounded
import GuestSpec.Proofs.Bus.Hierarchy
import GuestSpec.Proofs.Bus.Hints
import GuestSpec.Proofs.Bus.Insertion
import GuestSpec.Proofs.Bus.Layout
import GuestSpec.Proofs.Bus.Listed
import GuestSpec.Proofs.Bus.Moves
import GuestSpec.Proofs.Bus.Names
import GuestSpec.Proofs.Bus.Occupancy
import GuestSpec.Proofs.Bus.Origin
import GuestSpec.Proofs.Bus.Outcome
import GuestSpec.Proofs.Bus.Places
import GuestSpec.Proofs.Bus.Room
import GuestSpec.Proofs.Bus.RootPorts
import GuestSpec.Proofs.Bus.Run
import GuestSpec.Proofs.Bus.ScsiPlaces
import GuestSpec.Proofs.Bus.Slots
import GuestSpec.Proofs.Bus.Sparing
import GuestSpec.Proofs.Bus.Trace
import GuestSpec.Proofs.Bus.UniqueIds
import GuestSpec.Proofs.Bus.UsbModels
import GuestSpec.Proofs.Bus.Wiring
import GuestSpec.Proofs.Compile.Answers
import GuestSpec.Proofs.Compile.Apart
import GuestSpec.Proofs.Compile.BootOrder
import GuestSpec.Proofs.Compile.Controllers
import GuestSpec.Proofs.Compile.DeviceTree
import GuestSpec.Proofs.Compile.Leases
import GuestSpec.Proofs.Compile.Names
import GuestSpec.Proofs.Compile.Overflow
import GuestSpec.Proofs.Compile.Placing
import GuestSpec.Proofs.Compile.Planned
import GuestSpec.Proofs.Compile.References
import GuestSpec.Proofs.Compile.Seating
import GuestSpec.Proofs.Compile.Support
import GuestSpec.Proofs.Device.Leases
import GuestSpec.Proofs.Device.Overflow
import GuestSpec.Proofs.Device.Parts
import GuestSpec.Proofs.Device.Queues
import GuestSpec.Proofs.Document.Address
import GuestSpec.Proofs.Document.Backend
import GuestSpec.Proofs.Document.Device
import GuestSpec.Proofs.Document.Instance
import GuestSpec.Proofs.Document.Machine
import GuestSpec.Proofs.Document.Storage
import GuestSpec.Proofs.Host.Leases
import GuestSpec.Proofs.Host.Resources
import GuestSpec.Proofs.Json.RoundTrip
import GuestSpec.Proofs.Json.Sorted
import GuestSpec.Proofs.Json.Text
import GuestSpec.Proofs.Machine.Board
import GuestSpec.Proofs.Machine.Memory
import GuestSpec.Proofs.Machine.MemoryDevices
import GuestSpec.Proofs.Machine.MemoryLimits
import GuestSpec.Proofs.Machine.MemoryOverflow
import GuestSpec.Proofs.Naming.Backends
import GuestSpec.Proofs.Naming.Controllers
import GuestSpec.Proofs.Naming.Devices
import GuestSpec.Proofs.Naming.Forms
import GuestSpec.Proofs.Oracle.Cache
import GuestSpec.Proofs.Oracle.Guarantee
import GuestSpec.Proofs.Oracle.Monotone
import GuestSpec.Proofs.Oracle.Overflow
import GuestSpec.Proofs.Oracle.Reflection
import GuestSpec.Proofs.Oracle.Snapshot
import GuestSpec.Proofs.Oracle.Steady
import GuestSpec.Proofs.Parameters.Entries
import GuestSpec.Proofs.Parameters.Indexed
import GuestSpec.Proofs.Parameters.Lines
import GuestSpec.Proofs.Parameters.Scope
import GuestSpec.Proofs.Parameters.Size
import GuestSpec.Proofs.Parameters.SizeWords
import GuestSpec.Proofs.Storage.Agreement
import GuestSpec.Proofs.Storage.Backend
import GuestSpec.Proofs.Storage.Images
import GuestSpec.Proofs.Storage.NodeGraph
import GuestSpec.Proofs.Storage.SameData
import GuestSpec.Proofs.Storage.ServerAddress
import GuestSpec.Proofs.Storage.ServerLocator
import GuestSpec.Proofs.Storage.Throttle
import GuestSpec.Proofs.Text.Entries
import GuestSpec.Proofs.Text.Lines
import GuestSpec.Proofs.Text.Numeral
import GuestSpec.Proofs.Text.Split
import GuestSpec.Proofs.Text.Trim
import GuestSpec.Proofs.Topology.Request
import GuestSpec.Proofs.Topology.Solved
import GuestSpec.Proofs.Topology.Solving
import GuestSpec.Proofs.Version.Order
import GuestSpec.Proofs.Version.RoundTrip
import GuestSpec.Search
import GuestSpec.Storage.Chain
import GuestSpec.Storage.Image
import GuestSpec.Storage.Locator
import GuestSpec.Storage.Plan
import GuestSpec.Storage.Throttle
import GuestSpec.Text.Basic
import GuestSpec.Text.Map
import GuestSpec.Text.Numeral
import GuestSpec.Text.Printable
import GuestSpec.Text.Quoted
import GuestSpec.Text.Utf8
import GuestSpec.Toml.Moment
import GuestSpec.Toml.Reader
import GuestSpec.Toml.Scalar
import GuestSpec.Toml.Table
import GuestSpec.Topology
import GuestSpec.Uuid
import GuestSpec.Version.Basic
import GuestSpec.Version.Interval
