import GuestSpec.Version.Interval

/-!
# Capabilities

The features of a hypervisor that change the form of a document, and how each of them shows.
-/

namespace GuestSpec

inductive Capability where
  /-- Block nodes in layers. -/
  | blockdev
  /-- A device can be attached to the node that reaches the data, without a format node. -/
  | rawProtocolAttach
  /-- The machine takes its memory from a backend object. -/
  | machineMemoryBackend
  | smpDies
  | smpClusters
  | smpBooks
  | smpDrawers
  /-- Processors are arranged in cores rather than in sockets. -/
  | smpPreferCores
  | pcieRootPort
  | pciePciBridge
  deriving DecidableEq, Inhabited

instance : Named Capability where
  all := [.blockdev, .rawProtocolAttach, .machineMemoryBackend, .smpDies, .smpClusters, .smpBooks,
    .smpDrawers, .smpPreferCores, .pcieRootPort, .pciePciBridge]
  name
    | .blockdev => "Blockdev"
    | .rawProtocolAttach => "RawProtocolAttach"
    | .machineMemoryBackend => "MachineMemoryBackend"
    | .smpDies => "SmpDies"
    | .smpClusters => "SmpClusters"
    | .smpBooks => "SmpBooks"
    | .smpDrawers => "SmpDrawers"
    | .smpPreferCores => "SmpPreferCores"
    | .pcieRootPort => "PcieRootPort"
    | .pciePciBridge => "PciePciBridge"

/-- What shows that a hypervisor has a capability. -/
inductive Gate where
  /-- The help text has this word. -/
  | help (word : String)
  /-- The version lies in this interval. -/
  | version (interval : Version.Interval)
  /-- There is a device of this name. -/
  | device (name : String)
  deriving DecidableEq

def Capability.gate : Capability → Gate
  | blockdev => .help "-blockdev"
  | rawProtocolAttach => .version (.atLeast 4 2 0)
  | machineMemoryBackend => .version (.atLeast 5 0 0)
  | smpDies => .version (.atLeast 4 1 0)
  | smpClusters => .version (.atLeast 7 0 0)
  | smpBooks | smpDrawers => .version (.atLeast 8 2 0)
  | smpPreferCores => .version (.atLeast 6 2 0)
  | pcieRootPort => .device "pcie-root-port"
  | pciePciBridge => .device "pcie-pci-bridge"

/-- The questions that a compilation asks about the hypervisor. An answer may have an effect, such
as a query that has to be run first. -/
structure Oracle (m : Type → Type) where
  probe : Capability → m Bool
  /-- Whether the version lies in an interval. -/
  inInterval : Version.Interval → m Bool
  hasDevice : String → m Bool
  hasObject : String → m Bool
  version : m (Option Version)

end GuestSpec
