import GuestSpec.Bus.Placing

/-!
# Devices without a place

A device together with the place it asks for.
-/

namespace GuestSpec

structure UnplacedDevice where
  node : DeviceNode
  request : DeviceRequest
  deriving DecidableEq, Inhabited

namespace UnplacedDevice

/-- Places a device. Its index in the boot order is given out later. -/
def place (d : UnplacedDevice) : Alloc DeviceNode := do
  let placement ← Alloc.place d.node.id d.request.bus d.request.hint
  return { d.node with placement }

/-- The place in the boot order that a device asks for. Only disks and network cards have one. -/
def bootRequest (d : UnplacedDevice) : BootRequest :=
  match d.node.props with
  | .disk _ | .nic _ => d.request.boot
  | _ => .none

end UnplacedDevice

end GuestSpec
