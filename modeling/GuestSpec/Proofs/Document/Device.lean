import GuestSpec.Document.Device
import GuestSpec.Proofs.Document.Address
import GuestSpec.Proofs.Document.Backend
import Mathlib

/-!
# Devices that are read back

Devices and controllers make a round trip through their documents.
-/

namespace GuestSpec

open Json

instance : LawfulCodec DiskProps 1 where
  roundTrips _ := .record (fun _ => rfl) rfl (by simp)

instance : LawfulCodec NicProps 1 where
  roundTrips _ := .record (fun _ => rfl) rfl (by simp)

instance : LawfulCodec RngProps 1 where
  roundTrips _ := .record (fun _ => rfl) rfl (by simp)

instance : LawfulCodec DimmProps 1 where
  roundTrips _ := .record (fun _ => rfl) rfl (by simp)

instance : LawfulCodec VirtioMemProps 1 where
  roundTrips _ := .record (fun _ => rfl) rfl (by simp)

instance : LawfulCodec DeviceProps 1 where
  roundTrips
    | .disk p => .taggedRecord (fun _ => rfl) rfl rfl rfl (.of_lawful p (by decide)) (by simp)
    | .nic p => .taggedRecord (fun _ => rfl) rfl rfl rfl (.of_lawful p (by decide)) (by simp)
    | .rng p => .taggedRecord (fun _ => rfl) rfl rfl rfl (.of_lawful p (by decide)) (by simp)
    | .tpm _ => .tagged (fun _ => rfl) rfl rfl (by simp)
    | .serial _ _ => .tagged (fun _ => rfl) rfl rfl (by simp)
    | .vsock _ => .tagged (fun _ => rfl) rfl rfl (by simp)
    | .balloon _ _ => .tagged (fun _ => rfl) rfl rfl (by simp)
    | .watchdog _ => .tagged (fun _ => rfl) rfl rfl (by simp)
    | .input => .bare (fun _ => rfl) rfl rfl
    | .sound _ => .tagged (fun _ => rfl) rfl rfl (by simp)
    | .usb => .bare (fun _ => rfl) rfl rfl
    | .display => .bare (fun _ => rfl) rfl rfl
    | .dimm p => .taggedRecord (fun _ => rfl) rfl rfl rfl (.of_lawful p (by decide)) (by simp)
    | .virtioMem p => .taggedRecord (fun _ => rfl) rfl rfl rfl (.of_lawful p (by decide)) (by simp)

instance : LawfulCodec DeviceNode 3 where
  roundTrips _ := .record (fun _ => rfl) rfl (by simp)

instance : LawfulCodec HbaFamily 0 where
  roundTrips := Named.roundTrips (fun family => by cases family <;> decide) (by decide)

instance : LawfulCodec ControllerKind 1 where
  roundTrips
    | .pcieRootPort _ _ => .tagged (fun _ => rfl) rfl rfl (by simp)
    | .pciePciBridge => .bare (fun _ => rfl) rfl rfl
    | .pciBridge _ => .tagged (fun _ => rfl) rfl rfl (by simp)
    | .scsiHba _ _ _ => .tagged (fun _ => rfl) rfl rfl (by simp)
    | .ahci => .bare (fun _ => rfl) rfl rfl
    | .usb _ => .tagged (fun _ => rfl) rfl rfl (by simp)
    | .fdc => .bare (fun _ => rfl) rfl rfl
    | .virtioSerial _ => .tagged (fun _ => rfl) rfl rfl (by simp)

instance : LawfulCodec Controller 3 where
  roundTrips _ := .record (fun _ => rfl) rfl (by simp)

end GuestSpec
