import GuestSpec.Document.Machine
import GuestSpec.Proofs.Document.Device
import GuestSpec.Proofs.Document.Storage
import Mathlib

/-!
# Machines that are read back

Machines, their firmware, their processors and their memory make a round trip through their
documents.
-/

namespace GuestSpec

open Json

instance : LawfulCodec MachineFamily 1 where
  roundTrips
    | .i440fx => .bare (fun _ => rfl) rfl rfl
    | .q35 => .bare (fun _ => rfl) rfl rfl
    | .armVirt _ => .tagged (fun _ => rfl) rfl rfl (by simp)
    | .pseries => .bare (fun _ => rfl) rfl rfl
    | .s390Ccw => .bare (fun _ => rfl) rfl rfl
    | .microvm => .bare (fun _ => rfl) rfl rfl

instance : LawfulCodec LegacyMemPath 1 where
  roundTrips _ := .record (fun _ => rfl) rfl (by simp)

instance : LawfulCodec Machine 2 where
  roundTrips _ := .record (fun _ => rfl) rfl (by simp)

instance : LawfulCodec FlashImage 7 where
  roundTrips _ := .record (fun _ => rfl) rfl (by simp)

instance : LawfulCodec Firmware 8 where
  roundTrips
    | .bios _ => .tagged (fun _ => rfl) rfl rfl (by simp)
    | .uefi _ _ _ => .tagged (fun _ => rfl) rfl rfl (by simp)
    | .builtin _ => .tagged (fun _ => rfl) rfl rfl (by simp)

instance : LawfulCodec CpuFlag 1 where
  roundTrips _ := .record (fun _ => rfl) rfl (by simp)

instance : LawfulCodec CpuTopology 1 where
  roundTrips _ := .record (fun _ => rfl) rfl (by simp)

instance : LawfulCodec Cpu 3 where
  roundTrips _ := .record (fun _ => rfl) rfl (by simp)

instance : LawfulCodec MemoryBackendKind 1 where
  roundTrips
    | .ram => .bare (fun _ => rfl) rfl rfl
    | .file _ _ => .tagged (fun _ => rfl) rfl rfl (by simp)
    | .memfd _ => .tagged (fun _ => rfl) rfl rfl (by simp)

instance : LawfulCodec MemoryBackend 2 where
  roundTrips _ := .record (fun _ => rfl) rfl (by simp)

instance : LawfulCodec MemoryDevice 4 where
  roundTrips _ := .record (fun _ => rfl) rfl (by simp)

instance : LawfulCodec Memory 6 where
  roundTrips _ := .record (fun _ => rfl) rfl (by simp)

end GuestSpec
