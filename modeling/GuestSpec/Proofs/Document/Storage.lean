import GuestSpec.Document.Storage
import GuestSpec.Proofs.Json.RoundTrip
import Mathlib

/-!
# Storage backends that are read back

Nodes, chains of them and drive records make a round trip through their documents.
-/

namespace GuestSpec

open Json

instance : LawfulCodec NodeCache 1 where
  roundTrips _ := .record (fun _ => rfl) rfl (by simp)

instance : LawfulCodec CacheMode 0 where
  roundTrips := Named.roundTrips (fun mode => by cases mode <;> decide) (by decide)

instance : LawfulCodec Aio 0 where
  roundTrips := Named.roundTrips (fun aio => by cases aio <;> decide) (by decide)

instance : LawfulCodec ImageFormat 0 where
  roundTrips := Named.roundTrips (fun format => by cases format <;> decide) (by decide)

instance : LawfulCodec ServerAddress 1 where
  roundTrips
    | .inet _ _ => .tagged (fun _ => rfl) rfl rfl (by simp)
    | .socket _ => .tagged (fun _ => rfl) rfl rfl (by simp)

instance : LawfulCodec WebProtocol 0 where
  roundTrips := Named.roundTrips (fun protocol => by cases protocol <;> decide) (by decide)

instance : LawfulCodec ProtocolNode 2 where
  roundTrips
    | .file _ _ => .tagged (fun _ => rfl) rfl rfl (by simp)
    | .hostDevice _ _ => .tagged (fun _ => rfl) rfl rfl (by simp)
    | .nbd _ _ => .tagged (fun _ => rfl) rfl rfl (by simp)
    | .iscsi _ _ _ => .tagged (fun _ => rfl) rfl rfl (by simp)
    | .gluster _ _ _ => .tagged (fun _ => rfl) rfl rfl (by simp)
    | .rbd _ _ => .tagged (fun _ => rfl) rfl rfl (by simp)
    | .web _ _ => .tagged (fun _ => rfl) rfl rfl (by simp)
    | .ssh _ _ _ => .tagged (fun _ => rfl) rfl rfl (by simp)
    | .blkdebug _ _ => .tagged (fun _ => rfl) rfl rfl (by simp)

instance : LawfulCodec FormatNode 1 where
  roundTrips _ := .record (fun _ => rfl) rfl (by simp)

instance : LawfulCodec FilterNode 1 where
  roundTrips
    | .copyOnRead _ => .tagged (fun _ => rfl) rfl rfl (by simp)
    | .throttle _ _ => .tagged (fun _ => rfl) rfl rfl (by simp)

instance : LawfulCodec StorageNodeKind 3 where
  roundTrips
    | .protocol _ => .tagged (fun _ => rfl) rfl rfl (by simp)
    | .format n => .taggedRecord (fun _ => rfl) rfl rfl rfl (.of_lawful n (by decide)) (by simp)
    | .filter _ => .tagged (fun _ => rfl) rfl rfl (by simp)

instance : LawfulCodec StorageNode 4 where
  roundTrips _ := .record (fun _ => rfl) rfl (by simp)

instance : LawfulCodec DriveInterface 1 where
  roundTrips
    | .none => .bare (fun _ => rfl) rfl rfl
    | .pflash _ => .tagged (fun _ => rfl) rfl rfl (by simp)

instance : LawfulCodec LegacyDrive 2 where
  roundTrips _ := .record (fun _ => rfl) rfl (by simp)

instance : LawfulCodec StorageBackend 6 where
  roundTrips
    | .layered _ _ => .tagged (fun _ => rfl) rfl rfl (by simp)
    | .legacy _ => .tagged (fun _ => rfl) rfl rfl (by simp)
    | .empty => .bare (fun _ => rfl) rfl rfl

end GuestSpec
