import GuestSpec.Document.Address
import GuestSpec.Proofs.Json.RoundTrip
import GuestSpec.Proofs.Text.Split
import Mathlib

/-!
# Addresses that are read back

The text of a PCI address is read as the address, so buses, coordinates and placements make a round
trip through their documents.
-/

namespace GuestSpec

open Json

namespace PciAddress

def slotText (slot : Fin 32) : List Char := ['0', 'x'] ++ Numeral.padZeros 2 (Numeral.hex slot)

theorem toList_text (a : PciAddress) :
    a.text.toList = slotText a.slot ++ '.' :: Numeral.decimal a.function := by
  simp [text, slotText]

theorem point_notMem_slotText : ∀ slot : Fin 32, '.' ∉ slotText slot := by decide +kernel

theorem unsigned?_slotText : ∀ slot : Fin 32,
    Numeral.unsigned? 16 0xFF (dropHexMark (Text.Chars.trim (slotText slot))) = some slot.val := by
  decide +kernel

theorem unsigned?_function : ∀ function : Fin 8,
    Numeral.unsigned? 10 0xFF (Text.Chars.trim (Numeral.decimal function)) =
      some function.val := by
  decide +kernel

theorem ofText_text (a : PciAddress) : ofText a.text = .ok a := by
  have hnumbers : numbers? a.text.toList =
      some (UInt8.ofNat a.slot, UInt8.ofNat a.function) := by
    rw [toList_text, numbers?, Text.Chars.splitFirst?_append (point_notMem_slotText a.slot)]
    simp only [unsigned?_slotText, unsigned?_function]
    rfl
  have hslot : (UInt8.ofNat a.slot).toNat = a.slot := by
    rw [UInt8.toNat_ofNat']
    omega
  have hfunction : (UInt8.ofNat a.function).toNat = a.function := by
    rw [UInt8.toNat_ofNat']
    omega
  rw [ofText, hnumbers]
  simp [ofNumbers, hslot, hfunction]

end PciAddress

instance : LawfulCodec PciAddress 0 where
  roundTrips a := by
    refine ⟨fun _ => ?_, Json.noConfusion, .str _⟩
    exact congrArg Except.toOption a.ofText_text

instance : LawfulCodec BusKind 0 where
  roundTrips := Named.roundTrips (fun kind => by cases kind <;> decide) (by decide)

instance : LawfulCodec Coordinate 1 where
  roundTrips
    | .pci _ => .tagged (fun _ => rfl) rfl rfl (by simp)
    | .ccw _ => .tagged (fun _ => rfl) rfl rfl (by simp)
    | .mmio _ => .tagged (fun _ => rfl) rfl rfl (by simp)
    | .scsi _ _ => .tagged (fun _ => rfl) rfl rfl (by simp)
    | .unit _ => .tagged (fun _ => rfl) rfl rfl (by simp)
    | .port _ => .tagged (fun _ => rfl) rfl rfl (by simp)

instance : LawfulCodec Placement 2 where
  roundTrips _ := .record (fun _ => rfl) rfl (by simp)

instance : LawfulCodec Bus 1 where
  roundTrips _ := .record (fun _ => rfl) rfl (by simp)

end GuestSpec
