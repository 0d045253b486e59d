import GuestSpec.Proofs.Bus.Insertion

/-!
# Buses that are listed for a request

The allocator lists the buses that devices of each kind go on. Whatever an operation hands out as
the bus of a device is on the list as it stands then, at the index that the caller gave, if any.
-/

namespace GuestSpec

open Alloc

/-- The buses that are listed for a request in order. PCI devices go on any PCI bus, and for these
there is no list. -/
def BusAllocator.busesFor (a : BusAllocator) : BusRequest → List BusId
  | .none | .pci _ | .virtio => []
  | .scsi family => a.hbaBuses family
  | .ide => a.ideBuses
  | .ahci => a.ahciBuses
  | .usb controller =>
    (a.usb.filter fun u => controller.all fun c => Text.occurs c u.1).map (·.2)
  | .floppy => a.floppyBus.toList
  | .isaSerial => [BusAllocator.isaBus]
  | .virtioSerial => a.virtioSerialBus.toList

def BusRequest.ofDrive (ahci : Bool) : BusRequest := if ahci then .ahci else .ide

namespace BusAllocator

variable {a : BusAllocator} {bus : BusId}

@[simp] theorem busesFor_addClaim {c : Coordinate} {owner : String} {request : BusRequest} :
    (a.addClaim bus c owner).busesFor request = a.busesFor request := by
  cases request <;> rfl

theorem busesFor_usb_none : a.busesFor (.usb none) = a.usb.map (·.2) := by
  have hall : a.usb.filter (fun u => Option.all (fun c => Text.occurs c u.1) none) = a.usb :=
    List.filter_eq_self.2 fun _ _ => rfl
  rw [busesFor, hall]

theorem busesFor_usb_subset (controller : Option String) :
    a.busesFor (.usb controller) ⊆ a.busesFor (.usb none) := by
  rw [busesFor_usb_none]
  exact List.map_subset _ List.filter_sublist.subset

end BusAllocator

namespace Alloc

variable {α : Type} {a : BusAllocator} {x : Alloc α}

theorem Ensures.and {P Q : α → BusAllocator → Prop} {E F : CompileError → BusAllocator → Prop}
    (hx : Ensures x a P E) (hy : Ensures x a Q F) :
    Ensures x a (fun v b => P v b ∧ Q v b) (fun e b => E e b ∧ F e b) := by
  unfold Ensures
  cases h : outcome x a with
  | mk r b =>
    cases r with
    | ok v => exact ⟨hx.ok h, hy.ok h⟩
    | error e => exact ⟨hx.error h, hy.error h⟩

theorem ensures_trivial (x : Alloc α) (a : BusAllocator) :
    Ensures x a (fun _ _ => True) (fun _ _ => True) := by
  unfold Ensures
  split <;> trivial

/-- An operation gives a value with `Q`, or it fails. -/
abbrev Gives (x : Alloc α) (a : BusAllocator) (Q : α → BusAllocator → Prop) : Prop :=
  Ensures x a Q fun _ _ => True

theorem Gives.bind {β : Type} {f : α → Alloc β} {R : β → BusAllocator → Prop}
    (hf : ∀ v b, Gives (f v) b R) : Gives (x >>= f) a R :=
  (ensures_trivial x a).bind fun v b _ => hf v b

/-! ## Buses -/

theorem gives_addHba (family : HbaFamily) :
    Gives (addHba family) a fun bus b => bus ∈ b.busesFor (.scsi family) := by
  have hnew : ∀ (hbas : List (HbaFamily × BusId)) (bus : BusId),
      bus ∈ ((hbas ++ [(family, bus)]).filter (·.1 == family)).map (·.2) := by
    simp
  apply ensures_get_bind
  cases family with
  | virtioScsi =>
    refine Gives.bind fun p b => ensures_modify_bind (ensures_modify_bind (ensures_pure ?_))
    exact hnew _ _
  | lsi =>
    refine Gives.bind fun p b => ensures_modify_bind (ensures_modify_bind (ensures_pure ?_))
    exact hnew _ _

theorem gives_hbaAt (owner : String) (family : HbaFamily) (index : Nat) :
    Gives (hbaAt owner family index) a fun bus b =>
      (b.busesFor (.scsi family))[index]? = some bus := by
  apply ensures_get_bind
  refine Gives.bind fun _ b => ensures_get_bind ?_
  cases h : (b.hbaBuses family)[index]? with
  | some bus => exact ensures_pure h
  | none => exact ensures_throw trivial

theorem gives_ahciBuses : Gives ahciBuses a fun buses b => buses = b.busesFor .ahci := by
  apply ensures_get_bind
  split
  · exact Gives.bind fun p b => ensures_modify_bind (ensures_modify_bind (ensures_pure rfl))
  · exact ensures_pure rfl

theorem gives_driveBuses (owner : String) (ahci : Bool) :
    Gives (driveBuses owner ahci) a fun buses b => buses = b.busesFor (.ofDrive ahci) := by
  apply ensures_get_bind
  split
  · exact ensures_pure rfl
  · exact ensures_pure rfl
  · exact ensures_pure rfl
  · exact gives_ahciBuses
  · exact gives_ahciBuses
  · exact ensures_unsupported fun _ => trivial
  · exact ensures_unsupported fun _ => trivial

theorem gives_usbBuses (owner : String) (controller : Option String) (hint : PlacementHint) :
    Gives (usbBuses owner controller hint) a fun buses b =>
      b = a ∧ buses ⊆ b.busesFor (.usb none) ∧ (∀ bus, hint.usbBus = some bus → buses = [bus]) ∧
        (hint.usbBus = none → buses = b.busesFor (.usb controller)) := by
  apply ensures_get_bind
  cases hbus : hint.usbBus with
  | some bus =>
    dsimp only
    split
    · rename_i hmem
      obtain ⟨u, hu, hid⟩ := List.any_eq_true.1 hmem
      refine ensures_pure ⟨rfl, ?_, fun bus' h => by rw [Option.some.inj h], nofun⟩
      rw [BusAllocator.busesFor_usb_none]
      rintro _ (_ | ⟨_, ⟨⟩⟩)
      exact (beq_iff_eq.1 hid) ▸ List.mem_map_of_mem hu
    · exact ensures_throw trivial
  | none =>
    exact ensures_pure ⟨rfl, BusAllocator.busesFor_usb_subset controller, nofun, fun _ => rfl⟩

theorem gives_floppyBus (owner : String) :
    Gives (floppyBus owner) a fun bus b => b.busesFor .floppy = [bus] := by
  apply ensures_get_bind
  cases h : a.floppyBus with
  | some bus =>
    refine ensures_pure ?_
    rw [BusAllocator.busesFor, h]
    rfl
  | none =>
    dsimp only
    split
    · exact ensures_modify_bind (ensures_modify_bind (ensures_pure rfl))
    · exact ensures_unsupported fun _ => trivial

theorem gives_virtioSerialBus :
    Gives virtioSerialBus a fun bus b => b.busesFor .virtioSerial = [bus] := by
  apply ensures_get_bind
  cases h : a.virtioSerialBus with
  | some bus =>
    refine ensures_pure ?_
    rw [BusAllocator.busesFor, h]
    rfl
  | none =>
    exact Gives.bind fun p b => ensures_modify_bind (ensures_modify_bind (ensures_pure rfl))

/-! ## Coordinates -/

variable {b : BusAllocator} {c : Coordinate} {p : Placement}

theorem Granted.busesFor_eq {ask : Option Placement} {owner : String}
    (hg : Granted ask a owner p b) (request : BusRequest) :
    b.busesFor request = a.busesFor request := by
  obtain ⟨_, -, -, -, -, rfl⟩ := hg
  exact BusAllocator.busesFor_addClaim

theorem exists_of_firstOn? {buses : List BusId} (h : firstOn? a buses = some (bus, c)) :
    bus ∈ buses ∧ ∃ n, a.node? bus = some n ∧ n.firstFree? = some c := by
  obtain ⟨bus', hmem, hbus⟩ := List.exists_of_findSome?_eq_some h
  obtain ⟨n, hn, hbus⟩ := Option.bind_eq_some_iff.1 hbus
  obtain ⟨c', hc, hbus⟩ := Option.bind_eq_some_iff.1 hbus
  obtain ⟨rfl, rfl⟩ := Prod.mk.inj (Option.some.inj hbus)
  exact ⟨hmem, n, hn, hc⟩

theorem exists_of_firstFreeScsi? {n : BusNode} {target lun : Option UInt16}
    (h : n.firstFreeScsi? target lun = some c) : ∃ t l, c = .scsi t l ∧
      (∀ t', target = some t' → t = t') ∧ ∀ l', lun = some l' → l = l' := by
  obtain ⟨i, -, hi, hc, -⟩ := firstFrom?_eq_some h
  split at hc
  · obtain rfl := Option.some.inj hc
    cases hshape : n.shape with
    | scsi targets luns =>
      refine ⟨_, _, rfl, ?_, ?_⟩
      · rintro t' rfl
        rfl
      · rintro l' rfl
        rfl
    | _ =>
      rw [hshape] at hi
      exact absurd hi (Nat.not_lt_zero i)
  · cases hc

theorem exists_of_firstScsi? {target lun : Option UInt16} {buses : List BusId}
    (h : firstScsi? a target lun buses = some (bus, c)) : bus ∈ buses ∧ ∃ t l, c = .scsi t l ∧
      (∀ t', target = some t' → t = t') ∧ ∀ l', lun = some l' → l = l' := by
  obtain ⟨bus', hmem, hbus⟩ := List.exists_of_findSome?_eq_some h
  obtain ⟨n, -, hbus⟩ := Option.bind_eq_some_iff.1 hbus
  obtain ⟨c', hc, hbus⟩ := Option.bind_eq_some_iff.1 hbus
  obtain ⟨rfl, rfl⟩ := Prod.mk.inj (Option.some.inj hbus)
  exact ⟨hmem, exists_of_firstFreeScsi? hc⟩

end Alloc

end GuestSpec
