import GuestSpec.Proofs.Bus.Adapters
import GuestSpec.Proofs.Bus.Hierarchy
import GuestSpec.Proofs.Bus.Layout
import GuestSpec.Proofs.Bus.UniqueIds

/-!
# Room for controllers on demand

As long as callers add no USB controllers, every id that the allocator has noted reaches its own
bus. A controller that is inserted on demand then fails only for want of a seat, and the buses that
it provides have room.
-/

namespace GuestSpec

open Alloc BusAllocator

/-- The buses for drives and floppies are those that the machine has or can be given. -/
structure BusAllocator.Fitted (a : BusAllocator) : Prop where
  ide : a.ideBuses = builtInIde a.family
  ahci : a.family = .q35 → a.ahciBuses = builtInIde .q35
  ahciFamily : a.ahciBuses ≠ [] → a.family = .q35 ∨ a.family = .i440fx ∨ a.family = .armVirt false
  floppyFamily : a.floppyBus ≠ none → a.family = .i440fx ∨ a.family = .q35

namespace BusAllocator.Fitted

variable {a b : BusAllocator} {part : Part}

theorem start (family : MachineFamily) (machine : String) (config : AllocatorConfig) :
    (BusAllocator.start family machine config).Fitted where
  ide := rfl
  ahci := by
    rintro rfl
    rfl
  ahciFamily h := by
    cases family with
    | q35 => exact .inl rfl
    | _ => exact absurd rfl h
  floppyFamily h := by
    cases family with
    | i440fx => exact .inl rfl
    | _ => exact absurd rfl h

theorem inserted (h : a.Fitted) (hadm : part.Admitted a) (hi : Inserted part a b) : b.Fitted := by
  obtain ⟨placement, c, hs, rfl⟩ := hi
  have hdue := (hs.admitted hadm).due
  rw [hs.eq_with] at hdue ⊢
  cases part with
  | ahci =>
    obtain ⟨hnone, hfamily⟩ := hdue nofun
    refine ⟨h.ide, fun hq35 => ?_, fun _ => .inr hfamily, h.floppyFamily⟩
    have hq35 : a.family = .q35 := hq35
    rw [hq35] at hfamily
    exact absurd hfamily (by decide)
  | fdc =>
    obtain ⟨-, hfamily⟩ := hdue nofun
    exact ⟨h.ide, h.ahci, h.ahciFamily, fun _ => .inr hfamily⟩
  | _ => exact ⟨h.ide, h.ahci, h.ahciFamily, h.floppyFamily⟩

end BusAllocator.Fitted

theorem fitted_run (family : MachineFamily) (machine : String) (config : AllocatorConfig)
    (calls : List BusCall) : ((start family machine config).afterAll calls).Fitted :=
  run_induction (I := Fitted)
    (fun _ _ _ _ _ hg h => by
      obtain ⟨_, -, -, -, -, rfl⟩ := hg
      exact ⟨h.ide, h.ahci, h.ahciFamily, h.floppyFamily⟩)
    (fun _ _ _ hadm hi h => h.inserted hadm hi) (.start family machine config)
    (.start family machine config) calls

/-- What holds of the buses as long as callers add no USB controllers. -/
structure BusAllocator.Undisturbed (a : BusAllocator) : Prop where
  wired : a.Wired
  grounded : a.Grounded
  distinct : a.Distinct
  laidOut : a.LaidOut
  fitted : a.Fitted
  numbers : ∀ hba, a.Numbers hba

namespace BusAllocator.Undisturbed

variable {a b c : BusAllocator} {part : Part} {n : BusNode} {id : BusId}

theorem node?_of_mem (h : a.Distinct) (hn : n ∈ a.buses) : a.node? n.bus.id = some n := by
  cases hm : a.node? n.bus.id with
  | none => exact absurd (List.find?_eq_none.1 hm n hn) (by simp)
  | some m => rw [List.inj_on_of_nodup_map h.nodup (mem_of_node? hm) hn (id_of_node? hm)]

/-- A bus that is listed for a request is there, and of the kind that is asked for. -/
theorem exists_listed (h : a.Undisturbed) (request : BusRequest) {kind : BusKind}
    (hkind : request.listedKind = some kind) (hid : id ∈ a.busesFor request)
    (hisa : request ≠ .isaSerial) : ∃ n, a.node? id = some n ∧ n.bus.kind = kind := by
  obtain ⟨n, hn, rfl, hnkind⟩ :=
    h.wired.listed request kind hkind id hid fun hrequest => absurd hrequest hisa
  exact ⟨n, node?_of_mem h.distinct hn, hnkind⟩

theorem node?_install (h : a.Distinct) (hdue : part.Due a) (placement : Option Placement)
    (hn : n ∈ part.nodes a) : (part.install a placement).node? n.bus.id = some n := by
  have hid : ∀ id, .usb id ∈ part.names a → ¬a.family.KeepsId id ∧ ¬BusName.Issued a (.usb id) := by
    intro id hmem
    refine ⟨?_, Part.not_issued_of_mem_names hdue hmem⟩
    obtain ⟨model, ports, ask, rfl⟩ := Part.eq_usb_of_mem_names hmem
    rw [hdue.2.1]
    exact not_keepsId_usb0 _
  refine node?_of_mem (h.install (.inl hdue) hid placement) ?_
  rw [Part.buses_install]
  exact List.mem_append_right _ hn

end BusAllocator.Undisturbed

theorem undisturbed_run (family : MachineFamily) (machine : String) (config : AllocatorConfig)
    {calls : List BusCall} (hcalls : usbIds calls = []) :
    ((start family machine config).afterAll calls).Undisturbed where
  wired := wired_run family machine config calls
  grounded := grounded_run family machine config calls
  laidOut := laidOut_run family machine config calls
  fitted := fitted_run family machine config calls
  numbers hba := numbers_run family machine config hba calls
  distinct := by
    refine (distinct_run family machine config calls ?_ ?_ ?_).1
    · rw [hcalls]
      exact List.nodup_nil
    · rw [hcalls]
      exact fun _ h => nomatch h
    · rintro pre model ports hint post rfl
      have hmem : "usb0" ∈ usbIds (pre ++ .addUsb "usb0" model ports hint :: post) :=
        List.mem_filterMap.2 ⟨_, List.mem_append_right _ List.mem_cons_self, rfl⟩
      rw [hcalls] at hmem
      cases hmem

/-! ## Seats -/

/-- Whether there is no place left for a PCI or virtio device. -/
def BusAllocator.SeatFull (a : BusAllocator) : BusRequest → Prop
  | .pci kind => a.family.hasPci = true ∧ a.PciFull kind
  | .virtio =>
    match a.family.virtioTransport with
    | .pci => a.PciFull .express
    | .ccw | .mmio => a.FullAt a.family.rootBus
  | _ => False

def HbaFamily.seat : HbaFamily → BusRequest
  | virtioScsi => .virtio
  | lsi => .pci .conventional

namespace Alloc

variable {a b : BusAllocator} {owner : String} {p : Placement}

inductive Sits (a : BusAllocator) (owner : String) (p : Placement) (b : BusAllocator) : Prop where
  | attached (hp : a.family.hasPci = true) (h : Attached a owner p b)
  | rooted (hbus : p.bus = a.family.rootBus) (hnext : TakesNext a owner p b)

theorem Sits.placed (h : Sits a owner p b) : Placed Part.IsBridge a owner p b := by
  cases h with
  | attached _ h => exact h.placed
  | rooted _ hnext => exact ⟨a, .refl, hnext.granted⟩

theorem failsOn_placePci_empty (h : a.Wired) (ha : a.Grounded) (owner : String) (kind : PciKind)
    (hp : a.family.hasPci = true) :
    FailsOn (placePci owner kind .empty) a (a.SeatFull (.pci kind)) (Sits a owner) := by
  refine ((failsOn_placePci h ha owner kind hp ⟨rfl, rfl⟩).congr ?_).imp fun _ _ h => .attached hp h
  exact (and_iff_right hp).symm

theorem hasPci_of_virtioTransport :
    ∀ family : MachineFamily, family.virtioTransport = .pci → family.hasPci = true := by
  decide

theorem failsOn_placeVirtio_empty (h : a.Wired) (ha : a.Grounded) (owner : String) :
    FailsOn (placeVirtio owner .empty) a (a.SeatFull .virtio) (Sits a owner) := by
  apply ensures_get_bind
  rw [SeatFull]
  cases ht : a.family.virtioTransport with
  | pci =>
    have hp := hasPci_of_virtioTransport _ ht
    exact (failsOn_placePci_empty h ha owner .express hp).congr (and_iff_right hp)
  | ccw | mmio =>
    obtain ⟨n, hn, -⟩ := h.root
    exact ((failsOn_claimNext owner hn).congr (fullAt_iff hn).symm).imp fun _ _ h => .rooted h.1 h.2

/-! ## Controllers -/

/-- A controller was inserted after its seat was claimed. -/
def Added (part : Part) (a b : BusAllocator) : Prop :=
  ∃ c p, Sits a (part.id a) p c ∧ b = part.install c (some p)

theorem failsOn_added {α : Type} {x : Alloc Placement} {f : Placement → Alloc α} {part : Part}
    {P : Prop} {v : α} (hx : FailsOn x a P (Sits a (part.id a))) (hf : Records f part a v) :
    FailsOn (x >>= f) a P fun w b => w = v ∧ Added part a b := by
  refine Ensures.bind hx ?_
  rintro p b ⟨hP, hsits⟩
  obtain ⟨buses, controllers, pciChain, rootPorts, bridge, hb⟩ := hsits.placed.eq_with
  have hv : outcome (f p) b = (.ok v, part.install b (some p)) := by
    rw [hb]
    exact hf buses controllers pciChain rootPorts bridge p
  rw [Ensures, hv]
  exact ⟨hP, rfl, b, p, hsits, rfl⟩

theorem Added.family_eq {part : Part} (h : Added part a b) : b.family = a.family := by
  obtain ⟨c, p, hsits, rfl⟩ := h
  obtain ⟨_, _, _, _, _, rfl⟩ := hsits.placed.eq_with
  exact part.family_install

theorem Added.config_eq {part : Part} (h : Added part a b) : b.config = a.config := by
  obtain ⟨c, p, hsits, rfl⟩ := h
  obtain ⟨_, _, _, _, _, rfl⟩ := hsits.placed.eq_with
  exact part.config_install

/-- The USB controller that was inserted when there was none has the only USB bus. -/
theorem Added.eq_usb0 (hadd : Added (.usb "usb0" "qemu-xhci" 4 none) a b) (hu : a.usb = [])
    (controller : Option String) : ∀ id ∈ b.busesFor (.usb controller), id = "usb0.0" := by
  intro id hid
  obtain ⟨c, p, hsits, rfl⟩ := hadd
  obtain ⟨_, _, _, _, _, rfl⟩ := hsits.placed.eq_with
  have hid := busesFor_usb_subset controller hid
  rw [busesFor_usb_none] at hid
  change id ∈ (a.usb ++ [("qemu-xhci", "usb0.0")]).map (·.2) at hid
  rwa [hu, List.nil_append, List.map_singleton, List.mem_singleton] at hid

theorem Added.node? {part : Part} (h : a.Undisturbed) (hadd : Added part a b)
    (hdue : ∀ buses controllers pciChain rootPorts pciePciBridge,
      let c := { a with buses, controllers, pciChain, rootPorts, pciePciBridge }
      part.Due c ∧ part.nodes c = part.nodes a) {n : BusNode} (hn : n ∈ part.nodes a) :
    b.node? n.bus.id = some n := by
  obtain ⟨d, p, hsits, rfl⟩ := hadd
  obtain ⟨c, hac, hg⟩ := hsits.placed
  have hdistinct := (h.distinct.insertions hac).granted hg
  obtain ⟨_, -, -, -, -, rfl⟩ := hg
  obtain ⟨_, _, _, _, _, rfl⟩ := Bridges.eq_with hac
  obtain ⟨hd, hnodes⟩ := hdue _ _ _ _ _
  exact Undisturbed.node?_install hdistinct hd _ (hnodes ▸ hn)

theorem outcome_virtioSerialBus {bus : BusId} (hbus : a.virtioSerialBus = some bus) :
    outcome virtioSerialBus a = (.ok bus, a) := by
  rw [virtioSerialBus, outcome_get_bind, hbus]
  rfl

section Added

variable (h : a.Undisturbed)

include h

theorem failsOn_addedPci {α : Type} (part : Part) {kind : PciKind} {f : Placement → Alloc α}
    {v : α} (hp : a.family.hasPci = true) (hf : Records f part a v) :
    FailsOn (placePci (part.id a) kind .empty >>= f) a (a.SeatFull (.pci kind)) fun w b =>
      w = v ∧ Added part a b :=
  failsOn_added (failsOn_placePci_empty h.wired h.grounded _ kind hp) hf

theorem failsOn_addedVirtio {α : Type} (part : Part) {f : Placement → Alloc α} {v : α}
    (hf : Records f part a v) :
    FailsOn (placeVirtio (part.id a) .empty >>= f) a (a.SeatFull .virtio) fun w b =>
      w = v ∧ Added part a b :=
  failsOn_added (failsOn_placeVirtio_empty h.wired h.grounded _) hf

theorem failsOn_addHba (family : HbaFamily) (hf : family = .lsi → a.family.hasPci = true) :
    FailsOn (addHba family) a (a.SeatFull family.seat) fun bus b =>
      bus = Part.id a (.hba family) ++ ".0" ∧ Added (.hba family) a b := by
  apply ensures_get_bind
  cases family with
  | virtioScsi => exact failsOn_addedVirtio h (.hba .virtioScsi) fun _ _ _ _ _ p => rfl
  | lsi => exact failsOn_addedPci h (.hba .lsi) (hf rfl) fun _ _ _ _ _ p => rfl

theorem failsOn_ahciBuses (hnone : a.ahciBuses = []) (hp : a.family.hasPci = true) :
    FailsOn ahciBuses a (a.SeatFull (.pci .integrated)) fun buses b =>
      buses = (List.range 6).map (numbered "ahci0.") ∧ Added .ahci a b := by
  apply ensures_get_bind
  rw [if_pos (by simpa using hnone)]
  exact failsOn_addedPci h .ahci hp fun _ _ _ _ _ p => rfl

theorem failsOn_addUsb0 (hp : a.family.hasPci = true) :
    FailsOn (addUsbController "usb0" "qemu-xhci" 4 .empty) a (a.SeatFull (.pci .express))
      fun _ b => Added (.usb "usb0" "qemu-xhci" 4 none) a b := by
  have hkind : (if Text.occurs "xhci" "qemu-xhci" then PciKind.express else .conventional) =
      .express := by
    decide
  unfold addUsbController
  rw [hkind]
  refine FailsOn.imp (failsOn_addedPci h (.usb "usb0" "qemu-xhci" 4 none) hp
    fun _ _ _ _ _ p => rfl) fun _ _ hadd => hadd.2

theorem failsOn_virtioSerialBus (hnone : a.virtioSerialBus = none) :
    FailsOn virtioSerialBus a (a.SeatFull .virtio) fun bus b =>
      bus = "virtio_serial0.0" ∧ Added .virtioSerial a b := by
  apply ensures_get_bind
  rw [hnone]
  exact failsOn_addedVirtio h .virtioSerial fun _ _ _ _ _ p => rfl

end Added

end Alloc

end GuestSpec
