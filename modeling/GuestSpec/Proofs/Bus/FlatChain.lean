import GuestSpec.Proofs.Bus.Moves

/-!
# The flat PCI chain

Machines with PCI but without PCI Express have a chain of PCI buses, each behind a bridge in the
last slot of the one before it. All buses but the newest are full, and the newest keeps its last
slot for the bridge that extends the chain. So a device is refused only when the chain has its full
length and no other slot is left. USB devices share the root bus when a caller has given its id to
a USB controller, and may then take the slot that is kept.
-/

namespace GuestSpec

open Alloc BusAllocator

/-- The buses of the flat chain by their positions. -/
def chainBus : Nat → BusId
  | 0 => "pci.0"
  | k + 1 => numbered "pci-bridge-" k

def chainBridge (k : Nat) : Controller :=
  ⟨chainBus (k + 1), "pci-bridge", some ⟨chainBus k, .pci ⟨31, 0⟩⟩,
    .pciBridge (UInt8.ofNat (k + 1)), [chainBus (k + 1)]⟩

def ControllerKind.isPciBridge : ControllerKind → Bool
  | pciBridge _ => true
  | _ => false

namespace BusAllocator

/-- The flat chain has a number of bridges, each in the last slot of a bus that is full, and the
last slot of the newest bus is free. -/
structure FlatChain (a : BusAllocator) (bridges : Nat) : Prop where
  bridges_le : bridges ≤ 255
  buses : a.pciChain = (List.range (bridges + 1)).map chainBus
  controllers : a.controllers.filter (·.kind.isPciBridge) = (List.range bridges).map chainBridge
  filled : ∀ k < bridges, ∃ n, a.node? (chainBus k) = some n ∧ n.freeSlots = [] ∧
    n.owner? (.pci ⟨31, 0⟩) = some (chainBus (k + 1))
  room : ∃ n, a.node? (chainBus bridges) = some n ∧ 31 ∈ n.freeSlots

/-- No USB bus has the id of the flat root bus. -/
def Spared (a : BusAllocator) : Prop :=
  ∀ bus ∈ a.busesFor (.usb none), ∃ id, bus = id ++ ".0" ∧ id ≠ "pci"

structure Flat (a : BusAllocator) (bridges : Nat) : Prop where
  hosts : a.Hosts
  flat : a.family.isExpress = false
  spared : a.Spared
  chain : a.FlatChain bridges

end BusAllocator

theorem BusNode.owner?_claim_self {n : BusNode} {c : Coordinate} {owner : String}
    (h : n.owner? c = none) : (n.claim c owner).owner? c = some owner := by
  rw [owner?, Option.map_eq_none_iff] at h
  simp [owner?, h]

/-! ## Ids of the chain -/

theorem chainBus_ne_append {k : Nat} {id : String} (hid : id ≠ "pci") :
    chainBus k ≠ id ++ ".0" := by
  cases k with
  | zero =>
    intro h
    exact hid ((String.append_left_inj ".0").1 (h : "pci" ++ ".0" = id ++ ".0")).symm
  | succ k => exact BusName.numbered_ne_append "pci-bridge-" k (by decide)

theorem chainBus_inj {j k : Nat} (h : chainBus j = chainBus k) : j = k := by
  have hroot : ∀ k, numbered "pci-bridge-" k ≠ "pci" ++ ".0" := fun k =>
    BusName.numbered_ne_append "pci-bridge-" k (by decide)
  cases j with
  | zero =>
    cases k with
    | zero => rfl
    | succ k => exact absurd h.symm (hroot k)
  | succ j =>
    cases k with
    | zero => exact absurd h (hroot j)
    | succ k => rw [BusName.numbered_inj h]

theorem BusAllocator.Spared.ne_chainBus {a : BusAllocator} (h : a.Spared) {bus : BusId}
    (hbus : bus ∈ a.busesFor (.usb none)) (k : Nat) : bus ≠ chainBus k := by
  obtain ⟨id, rfl, hid⟩ := h bus hbus
  exact (chainBus_ne_append hid).symm

/-! ## Another bridge -/

namespace Part

variable {a : BusAllocator} {m : Nat} (h : a.pciChain = (List.range (m + 1)).map chainBus)

include h

theorem id_pciBridge : pciBridge.id a = chainBus (m + 1) := by
  rw [id, h]
  simp [chainBus]

theorem pciChain_install_pciBridge {placement : Option Placement} :
    (pciBridge.install a placement).pciChain = (List.range (m + 2)).map chainBus := by
  have hchain : (pciBridge.install a placement).pciChain = a.pciChain ++ [pciBridge.id a] := rfl
  rw [hchain, id_pciBridge h, h, List.range_succ (n := m + 1), List.map_append]
  rfl

theorem controllers_install_pciBridge
    (hbridges : a.controllers.filter (·.kind.isPciBridge) = (List.range m).map chainBridge) :
    (pciBridge.install a (some ⟨chainBus m, .pci ⟨31, 0⟩⟩)).controllers.filter
        (·.kind.isPciBridge) =
      (List.range (m + 1)).map chainBridge := by
  have hlength : a.pciChain.length - 1 = m := by simp [h]
  have hnew : pciBridge.controller a (some ⟨chainBus m, .pci ⟨31, 0⟩⟩) = chainBridge m := by
    rw [controller, buses, kind, id_pciBridge h, hlength]
    rfl
  rw [controllers_install, List.filter_append, hbridges, hnew, List.range_succ, List.map_append]
  rfl

theorem node?_install_pciBridge (placement : Option Placement) (hnamed : a.Named)
    (hdue : Part.Due a .pciBridge) :
    (pciBridge.install a placement).node? (chainBus (m + 1)) =
      some (.ofShape (chainBus (m + 1)) .pciBridge .pciBus (some (chainBus (m + 1)))
        [slotZeroOf (chainBus (m + 1))]) := by
  rw [← id_pciBridge h]
  exact node?_install_bridge hnamed hdue trivial List.mem_cons_self

end Part

theorem BusAllocator.Spared.install {a : BusAllocator} (h : a.Spared) {part : Part}
    {placement : Option Placement}
    (hid : ∀ id model ports ask, part = .usb id model ports ask → id ≠ "pci") :
    (part.install a placement).Spared := by
  intro bus hbus
  cases part with
  | usb id model ports ask =>
    rw [busesFor_usb_none] at hbus
    change bus ∈ (a.usb ++ [(model, id ++ ".0")]).map (·.2) at hbus
    rw [List.map_append, List.mem_append, ← busesFor_usb_none] at hbus
    obtain hbus | hbus := hbus
    · exact h bus hbus
    · exact ⟨id, List.mem_singleton.1 hbus, hid id model ports ask rfl⟩
  | _ => exact h bus hbus

namespace BusAllocator

variable {a b : BusAllocator} {m : Nat} {n : BusNode} {owner : String} {p : Placement}

namespace FlatChain

variable (h : a.FlatChain m)

include h

theorem mem_buses {bus : BusId} : bus ∈ a.pciChain ↔ ∃ k ≤ m, bus = chainBus k := by
  rw [h.buses, List.mem_map]
  refine exists_congr fun k => ?_
  rw [List.mem_range, Nat.lt_succ_iff, eq_comm]

theorem newest_eq : a.newest = chainBus m := by
  simp [newest, h.buses, List.range_succ]

/-- What leaves the chain and its full buses alone keeps it as long as the last slot of the newest
bus is free. -/
theorem frame (hchain : b.pciChain = a.pciChain)
    (hcontrollers : b.controllers.filter (·.kind.isPciBridge) =
      a.controllers.filter (·.kind.isPciBridge))
    (hnode : ∀ k < m, ∀ n, a.node? (chainBus k) = some n → b.node? (chainBus k) = some n)
    (hroom : ∃ n, b.node? (chainBus m) = some n ∧ 31 ∈ n.freeSlots) : b.FlatChain m where
  bridges_le := h.bridges_le
  buses := hchain.trans h.buses
  controllers := hcontrollers.trans h.controllers
  filled k hk := by
    obtain ⟨n, hn, hfilled⟩ := h.filled k hk
    exact ⟨n, hnode k hk n hn, hfilled⟩
  room := hroom

theorem granted {ask : Option Placement} (hg : Granted ask a owner p b)
    (hbus : ∀ k ≤ m, p.bus ≠ chainBus k) : b.FlatChain m := by
  obtain ⟨-, -, -, -, -, rfl⟩ := hg
  have hnode : ∀ k ≤ m, ∀ n, a.node? (chainBus k) = some n →
      (a.addClaim p.bus p.coordinate owner).node? (chainBus k) = some n := by
    intro k hk n hn
    rw [node?_addClaim, hn, Option.map_some, if_neg (hbus k hk).symm]
  obtain ⟨n, hn, h31⟩ := h.room
  exact h.frame rfl rfl (fun k hk => hnode k hk.le) ⟨n, hnode m le_rfl n hn, h31⟩

theorem install {part : Part} (hpart : ¬part.IsBridge) (placement : Option Placement) :
    (part.install a placement).FlatChain m := by
  obtain ⟨n, hn, h31⟩ := h.room
  refine h.frame (Part.noted_of_not_isBridge a placement hpart).1
    (Part.filter_controllers_install ?_) (fun k _ n hn => Part.node?_install_of_node? hn)
    ⟨n, Part.node?_install_of_node? hn, h31⟩
  cases part <;> first | rfl | exact absurd trivial hpart

end FlatChain

namespace Flat

variable (h : a.Flat m)

include h

theorem shape_eq {k : Nat} (hk : k ≤ m) (hn : a.node? (chainBus k) = some n) :
    n.shape = .pciBus := by
  obtain ⟨_, hn', -, hshape⟩ :=
    h.hosts.wired.chain _ (h.chain.mem_buses.2 ⟨k, hk, rfl⟩)
  rw [Option.some.inj (hn.symm.trans hn')]
  exact hshape

/-- The lowest slot of the newest bus is not the last one unless there is no other. -/
theorem takesNext (hnext : TakesNext a owner p b) (hbus : p.bus = chainBus m)
    (hn : a.node? (chainBus m) = some n) {t : Fin 32} (ht : t ∈ n.freeSlots) (hlast : t ≠ 31) :
    b.FlatChain m := by
  obtain ⟨n', hn', hfirst⟩ := hnext.first
  obtain rfl : n = n' := Option.some.inj (hn.symm.trans (hbus ▸ hn'))
  obtain ⟨slot, -, hcoordinate, hmin⟩ :=
    BusNode.exists_slot_of_firstFree? (h.shape_eq le_rfl hn) hfirst
  have hne : slot ≠ 31 := by
    have := hmin t ht
    omega
  obtain ⟨n', hn', h31⟩ := h.chain.room
  obtain rfl : n = n' := Option.some.inj (hn.symm.trans hn')
  obtain ⟨-, -, -, -, -, rfl⟩ := hnext.granted
  refine h.chain.frame rfl rfl (fun k hk l hl => ?_) ⟨n.claim p.coordinate owner, ?_, ?_⟩
  · have hother : chainBus k ≠ p.bus := by
      rw [hbus]
      exact fun heq => hk.ne (chainBus_inj heq)
    rw [node?_addClaim, hl, Option.map_some, if_neg hother]
  · rw [node?_addClaim, hn, Option.map_some, if_pos hbus.symm]
  · rw [hcoordinate, BusNode.freeSlots_claim, List.mem_filter]
    exact ⟨h31, by simpa using hne.symm⟩

/-- No bus has room exactly when only the last slot of the newest bus is left. -/
theorem freeSlots_eq_of_find?_eq_none (hfind : a.pciChain.find? (hasRoom a a.newest) = none)
    (hn : a.node? (chainBus m) = some n) : n.freeSlots = [31] := by
  obtain ⟨n', hn', h31⟩ := h.chain.room
  obtain rfl : n = n' := Option.some.inj (hn.symm.trans hn')
  have hmem : chainBus m ∈ a.pciChain := h.chain.mem_buses.2 ⟨m, le_rfl, rfl⟩
  have hroom := List.find?_eq_none.1 hfind _ hmem
  by_contra hne
  refine hroom (hasRoom_iff.2 ⟨n, hn, List.ne_nil_of_mem h31, fun ⟨_, hone⟩ => hne ?_⟩)
  obtain ⟨slot, hslot⟩ := List.length_eq_one_iff.1 hone
  rw [hslot, List.mem_singleton] at h31
  rw [hslot, h31]

/-- The seat of another bridge is the last slot of the newest bus, since no other is free. -/
theorem eq_of_seated {c : BusAllocator} {seat : Option Placement}
    (hfind : a.pciChain.find? (hasRoom a a.newest) = none) (hs : Seated .pciBridge a seat c) :
    seat = some ⟨chainBus m, .pci ⟨31, 0⟩⟩ ∧
      c = a.addClaim (chainBus m) (.pci ⟨31, 0⟩) (chainBus (m + 1)) := by
  cases seat with
  | none => cases hs.1
  | some p =>
    obtain ⟨-, ⟨n, slot, hn, hslot, rfl⟩, -, -, -, -, -, rfl⟩ := hs
    rw [h.chain.newest_eq] at hn ⊢
    rw [h.freeSlots_eq_of_find?_eq_none hfind hn] at hslot
    obtain rfl : 31 = slot := Option.some.inj hslot
    rw [Part.id_pciBridge h.chain.buses]
    exact ⟨rfl, rfl⟩

/-- The newest bus is full when a bridge has its last slot. -/
theorem filled_addClaim (hfind : a.pciChain.find? (hasRoom a a.newest) = none) {k : Nat}
    (hk : k ≤ m) :
    ∃ n, (a.addClaim (chainBus m) (.pci ⟨31, 0⟩) (chainBus (m + 1))).node? (chainBus k) = some n ∧
      n.freeSlots = [] ∧ n.owner? (.pci ⟨31, 0⟩) = some (chainBus (k + 1)) := by
  rw [node?_addClaim]
  obtain hlt | rfl := hk.lt_or_eq
  · obtain ⟨n, hn, hfilled⟩ := h.chain.filled k hlt
    have hother : chainBus k ≠ chainBus m := fun heq => hlt.ne (chainBus_inj heq)
    rw [hn, Option.map_some, if_neg hother]
    exact ⟨n, rfl, hfilled⟩
  · obtain ⟨n, hn, h31⟩ := h.chain.room
    have hnone : n.owner? (.pci ⟨31, 0⟩) = none := by
      by_contra hne
      have htaken := BusNode.slotTaken_of_owner?_ne_none hne
      rw [(BusNode.mem_freeSlots.1 h31).2] at htaken
      cases htaken
    rw [hn, Option.map_some, if_pos rfl]
    refine ⟨_, rfl, ?_, BusNode.owner?_claim_self hnone⟩
    rw [BusNode.freeSlots_claim, h.freeSlots_eq_of_find?_eq_none hfind hn]
    rfl

/-- Another bridge extends the chain by a bus with more than one free slot. -/
theorem inserted (hfind : a.pciChain.find? (hasRoom a a.newest) = none)
    (hdue : Part.Due a .pciBridge) (hi : Inserted .pciBridge a b) :
    b.Flat (m + 1) ∧ ∃ n, b.node? (chainBus (m + 1)) = some n ∧ 1 ∈ n.freeSlots := by
  have hhosts : b.Hosts :=
    h.hosts.insertions (S := Part.IsBridge) (.single ⟨.pciBridge, trivial, hdue, hi⟩)
  have hflat : b.family.isExpress = false := hi.family_eq.symm ▸ h.flat
  obtain ⟨seat, c, hs, rfl⟩ := hi
  have hnamed := (h.hosts.wired.seated hs).named
  have hcdue : Part.Due c .pciBridge := (hs.admitted (.inl hdue)).due nofun
  obtain ⟨rfl, hc⟩ := h.eq_of_seated hfind hs
  have hspared : c.Spared := hc ▸ h.spared
  have hchain : c.pciChain = (List.range (m + 1)).map chainBus := hc ▸ h.chain.buses
  have hbus := Part.node?_install_pciBridge hchain (some ⟨chainBus m, .pci ⟨31, 0⟩⟩) hnamed hcdue
  refine ⟨⟨hhosts, hflat, hspared, ?_, ?_, ?_, fun k hk => ?_, _, hbus, ?_⟩, _, hbus, ?_⟩
  · have hlength : c.pciChain.length = m + 1 := by simp [hchain]
    have := hcdue.2.2
    omega
  · exact Part.pciChain_install_pciBridge hchain
  · exact Part.controllers_install_pciBridge hchain (hc ▸ h.chain.controllers)
  · obtain ⟨n, hn, hfilled⟩ := h.filled_addClaim hfind (Nat.lt_succ_iff.1 hk)
    rw [← hc] at hn
    exact ⟨n, Part.node?_install_of_node? hn, hfilled⟩
  · exact BusNode.mem_freeSlots.2 ⟨rfl, rfl⟩
  · exact BusNode.mem_freeSlots.2 ⟨rfl, rfl⟩

/-- A bus with room is the newest one, and has another free slot than the last one. -/
theorem exists_slot_of_find? {bus : BusId}
    (hfind : a.pciChain.find? (hasRoom a a.newest) = some bus) :
    bus = chainBus m ∧ ∃ n, a.node? (chainBus m) = some n ∧ ∃ t ∈ n.freeSlots, t ≠ 31 := by
  obtain ⟨n, hn, hfree, hkeep⟩ := hasRoom_iff.1 (List.find?_some hfind)
  obtain ⟨k, hk, rfl⟩ := h.chain.mem_buses.1 (List.mem_of_find?_eq_some hfind)
  obtain hlt | rfl := hk.lt_or_eq
  · obtain ⟨n', hn', hfilled, -⟩ := h.chain.filled k hlt
    rw [Option.some.inj (hn.symm.trans hn')] at hfree
    exact absurd hfilled hfree
  · refine ⟨rfl, n, hn, ?_⟩
    by_contra! honly
    have hreplicate := List.eq_replicate_of_mem honly
    have hlength : n.freeSlots.length ≤ 1 := by
      have hnodup := n.nodup_freeSlots
      rwa [hreplicate, List.nodup_replicate] at hnodup
    have hpos := List.length_pos_of_ne_nil hfree
    exact hkeep ⟨h.chain.newest_eq.symm, by omega⟩

/-- A PCI device takes a slot of the newest bus other than the last one, or of another bus that is
put in for it. -/
theorem attached (ht : Attached a owner p b) : ∃ k, b.Flat k := by
  have hhosts := h.hosts.attached ht
  have hflat : b.family.isExpress = false ∧ b.Spared := by
    obtain ⟨_, _, _, _, _, rfl⟩ := ht.placed.eq_with
    exact ⟨h.flat, h.spared⟩
  have hnot : a.family.isExpress ≠ true := by
    rw [h.flat]
    exact Bool.false_ne_true
  cases ht with
  | root hx | bridged hx => exact absurd hx hnot
  | port hdue | bridge hdue => exact absurd hdue.1 hnot
  | flat _ hchained =>
    cases hchained with
    | chain hfind hnext =>
      obtain ⟨hbus, n, hn, t, ht, hlast⟩ := h.exists_slot_of_find? hfind
      exact ⟨m, hhosts, hflat.1, hflat.2, h.takesNext hnext hbus hn ht hlast⟩
    | extended hfind hdue hi hbus hnext =>
      obtain ⟨hc, n, hn, hone⟩ := h.inserted hfind hdue hi
      rw [Part.id_pciBridge h.chain.buses] at hbus
      exact ⟨m + 1, hhosts, hflat.1, hflat.2, hc.takesNext hnext hbus hn hone (by decide)⟩

theorem ne_chainBus_of_listed {request : BusRequest} {bus : BusId}
    (hbus : bus ∈ a.busesFor request) : ∀ k ≤ m, bus ≠ chainBus k := by
  rintro k hk rfl
  obtain ⟨n, hn, hpci, -⟩ := h.hosts.wired.chain _ (h.chain.mem_buses.2 ⟨k, hk, rfl⟩)
  obtain ⟨kind, hkind, hnot⟩ := exists_listedKind hbus
  have hne : n.bus.kind ≠ kind := by
    rintro rfl
    rw [hnot] at hpci
    cases hpci
  exact h.spared.ne_chainBus (h.hosts.wired.mem_usb_of_kind_ne hkind hbus hn hne) k rfl

/-- Every move keeps the chain as long as callers do not ask for places on PCI buses. -/
theorem move (hm : Move False (· ≠ "pci") a b) : ∃ k, b.Flat k := by
  have hhosts := h.hosts.move hm
  cases hm with
  | attached ht => exact h.attached ht
  | asked hasks => exact hasks.elim
  | claimed hlisted hg =>
    have hchain := h.chain.granted hg (h.ne_chainBus_of_listed hlisted)
    obtain ⟨_, -, -, -, -, rfl⟩ := hg
    exact ⟨m, hhosts, h.flat, h.spared, hchain⟩
  | installed hadm hpart hnamed hb =>
    subst hb
    have hflat := h.flat
    rw [← Part.family_install] at hflat
    refine ⟨m, hhosts, hflat, h.spared.install ?_, h.chain.install hpart _⟩
    intro id model ports ask husb
    obtain rfl | hid := hnamed id model ports ask husb
    · decide
    · exact hid

theorem moves (hm : Moves False (· ≠ "pci") a b) : ∃ k, b.Flat k := by
  induction hm with
  | refl => exact ⟨m, h⟩
  | tail _ hm ih =>
    obtain ⟨k, hk⟩ := ih
    exact hk.move hm

/-- There is no slot for a device exactly when the chain has its full length and only the last slot
of its newest bus is left. -/
theorem flatFull_iff :
    a.FlatFull ↔ m = 255 ∧ ∃ n, a.node? (chainBus m) = some n ∧ n.freeSlots = [31] := by
  have hlength : a.pciChain.length = m + 1 := by simp [h.chain.buses]
  have hle := h.chain.bridges_le
  obtain ⟨n, hn, h31⟩ := h.chain.room
  constructor
  · intro hfull
    obtain ⟨n', hn', hfull⟩ | ⟨hlong, -, n', hn', hone⟩ :=
      hfull _ (h.chain.mem_buses.2 ⟨m, le_rfl, rfl⟩)
    · obtain rfl : n = n' := Option.some.inj (hn.symm.trans hn')
      rw [(BusNode.full_iff_freeSlots (h.shape_eq le_rfl hn)).1 hfull] at h31
      cases h31
    · obtain rfl : n = n' := Option.some.inj (hn.symm.trans hn')
      obtain ⟨slot, hslot⟩ := List.length_eq_one_iff.1 hone
      rw [hslot, List.mem_singleton] at h31
      exact ⟨by omega, n, hn, by rw [hslot, h31]⟩
  · rintro ⟨rfl, n', hn', honly⟩ bus hbus
    obtain ⟨k, hk, rfl⟩ := h.chain.mem_buses.1 hbus
    obtain hlt | rfl := hk.lt_or_eq
    · obtain ⟨n'', hn'', hfilled, -⟩ := h.chain.filled k hlt
      exact .inl ⟨n'', hn'', (BusNode.full_iff_freeSlots (h.shape_eq hk hn'')).2 hfilled⟩
    · exact .inr ⟨by omega, h.chain.newest_eq.symm, n', hn', by rw [honly]; rfl⟩

end Flat

/-- A machine has an empty chain before any device is placed. -/
theorem Flat.start {family : MachineFamily} (hfamily : family = .i440fx ∨ family = .pseries)
    (machine : String) (config : AllocatorConfig) :
    (BusAllocator.start family machine config).Flat 0 := by
  have hp : family.hasPci = true := by obtain rfl | rfl := hfamily <;> rfl
  have hx : family.isExpress = false := by obtain rfl | rfl := hfamily <;> rfl
  refine ⟨.start hp machine config, hx, nofun, by decide, ?_, rfl, nofun, ?_⟩
  · obtain rfl | rfl := hfamily <;> rfl
  · obtain rfl | rfl := hfamily
    · exact ⟨_, rfl, by decide⟩
    · exact ⟨_, rfl, by decide⟩

end BusAllocator

/-- After any calls that do not ask for places on PCI buses, and of which none gives the id of the
root bus to a USB controller, all buses of the flat chain but the newest are full and lead to the
next one, and the newest keeps its last slot. A device is refused exactly when the chain has its
full length and no other slot is left, and then nothing was done. -/
theorem flatChain_run {family : MachineFamily} (hfamily : family = .i440fx ∨ family = .pseries)
    (machine : String) (config : AllocatorConfig) {calls : List BusCall}
    (hcalls : ∀ call ∈ calls, call.hint.IsPlain)
    (hids : ∀ model ports hint, .addUsb "pci" model ports hint ∉ calls) :
    let a := (start family machine config).afterAll calls
    ∃ bridges, a.FlatChain bridges ∧
      ∀ call : BusCall, call.pciKind? ≠ none → call.hint.IsPlain →
        ((∃ e b, outcome call.perform a = (.error e, b)) ↔
          bridges = 255 ∧ ∃ n, a.node? (chainBus bridges) = some n ∧ n.freeSlots = [31]) ∧
        ∀ e b, outcome call.perform a = (.error e, b) → b = a := by
  intro a
  have hstart := Flat.start hfamily machine config
  have hallowed : ∀ call ∈ calls, call.Allowed False (· ≠ "pci") := by
    intro call hcall
    cases call with
    | place owner request hint => exact .inr (hcalls _ hcall)
    | addUsb id model ports hint =>
      refine ⟨.inr (hcalls _ hcall), ?_⟩
      rintro rfl
      exact hids model ports hint hcall
  obtain ⟨m, h⟩ := hstart.moves (hstart.hosts.moves_afterAll hallowed)
  refine ⟨m, h.chain, fun call hkind hplain => ?_⟩
  obtain ⟨kind, hkind⟩ := Option.ne_none_iff_exists'.1 hkind
  have hfails := failsOn_perform h.hosts hkind hplain
  have hfull : a.PciFull kind ↔ a.FlatFull := by
    unfold PciFull
    rw [if_neg (by rw [h.flat]; exact Bool.false_ne_true)]
  exact ⟨hfails.error_iff.trans (hfull.trans h.flatFull_iff), fun e b he => (hfails.error he).2.1⟩

/-- The thirtieth device of an i440fx machine sits behind the first bridge, and there is room for
another one. -/
theorem flatChain_thirty :
    let config : AllocatorConfig := ⟨false, false, none, none⟩
    let calls := List.replicate 30 (BusCall.place "d" .virtio .empty)
    (∀ call ∈ calls, call.hint.IsPlain) ∧
      (∀ model ports hint, .addUsb "pci" model ports hint ∉ calls) ∧
      ((start .i440fx "pc" config).afterAll calls).FlatChain 1 ∧
      ¬∃ e b, outcome (BusCall.place "e" .virtio .empty).perform
        ((start .i440fx "pc" config).afterAll calls) = (.error e, b) := by
  intro config calls
  have hcalls : ∀ call ∈ calls, call.hint.IsPlain := by
    intro call hcall
    rw [List.eq_of_mem_replicate hcall]
    exact ⟨rfl, rfl⟩
  have hids : ∀ model ports hint, .addUsb "pci" model ports hint ∉ calls :=
    fun _ _ _ hmem => nomatch List.eq_of_mem_replicate hmem
  have hlength : ((start .i440fx "pc" config).afterAll calls).pciChain.length = 2 := by
    decide +kernel
  obtain ⟨m, h, hrefused⟩ := flatChain_run (.inl rfl) "pc" config hcalls hids
  obtain rfl : m = 1 := by
    rw [h.buses, List.length_map, List.length_range] at hlength
    omega
  refine ⟨hcalls, hids, h, fun hfails => ?_⟩
  have hlong := ((hrefused (.place "e" .virtio .empty) nofun ⟨rfl, rfl⟩).1.1 hfails).1
  omega

/-- A USB controller with the id of the root bus: USB devices go on the root bus and take all of its
slots, so that the next device is refused although the chain has no bridge. -/
theorem not_flatChain_of_usb_pci :
    let calls := .addUsb "pci" "qemu-xhci" 4 .empty ::
      List.replicate 29 (BusCall.place "t" (.usb none) .empty)
    let a := (start .i440fx "pc" ⟨false, false, none, none⟩).afterAll calls
    (∀ call ∈ calls, call.hint.IsPlain) ∧ a.pciChain = ["pci.0"] ∧
      (∀ bridges, ¬a.FlatChain bridges) ∧
      (outcome (place "d" .virtio .empty) a).1 = .error (exhausted "pci.0") := by
  intro calls a
  have hcalls : ∀ call ∈ calls, call.hint.IsPlain := by
    intro call hcall
    obtain rfl | hcall := List.mem_cons.1 hcall
    · exact ⟨rfl, rfl⟩
    · rw [List.eq_of_mem_replicate hcall]
      exact ⟨rfl, rfl⟩
  have hrun : a.pciChain = ["pci.0"] ∧ (a.node? "pci.0").map BusNode.freeSlots = some [] ∧
      (outcome (place "d" .virtio .empty) a).1 = .error (exhausted "pci.0") := by
    decide +kernel
  obtain ⟨hchain, hfull, hrefused⟩ := hrun
  refine ⟨hcalls, hchain, fun m h => ?_, hrefused⟩
  obtain rfl : m = 0 := by
    have hlength := congrArg List.length h.buses
    simp [hchain] at hlength
    omega
  obtain ⟨n, hn, h31⟩ := h.room
  change a.node? "pci.0" = some n at hn
  rw [hn, Option.map_some, Option.some.injEq] at hfull
  rw [hfull] at h31
  cases h31

end GuestSpec
