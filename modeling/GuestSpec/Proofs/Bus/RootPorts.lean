import GuestSpec.Proofs.Bus.Moves

/-!
# Root ports

On a machine with PCI Express the root ports are numbered in the order in which they were put in.
Each has a slot of the root complex to itself and a single device behind it, whatever callers ask
for: the device at function 0 stands in the way of every other claim. The PCIe-to-PCI bridge is put
in once.
-/

namespace GuestSpec

open Alloc BusAllocator

def rootPortAt (number : Nat) (slot : Fin 32) : Controller :=
  ⟨portBus number, "pcie-root-port", some ⟨"pcie.0", .pci ⟨slot, 0⟩⟩,
    .pcieRootPort (UInt8.ofNat (number + 1)) (UInt8.ofNat (number + 1)), [portBus number]⟩

def pcieBridgeAt (site : Placement) : Controller :=
  ⟨"pcie-pci-bridge-0", "pcie-pci-bridge", some site, .pciePciBridge, ["pcie-pci-bridge-0"]⟩

namespace ControllerKind

def isRootPort : ControllerKind → Bool
  | pcieRootPort .. => true
  | _ => false

def isPciePciBridge : ControllerKind → Bool
  | pciePciBridge => true
  | _ => false

end ControllerKind

namespace BusAllocator

/-- The root ports have certain slots of the root complex, and the first of them have a single
device. There is at most one PCIe-to-PCI bridge, behind a root port when there are any. -/
structure RootPorts (a : BusAllocator) (slots : List (Fin 32)) (served : Nat) : Prop where
  controllers : a.controllers.filter (·.kind.isRootPort) = slots.mapIdx rootPortAt
  own : ∀ k s, slots[k]? = some s → ∃ n, a.node? "pcie.0" = some n ∧
    n.taken.filter (BusNode.inSlot s ·.coordinate) = [⟨.pci ⟨s, 0⟩, portBus k⟩]
  single : ∀ k < served, ∃ n owner, a.node? (portBus k) = some n ∧
    n.taken = [⟨.pci ⟨0, 0⟩, owner⟩]
  bridge : ∃ site : Option Placement,
    a.controllers.filter (·.kind.isPciePciBridge) = site.toList.map pcieBridgeAt ∧
    (a.config.rootPorts = true → ∀ p ∈ site, ∃ k < slots.length, p = ⟨portBus k, .pci ⟨0, 0⟩⟩) ∧
    (a.pciePciBridge = none → site = none)

structure Ported (a : BusAllocator) (slots : List (Fin 32)) (served : Nat) : Prop where
  hosts : a.Hosts
  express : a.family.isExpress = true
  count : slots.length = a.rootPorts
  served_le : served ≤ slots.length
  ports : a.RootPorts slots served

end BusAllocator

/-! ## Slots that are taken as a whole -/

namespace BusNode

variable {n : BusNode} {c : Coordinate} {s : Fin 32} {owner : String}

/-- Who has function 0 of a slot stands in the way of every claim in the slot. -/
theorem inSlot_eq_false (howner : n.owner? (.pci ⟨s, 0⟩) ≠ none) (hholder : n.holder? c = none) :
    inSlot s c = false := by
  cases c with
  | pci addr =>
    have hfree := (holder?_eq_none_iff.1 hholder).2 addr rfl
    rw [inSlot, beq_eq_false_iff_ne]
    rintro rfl
    exact howner hfree
  | _ => rfl

theorem filter_inSlot_claim (h : inSlot s c = false) :
    (n.claim c owner).taken.filter (inSlot s ·.coordinate) =
      n.taken.filter (inSlot s ·.coordinate) := by
  simp [h]

theorem owner?_ne_none_of_filter {owner : String}
    (h : n.taken.filter (inSlot s ·.coordinate) = [⟨.pci ⟨s, 0⟩, owner⟩]) :
    n.owner? (.pci ⟨s, 0⟩) ≠ none := by
  intro hnone
  have hmem : (⟨.pci ⟨s, 0⟩, owner⟩ : Claim) ∈ n.taken :=
    List.mem_of_mem_filter (h ▸ List.mem_cons_self)
  exact owner?_eq_none_iff.1 hnone _ hmem rfl

end BusNode

theorem MachineFamily.rootBus_of_isExpress :
    ∀ family : MachineFamily, family.isExpress = true → family.rootBus = "pcie.0" := by
  decide

namespace BusAllocator

variable {a b : BusAllocator} {slots : List (Fin 32)} {served : Nat} {owner : String}
  {p : Placement} {n : BusNode}

/-- What adds no root port and no bridge, and claims nothing in the slots of root ports and on the
buses behind them, keeps all that is said of them. -/
theorem RootPorts.frame (h : a.RootPorts slots served)
    (hports : b.controllers.filter (·.kind.isRootPort) =
      a.controllers.filter (·.kind.isRootPort))
    (hbridges : b.controllers.filter (·.kind.isPciePciBridge) =
      a.controllers.filter (·.kind.isPciePciBridge))
    (hconfig : b.config = a.config) (hbridge : b.pciePciBridge = a.pciePciBridge)
    (hown : ∀ s n, a.node? "pcie.0" = some n → n.owner? (.pci ⟨s, 0⟩) ≠ none →
      ∃ m, b.node? "pcie.0" = some m ∧ m.taken.filter (BusNode.inSlot s ·.coordinate) =
        n.taken.filter (BusNode.inSlot s ·.coordinate))
    (hsingle : ∀ k < served, ∀ n, a.node? (portBus k) = some n → b.node? (portBus k) = some n) :
    b.RootPorts slots served where
  controllers := hports.trans h.controllers
  own k s hs := by
    obtain ⟨n, hn, hfilter⟩ := h.own k s hs
    obtain ⟨m, hm, hkept⟩ := hown s n hn (BusNode.owner?_ne_none_of_filter hfilter)
    exact ⟨m, hm, hkept.trans hfilter⟩
  single k hk := by
    obtain ⟨n, owner, hn, htaken⟩ := h.single k hk
    exact ⟨n, owner, hsingle k hk n hn, htaken⟩
  bridge := by
    rw [hbridges, hconfig, hbridge]
    exact h.bridge

section Install

variable {part : Part} {placement : Option Placement}

theorem RootPorts.own_install (h : a.RootPorts slots served) {k : Nat} {s : Fin 32}
    (hs : slots[k]? = some s) : ∃ n, (part.install a placement).node? "pcie.0" = some n ∧
      n.taken.filter (BusNode.inSlot s ·.coordinate) = [⟨.pci ⟨s, 0⟩, portBus k⟩] := by
  obtain ⟨n, hn, hfilter⟩ := h.own k s hs
  exact ⟨n, Part.node?_install_of_node? hn, hfilter⟩

theorem RootPorts.single_install (h : a.RootPorts slots served) {k : Nat} (hk : k < served) :
    ∃ n owner, (part.install a placement).node? (portBus k) = some n ∧
      n.taken = [⟨.pci ⟨0, 0⟩, owner⟩] := by
  obtain ⟨n, owner, hn, htaken⟩ := h.single k hk
  exact ⟨n, owner, Part.node?_install_of_node? hn, htaken⟩

end Install

theorem RootPorts.installPort (h : a.RootPorts slots served) (hcount : slots.length = a.rootPorts)
    {s : Fin 32} (hn : a.node? "pcie.0" = some n)
    (hown : n.taken.filter (BusNode.inSlot s ·.coordinate) =
      [⟨.pci ⟨s, 0⟩, portBus slots.length⟩]) :
    (Part.rootPort.install a (some ⟨"pcie.0", .pci ⟨s, 0⟩⟩)).RootPorts (slots ++ [s]) served where
  controllers := by
    have hport : Part.rootPort.controller a (some ⟨"pcie.0", .pci ⟨s, 0⟩⟩) =
        rootPortAt slots.length s := by
      rw [hcount]
      rfl
    rw [Part.controllers_install, List.filter_append, h.controllers, hport, List.mapIdx_concat]
    rfl
  own k t ht := by
    obtain hlt | hle := lt_or_ge k slots.length
    · rw [List.getElem?_append_left hlt] at ht
      exact h.own_install ht
    · rw [List.getElem?_append_right hle, List.getElem?_singleton] at ht
      split at ht
      · obtain rfl := Option.some.inj ht
        obtain rfl : k = slots.length := by omega
        exact ⟨n, Part.node?_install_of_node? hn, hown⟩
      · cases ht
  single k hk := h.single_install hk
  bridge := by
    obtain ⟨site, hsite, hbehind, hnone⟩ := h.bridge
    refine ⟨site, ?_, fun hr p hp => ?_, hnone⟩
    · rw [Part.filter_controllers_install rfl, hsite]
    · obtain ⟨k, hk, rfl⟩ := hbehind hr p hp
      refine ⟨k, ?_, rfl⟩
      rw [List.length_append]
      exact Nat.lt_add_right _ hk

theorem RootPorts.installBridge (h : a.RootPorts slots served) (hnone : a.pciePciBridge = none)
    (hbehind : a.config.rootPorts = true → ∃ k < slots.length, p = ⟨portBus k, .pci ⟨0, 0⟩⟩) :
    (Part.pcieBridge.install a (some p)).RootPorts slots served where
  controllers := (Part.filter_controllers_install rfl).trans h.controllers
  own k s hs := h.own_install hs
  single k hk := h.single_install hk
  bridge := by
    obtain ⟨site, hsite, -, hsome⟩ := h.bridge
    rw [hsome hnone] at hsite
    refine ⟨some p, ?_, ?_, nofun⟩
    · rw [Part.controllers_install, List.filter_append, hsite]
      rfl
    · rintro hr _ ⟨⟩
      exact hbehind hr

namespace Ported

variable (h : a.Ported slots served)

include h

theorem rootBus_eq : a.family.rootBus = "pcie.0" :=
  a.family.rootBus_of_isExpress h.express

theorem portBus_shape {k : Nat} (hk : k < slots.length) (hn : a.node? (portBus k) = some n) :
    n.shape = .pci 1 := by
  obtain ⟨n', hn', -, hshape⟩ := h.hosts.wired.ports k (h.count ▸ hk)
  rw [Option.some.inj (hn.symm.trans hn')]
  exact hshape

theorem ne_portBus {ask : Option Placement} (hg : Granted ask a owner p b) {k : Nat}
    (hk : k < served) : p.bus ≠ portBus k := by
  intro hbus
  obtain ⟨n, hn, hcontains, hholder, -⟩ := hg
  obtain ⟨n', holder, hn', htaken⟩ := h.ports.single k hk
  rw [← hbus] at hn'
  obtain rfl : n = n' := Option.some.inj (hn.symm.trans hn')
  have hshape := h.portBus_shape (hk.trans_le h.served_le) (hbus ▸ hn)
  have howner : n.owner? (.pci ⟨0, 0⟩) ≠ none := by
    rw [BusNode.owner?, htaken]
    simp
  have hslot := BusNode.inSlot_eq_false howner hholder
  rw [hshape] at hcontains
  cases hc : p.coordinate with
  | pci addr =>
    have hzero : addr.slot = 0 := by simpa [hc, Shape.contains] using hcontains
    rw [hc, BusNode.inSlot, hzero] at hslot
    cases hslot
  | _ =>
    rw [hc] at hcontains
    cases hcontains

theorem granted {ask : Option Placement} (hg : Granted ask a owner p b) :
    b.Ported slots served := by
  have hhosts := h.hosts.granted hg
  have hports := fun k (hk : k < served) => h.ne_portBus hg hk
  obtain ⟨n, hn, -, hholder, -, rfl⟩ := hg
  refine ⟨hhosts, h.express, h.count, h.served_le,
    h.ports.frame rfl rfl rfl rfl (fun s m hm howner => ?_) fun k hk m hm => ?_⟩
  · rw [node?_addClaim, hm, Option.map_some]
    refine ⟨_, rfl, ?_⟩
    split
    · rename_i hbus
      obtain rfl : n = m := Option.some.inj (hn.symm.trans (hbus ▸ hm))
      exact BusNode.filter_inSlot_claim (BusNode.inSlot_eq_false howner hholder)
    · rfl
  · rw [node?_addClaim, hm, Option.map_some, if_neg (hports k hk).symm]

theorem install {part : Part} (hadm : part.Admitted a) (hpart : ¬part.IsBridge)
    (placement : Option Placement) : (part.install a placement).Ported slots served := by
  obtain ⟨-, hcount, hbridge⟩ := Part.noted_of_not_isBridge a placement hpart
  have hkinds : (part.kind a).isRootPort = false ∧ (part.kind a).isPciePciBridge = false := by
    cases part <;> first | exact ⟨rfl, rfl⟩ | exact absurd trivial hpart
  refine ⟨h.hosts.install hadm hpart placement, ?_, h.count.trans hcount.symm, h.served_le,
    h.ports.frame (Part.filter_controllers_install hkinds.1)
      (Part.filter_controllers_install hkinds.2) part.config_install hbridge
      (fun s n hn _ => ⟨n, Part.node?_install_of_node? hn, rfl⟩)
      fun k _ n hn => Part.node?_install_of_node? hn⟩
  rw [Part.family_install]
  exact h.express

theorem exists_slot_of_takesNext (hnext : TakesNext a owner p b)
    (hbus : p.bus = a.family.rootBus) :
    ∃ s n, p = ⟨"pcie.0", .pci ⟨s, 0⟩⟩ ∧ b.node? "pcie.0" = some n ∧
      n.taken.filter (BusNode.inSlot s ·.coordinate) = [⟨.pci ⟨s, 0⟩, owner⟩] := by
  obtain ⟨n, hn, hfirst⟩ := hnext.first
  obtain ⟨n', hn', hshape⟩ := h.hosts.wired.exists_root h.hosts.hasPci
  rw [← hbus] at hn'
  obtain rfl : n = n' := Option.some.inj (hn.symm.trans hn')
  obtain ⟨s, hfree, hcoordinate, -⟩ := BusNode.exists_slot_of_firstFree? hshape hfirst
  have hnone : n.taken.filter (BusNode.inSlot s ·.coordinate) = [] := by
    rw [List.filter_eq_nil_iff]
    simpa [BusNode.slotTaken] using (BusNode.mem_freeSlots.1 hfree).2
  obtain ⟨-, -, -, -, -, rfl⟩ := hnext.granted
  rw [h.rootBus_eq] at hbus
  rw [hbus] at hn ⊢
  rw [hcoordinate]
  refine ⟨s, n.claim (.pci ⟨s, 0⟩) owner, ?_, ?_, ?_⟩
  · rw [← hbus, ← hcoordinate]
  · rw [node?_addClaim, hn, Option.map_some, if_pos rfl]
  · rw [BusNode.taken_claim, List.filter_append, hnone]
    simp [BusNode.inSlot]

theorem portInserted (hdue : Part.Due a .rootPort) (hi : PortInserted a b) :
    ∃ s, b.Ported (slots ++ [s]) served ∧
      ∃ n, b.node? (portBus slots.length) = some n ∧ n.taken = [] := by
  have hhosts : b.Hosts :=
    h.hosts.insertions (S := Part.IsBridge) (.single ⟨.rootPort, trivial, hdue, hi.inserted⟩)
  obtain ⟨m, hm, hnode, -⟩ := hi.inserted.exists_room h.hosts.wired hdue trivial
  obtain rfl := List.mem_singleton.1 hm
  obtain ⟨p, c, hbus, hnext, rfl⟩ := hi
  have hc := h.granted hnext.granted
  obtain ⟨s, n, rfl, hn, hown⟩ := h.exists_slot_of_takesNext hnext hbus
  rw [h.count]
  rw [← h.count] at hown
  refine ⟨s, ⟨hhosts, hc.express, ?_, ?_, hc.ports.installPort hc.count hn hown⟩, _, hnode, rfl⟩
  · rw [List.length_append, hc.count]
    rfl
  · rw [List.length_append]
    exact Nat.le_add_right_of_le h.served_le

theorem serve (hnext : TakesNext a owner p b) (hbus : p.bus = portBus served)
    (hserved : served < slots.length) (hn : a.node? (portBus served) = some n)
    (hempty : n.taken = []) :
    b.Ported slots (served + 1) ∧ p.coordinate = .pci ⟨0, 0⟩ := by
  have hb := h.granted hnext.granted
  obtain ⟨n', hn', hfirst⟩ := hnext.first
  rw [hbus] at hn'
  obtain rfl : n = n' := Option.some.inj (hn.symm.trans hn')
  have hshape := h.portBus_shape hserved hn
  obtain ⟨s, hfree, hcoordinate, -⟩ := BusNode.exists_slot_of_firstFree? hshape hfirst
  have hzero : s = 0 := by
    have hcontains := (BusNode.mem_freeSlots.1 hfree).1
    simpa [hshape, Shape.contains] using hcontains
  rw [hzero] at hcoordinate
  obtain ⟨-, -, -, -, -, rfl⟩ := hnext.granted
  refine ⟨⟨hb.hosts, hb.express, hb.count, hserved, hb.ports.controllers, hb.ports.own,
    fun k hk => ?_, hb.ports.bridge⟩, hcoordinate⟩
  obtain hlt | rfl := Nat.lt_succ_iff_lt_or_eq.1 hk
  · exact hb.ports.single k hlt
  · refine ⟨n.claim p.coordinate owner, owner, ?_, ?_⟩
    · rw [node?_addClaim, hn, Option.map_some, if_pos hbus.symm]
    · rw [BusNode.taken_claim, hempty, hcoordinate]
      rfl

end Ported

theorem Ported.portServed {c : BusAllocator} (h : a.Ported slots slots.length)
    (hdue : Part.Due a .rootPort) (hi : PortInserted a c) (hbus : p.bus = portBus a.rootPorts)
    (hnext : TakesNext c owner p b) :
    ∃ s, b.Ported (slots ++ [s]) (slots ++ [s]).length ∧
      p = ⟨portBus slots.length, .pci ⟨0, 0⟩⟩ := by
  obtain ⟨s, hc, n, hn, hempty⟩ := h.portInserted hdue hi
  rw [← h.count] at hbus
  have hlength : (slots ++ [s]).length = slots.length + 1 := List.length_append
  obtain ⟨hb, hcoordinate⟩ := hc.serve hnext hbus (by omega) hn hempty
  refine ⟨s, hlength ▸ hb, ?_⟩
  rw [← hbus, ← hcoordinate]

theorem Ported.bridgeInserted {bus : BusId} (h : a.Ported slots slots.length)
    (hdue : Part.Due a .pcieBridge) (hi : BridgeInserted a bus b) :
    ∃ more, b.Ported more more.length := by
  have hhosts : b.Hosts := h.hosts.insertions (hi.insertions hdue)
  obtain ⟨rfl, c, p, d, hsite, hnext, rfl⟩ := hi
  have hd : d.config = a.config ∧ d.pciePciBridge = none := by
    obtain ⟨_, _, _, rfl⟩ := hsite.eq_with
    obtain ⟨-, -, -, -, -, rfl⟩ := hnext.granted
    exact ⟨rfl, hdue.2.2⟩
  have hseat : ∃ more, d.Ported more more.length ∧ (d.config.rootPorts = true →
      ∃ k < more.length, p = ⟨portBus k, .pci ⟨0, 0⟩⟩) := by
    rw [hd.1]
    unfold BridgeSite at hsite
    split at hsite
    · rename_i hr
      obtain ⟨s, hb, hp⟩ := h.portServed ⟨hdue.1, hr⟩ hsite.2 hsite.1 hnext
      exact ⟨slots ++ [s], hb, fun _ => ⟨slots.length, by simp, hp⟩⟩
    · rename_i hr
      obtain ⟨-, rfl⟩ := hsite
      exact ⟨slots, h.granted hnext.granted, fun hr' => absurd hr' hr⟩
  obtain ⟨more, hmore, hbehind⟩ := hseat
  exact ⟨more, hhosts, hmore.express, hmore.count, le_rfl,
    hmore.ports.installBridge hd.2 hbehind⟩

theorem Ported.attached (h : a.Ported slots slots.length) (ht : Attached a owner p b) :
    ∃ more, b.Ported more more.length := by
  cases ht with
  | root _ _ hnext | bridged _ _ hnext => exact ⟨slots, h.granted hnext.granted⟩
  | port hdue hi hbus hnext =>
    obtain ⟨s, hb, -⟩ := h.portServed hdue hi hbus hnext
    exact ⟨_, hb⟩
  | bridge hdue hi hnext =>
    obtain ⟨more, hc⟩ := h.bridgeInserted hdue hi
    exact ⟨more, hc.granted hnext.granted⟩
  | flat hx =>
    rw [h.express] at hx
    cases hx

/-- Every move keeps the root ports in order, wherever callers ask to be placed. -/
theorem Ported.move {asks : Prop} {named : String → Prop} (h : a.Ported slots slots.length)
    (hm : Move asks named a b) : ∃ more, b.Ported more more.length := by
  cases hm with
  | attached ht => exact h.attached ht
  | asked _ hg | claimed _ hg => exact ⟨slots, h.granted hg⟩
  | installed hadm hpart _ hb => exact ⟨slots, hb ▸ h.install hadm hpart _⟩

theorem Ported.moves {asks : Prop} {named : String → Prop} (h : a.Ported slots slots.length)
    (hm : Moves asks named a b) : ∃ more, b.Ported more more.length := by
  induction hm with
  | refl => exact ⟨slots, h⟩
  | tail _ hm ih =>
    obtain ⟨more, hmore⟩ := ih
    exact hmore.move hm

/-- A machine has no root ports before any device is placed. -/
theorem Ported.start {family : MachineFamily} (hx : family.isExpress = true) (machine : String)
    (config : AllocatorConfig) : (BusAllocator.start family machine config).Ported [] 0 := by
  have hp : ∀ family : MachineFamily, family.isExpress = true → family.hasPci = true := by decide
  exact ⟨.start (hp family hx) machine config, hx, rfl, le_rfl, rfl, nofun, nofun, none, rfl, nofun,
    fun _ => rfl⟩

end BusAllocator

/-- There is no slot for an express device exactly when the root complex has none. -/
theorem BusAllocator.Hosts.pciFull_express_iff {a : BusAllocator} (h : a.Hosts)
    (hx : a.family.isExpress = true) :
    a.PciFull .express ↔ ∃ n, a.node? "pcie.0" = some n ∧ n.freeSlots = [] := by
  unfold PciFull
  rw [if_pos hx]
  change a.FullAt a.family.rootBus ↔ _
  obtain ⟨n, hn, hshape⟩ := h.wired.exists_root h.hasPci
  rw [fullAt_iff hn, BusNode.full_iff_freeSlots hshape]
  rw [a.family.rootBus_of_isExpress hx] at hn
  simp [hn]

/-- After any calls, failing ones included, the root ports are numbered in order, each has a slot of
the root complex to itself and a single device behind it, and there is at most one PCIe-to-PCI
bridge, behind a root port when there are any. An express device whose hint says nothing about PCI
buses is refused exactly when the root complex has no free slot, and then nothing was done. -/
theorem rootPorts_run {family : MachineFamily} (hfamily : family = .q35 ∨ family = .armVirt false)
    (machine : String) (config : AllocatorConfig) (calls : List BusCall) :
    let a := (start family machine config).afterAll calls
    (∃ slots, slots.length ≤ 32 ∧ a.RootPorts slots slots.length) ∧
      ∀ call : BusCall, call.pciKind? = some .express → call.hint.IsPlain →
        ((∃ e b, outcome call.perform a = (.error e, b)) ↔
          ∃ n, a.node? "pcie.0" = some n ∧ n.freeSlots = []) ∧
        ∀ e b, outcome call.perform a = (.error e, b) → b = a := by
  intro a
  have hx : family.isExpress = true := by obtain rfl | rfl := hfamily <;> rfl
  have hstart := Ported.start hx machine config
  have hallowed : ∀ call ∈ calls, call.Allowed True fun _ => True := by
    intro call _
    cases call with
    | place owner request hint => exact .inl trivial
    | addUsb id model ports hint => exact ⟨.inl trivial, trivial⟩
  obtain ⟨slots, h⟩ := hstart.moves (hstart.hosts.moves_afterAll hallowed)
  refine ⟨⟨slots, h.count ▸ h.hosts.grounded.rootPorts_le, h.ports⟩, fun call hkind hplain => ?_⟩
  have hfails := failsOn_perform h.hosts hkind hplain
  exact ⟨hfails.error_iff.trans (h.hosts.pciFull_express_iff h.express),
    fun e b he => (hfails.error he).2.1⟩

/-- An express device, and a conventional one with the bridge, have a root port each, and there is
one for another device. -/
theorem rootPorts_two :
    let calls := [BusCall.place "d" .virtio .empty, .place "c" (.pci .conventional) .empty]
    let a := (start .q35 "q35" ⟨true, true, none, none⟩).afterAll calls
    (∃ slots, slots.length = 2 ∧ a.RootPorts slots 2) ∧
      ¬∃ e b, outcome (BusCall.place "e" .virtio .empty).perform a = (.error e, b) := by
  intro calls a
  have hrun : (a.controllers.filter (·.kind.isRootPort)).length = 2 ∧
      (a.node? "pcie.0").map BusNode.freeSlots ≠ some [] := by
    decide +kernel
  obtain ⟨hcount, hfree⟩ := hrun
  obtain ⟨⟨slots, -, h⟩, hrefused⟩ :=
    rootPorts_run (.inl rfl) "q35" ⟨true, true, none, none⟩ calls
  have hlength : slots.length = 2 := by
    rwa [h.controllers, List.length_mapIdx] at hcount
  refine ⟨⟨slots, hlength, hlength ▸ h⟩, fun hfails => hfree ?_⟩
  obtain ⟨n, hn, hfull⟩ := (hrefused (.place "e" .virtio .empty) rfl ⟨rfl, rfl⟩).1.1 hfails
  rw [hn, Option.map_some, hfull]

end GuestSpec
