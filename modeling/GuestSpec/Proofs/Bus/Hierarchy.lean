import GuestSpec.Proofs.Bus.Room
import GuestSpec.Proofs.Bus.Wiring

/-!
# Room in the PCI hierarchy

A PCI device without coordinates goes on the root bus, behind a root port of its own, behind the
PCIe-to-PCI bridge, or on the flat chain, and the allocator extends the hierarchy for it where this
is needed. It is refused exactly when the bus that has to give a slot is full. Then nothing was
done: whatever is put in on the way has room for what comes next.
-/

namespace GuestSpec

open Alloc BusAllocator

def PlacementHint.IsPlain (hint : PlacementHint) : Prop :=
  hint.pciBus = none ∧ hint.pciAddr = none

namespace BusAllocator

def FullAt (a : BusAllocator) (id : BusId) : Prop := ∃ n, a.node? id = some n ∧ n.Full

/-- Whether no bus of the flat chain has a slot for a device. When the chain has its full length, no
bridge can be put in the one slot that its newest bus keeps. -/
def FlatFull (a : BusAllocator) : Prop :=
  ∀ id ∈ a.pciChain, a.FullAt id ∨
    256 ≤ a.pciChain.length ∧ id = a.newest ∧ ∃ n, a.node? id = some n ∧ n.freeSlots.length = 1

/-- The bus of a PCI Express machine that gives a slot for a device. Whatever is put in for the
device takes this slot in its place. -/
def hostBus (a : BusAllocator) : PciKind → BusId
  | .conventional =>
    if a.config.pciePciBridge then a.pciePciBridge.getD a.family.rootBus else a.family.rootBus
  | .express | .integrated => a.family.rootBus

def PciFull (a : BusAllocator) (kind : PciKind) : Prop :=
  if a.family.isExpress then a.FullAt (a.hostBus kind) else a.FlatFull

variable {a : BusAllocator} {id : BusId} {n : BusNode}

theorem fullAt_iff (hn : a.node? id = some n) : a.FullAt id ↔ n.Full := by
  refine ⟨fun ⟨m, hm, hfull⟩ => ?_, fun hfull => ⟨n, hn, hfull⟩⟩
  rwa [Option.some.inj (hn.symm.trans hm)]

theorem Wired.exists_root (h : a.Wired) (hp : a.family.hasPci = true) :
    ∃ n, a.node? a.family.rootBus = some n ∧ n.shape = .pciBus := by
  obtain ⟨n, hn, -, hshape⟩ := h.root
  exact ⟨n, hn, hshape hp⟩

end BusAllocator

/-! ## Operations that fail for want of room -/

namespace Alloc

section Rules

variable {α β : Type} {x : Alloc α} {f : α → Alloc β} {a : BusAllocator} {P P' : Prop}
  {Q : α → BusAllocator → Prop} {R : β → BusAllocator → Prop}

theorem Ensures.bind_ok {v : α} {b : BusAllocator} {E : CompileError → BusAllocator → Prop}
    (hx : outcome x a = (.ok v, b)) (hf : Ensures (f v) b R E) : Ensures (x >>= f) a R E := by
  unfold Ensures
  rw [outcome_bind, hx]
  exact hf

theorem Ensures.bind_congr {y : Alloc α} {E : CompileError → BusAllocator → Prop}
    (hx : outcome x a = outcome y a) (hf : Ensures (y >>= f) a R E) : Ensures (x >>= f) a R E := by
  unfold Ensures at hf ⊢
  rw [outcome_bind, hx, ← outcome_bind]
  exact hf

/-- An operation that fails exactly under a condition, for want of a coordinate, and then has
changed nothing. -/
abbrev FailsOn (x : Alloc α) (a : BusAllocator) (P : Prop) (Q : α → BusAllocator → Prop) : Prop :=
  Ensures x a (fun v b => ¬P ∧ Q v b) (fun e b => P ∧ b = a ∧ ∃ bus, e = exhausted bus)

abbrev Succeeds (x : Alloc α) (a : BusAllocator) (Q : α → BusAllocator → Prop) : Prop :=
  Ensures x a Q fun _ _ => False

/-- What cannot fail after the first operation leaves the condition as it is. -/
theorem FailsOn.bind (hx : FailsOn x a P Q) (hf : ∀ v b, Q v b → Succeeds (f v) b R) :
    FailsOn (x >>= f) a P R :=
  Ensures.bind hx fun v b h => (hf v b h.2).mono (fun _ _ hr => ⟨h.1, hr⟩) fun _ _ h => h.elim

theorem FailsOn.congr (hx : FailsOn x a P Q) (hP : P ↔ P') : FailsOn x a P' Q :=
  hx.mono (fun _ _ h => ⟨mt hP.2 h.1, h.2⟩) fun _ _ h => ⟨hP.1 h.1, h.2⟩

theorem FailsOn.imp {Q' : α → BusAllocator → Prop} (hx : FailsOn x a P Q)
    (hQ : ∀ v b, Q v b → Q' v b) : FailsOn x a P Q' :=
  hx.mono (fun v b h => ⟨h.1, hQ v b h.2⟩) fun _ _ h => h

theorem FailsOn.succeeds (hx : FailsOn x a P Q) (hP : ¬P) : Succeeds x a Q :=
  hx.mono (fun _ _ h => h.2) fun _ _ h => hP h.1

theorem FailsOn.error_iff (hx : FailsOn x a P Q) :
    (∃ e b, outcome x a = (.error e, b)) ↔ P := by
  constructor
  · rintro ⟨e, b, h⟩
    exact (hx.error h).1
  · intro hP
    cases h : outcome x a with
    | mk r b =>
      cases r with
      | ok v => exact absurd hP (hx.ok h).1
      | error e => exact ⟨e, b, rfl⟩

end Rules

variable {a b : BusAllocator} {part : Part} {bus : BusId} {n : BusNode}

structure TakesNext (a : BusAllocator) (owner : String) (p : Placement) (b : BusAllocator) :
    Prop where
  granted : Granted none a owner p b
  first : ∃ n, a.node? p.bus = some n ∧ n.firstFree? = some p.coordinate

theorem succeeds_claim {c : Coordinate} (owner : String) (hn : a.node? bus = some n)
    (hcontains : n.shape.contains c = true) (hfree : n.isFree c = true) :
    Succeeds (claim owner bus c) a fun p b => p = ⟨bus, c⟩ ∧ Granted none a owner p b := by
  have hholder := BusNode.holder?_eq_none_of_isFree hfree
  unfold Succeeds Ensures
  rw [outcome_claim, hn]
  simp only [hcontains, hholder, if_true]
  exact ⟨trivial, n, hn, hcontains, hholder, .inl hfree, rfl⟩

theorem failsOn_claimNext (owner : String) (hn : a.node? bus = some n) :
    FailsOn (claimNext owner bus) a n.Full fun p b => p.bus = bus ∧ TakesNext a owner p b := by
  apply ensures_get_bind
  rw [hn]
  dsimp only
  cases hc : n.firstFree? with
  | none => exact ensures_throw ⟨BusNode.firstFree?_eq_none_iff.1 hc, rfl, bus, rfl⟩
  | some c =>
    have hroom : ¬n.Full := by
      rw [← BusNode.firstFree?_eq_none_iff, hc]
      exact nofun
    refine (succeeds_claim owner hn (BusNode.contains_of_firstFree? hc)
      (BusNode.isFree_of_firstFree? hc)).mono ?_ fun _ _ h => h.elim
    rintro p b ⟨rfl, hg⟩
    exact ⟨hroom, rfl, hg, n, hn, hc⟩

theorem succeeds_claimNext (owner : String) (hn : a.node? bus = some n) (hroom : ¬n.Full) :
    Succeeds (claimNext owner bus) a fun p b => p.bus = bus ∧ TakesNext a owner p b :=
  (failsOn_claimNext owner hn).succeeds hroom

end Alloc

/-! ## Bridges -/

section Bridges

variable {a b : BusAllocator} {part : Part} {n : BusNode}

theorem Part.not_full_of_isBridge (hpart : part.IsBridge) (hn : n ∈ part.nodes a) : ¬n.Full := by
  intro hfull
  cases part with
  | rootPort =>
    obtain rfl := List.mem_singleton.1 hn
    exact BusNode.not_full_of_taken_nil (c := .pci ⟨0, 0⟩) rfl rfl hfull
  | pcieBridge | pciBridge =>
    obtain rfl := List.mem_singleton.1 hn
    obtain ⟨d, hd, hwhole⟩ := hfull (.pci ⟨1, 0⟩) rfl
    obtain rfl := List.mem_singleton.1 hd
    cases hwhole
  | _ => exact hpart

theorem Part.exists_mem_nodes (hpart : part.IsBridge) : ∃ n, n ∈ part.nodes a := by
  cases part with
  | rootPort | pcieBridge | pciBridge => exact ⟨_, List.mem_cons_self⟩
  | _ => exact hpart.elim

theorem Inserted.exists_room (h : a.Wired) (hdue : part.Due a) (hpart : part.IsBridge)
    (hi : Inserted part a b) : ∃ n ∈ part.nodes a, b.node? (part.id a) = some n ∧ ¬n.Full := by
  obtain ⟨placement, c, hs, rfl⟩ := hi
  have hduec : part.Due c :=
    (hs.admitted (.inl hdue)).due (by rintro _ _ _ _ rfl; exact hpart)
  obtain ⟨n, hn⟩ := Part.exists_mem_nodes (a := c) hpart
  have hnode : (part.install c placement).node? (part.id c) = some n :=
    Part.node?_install_bridge (h.seated hs).named hduec hpart hn
  have hid : part.id c = part.id a := by
    rw [hs.eq_with]
    cases part <;> rfl
  have hnodes : part.nodes c = part.nodes a := by
    rw [hs.eq_with]
    cases part <;> rfl
  rw [hid] at hnode
  rw [hnodes] at hn
  exact ⟨n, hn, hnode, Part.not_full_of_isBridge hpart hn⟩

namespace Alloc

def PortInserted (a b : BusAllocator) : Prop :=
  ∃ p c, p.bus = a.family.rootBus ∧ TakesNext a (portBus a.rootPorts) p c ∧
    b = Part.rootPort.install c (some p)

theorem PortInserted.inserted (h : PortInserted a b) : Inserted .rootPort a b := by
  obtain ⟨p, c, hbus, hnext, rfl⟩ := h
  exact ⟨some p, c, ⟨nofun, hbus, hnext.granted⟩, rfl⟩

theorem failsOn_addRootPort (ha : a.Grounded) (hn : a.node? a.family.rootBus = some n) :
    FailsOn addRootPort a n.Full fun bus b => bus = portBus a.rootPorts ∧ PortInserted a b := by
  have hports := ha.rootPorts_le
  apply ensures_get_bind
  refine (failsOn_claimNext _ hn).bind ?_
  rintro p b ⟨hbus, hnext⟩
  dsimp only
  rw [if_neg (by omega)]
  have hinsert : PortInserted a (Part.rootPort.install b (some p)) := ⟨p, b, hbus, hnext, rfl⟩
  obtain ⟨_, -, -, -, -, rfl⟩ := hnext.granted
  exact ensures_modify_bind (ensures_modify_bind (ensures_pure ⟨rfl, hinsert⟩))

/-- Where the PCIe-to-PCI bridge is put: behind a root port of its own when there are root ports. -/
def BridgeSite (a : BusAllocator) (parent : BusId) (b : BusAllocator) : Prop :=
  if a.config.rootPorts then parent = portBus a.rootPorts ∧ PortInserted a b
  else parent = a.family.rootBus ∧ b = a

def BridgeInserted (a : BusAllocator) (bus : BusId) (b : BusAllocator) : Prop :=
  bus = Part.pcieBridge.id a ∧ ∃ c p d, BridgeSite a p.bus c ∧ TakesNext c bus p d ∧
    b = Part.pcieBridge.install d (some p)

theorem failsOn_bridgeSite (h : a.Wired) (ha : a.Grounded) (hx : a.family.isExpress = true)
    (hn : a.node? a.family.rootBus = some n) {f : BusId → Alloc BusId}
    {R : BusId → BusAllocator → Prop}
    (hf : ∀ parent b m, BridgeSite a parent b → b.node? parent = some m →
      FailsOn (f parent) b m.Full R) :
    FailsOn (if a.config.rootPorts then addRootPort >>= f else pure a.family.rootBus >>= f) a
      n.Full R := by
  unfold BridgeSite at hf
  split
  · rename_i hr
    simp only [if_pos hr] at hf
    refine (failsOn_addRootPort ha hn).bind ?_
    rintro bus b ⟨rfl, hi⟩
    have hdue : Part.Due a .rootPort := ⟨hx, hr⟩
    obtain ⟨m, -, hm, hroom⟩ := hi.inserted.exists_room h hdue trivial
    exact (hf _ b m ⟨rfl, hi⟩ hm).succeeds hroom
  · rename_i hr
    simp only [if_neg hr] at hf
    exact hf _ a n ⟨rfl, rfl⟩ hn

theorem BridgeSite.wired {parent : BusId} (h : a.Wired) (hx : a.family.isExpress = true)
    (hs : BridgeSite a parent b) : b.Wired := by
  unfold BridgeSite at hs
  split at hs
  · rename_i hr
    have hdue : Part.Due a .rootPort := ⟨hx, hr⟩
    exact h.inserted (.inl hdue) hs.2.inserted
  · rw [hs.2]
    exact h

theorem BridgeSite.eq_with {parent : BusId} (hs : BridgeSite a parent b) :
    ∃ buses controllers rootPorts, b = { a with buses, controllers, rootPorts } := by
  unfold BridgeSite at hs
  split at hs
  · obtain ⟨-, p, c, -, hnext, rfl⟩ := hs
    obtain ⟨_, -, -, -, -, rfl⟩ := hnext.granted
    exact ⟨_, _, _, rfl⟩
  · exact ⟨_, _, _, hs.2⟩

theorem failsOn_pciePciBridge (h : a.Wired) (ha : a.Grounded) (hx : a.family.isExpress = true)
    (hb : a.pciePciBridge = none) (hn : a.node? a.family.rootBus = some n) :
    FailsOn pciePciBridge a n.Full (BridgeInserted a) := by
  apply ensures_get_bind
  rw [hb]
  dsimp only
  refine failsOn_bridgeSite h ha hx hn fun parent b m hs hm => (failsOn_claimNext _ hm).bind ?_
  rintro p c ⟨rfl, hnext⟩
  exact ensures_modify_bind (ensures_modify_bind (ensures_pure ⟨rfl, b, p, c, hs, hnext, rfl⟩))

theorem BridgeInserted.exists_install {bus : BusId} (h : a.Wired) (hdue : Part.Due a .pcieBridge)
    (hi : BridgeInserted a bus b) : ∃ c placement, c.Wired ∧ Part.Due c .pcieBridge ∧
      bus = Part.pcieBridge.id c ∧ b = Part.pcieBridge.install c placement := by
  obtain ⟨rfl, c, p, d, hs, hnext, rfl⟩ := hi
  refine ⟨d, some p, (hs.wired h hdue.1).granted hnext.granted, ?_, rfl, rfl⟩
  obtain ⟨_, -, -, -, -, rfl⟩ := hnext.granted
  obtain ⟨_, _, _, rfl⟩ := hs.eq_with
  exact hdue

theorem BridgeInserted.wired {bus : BusId} (h : a.Wired) (hdue : Part.Due a .pcieBridge)
    (hi : BridgeInserted a bus b) : b.Wired ∧ b.pciePciBridge = some bus := by
  obtain ⟨c, placement, hc, hcdue, rfl, rfl⟩ := hi.exists_install h hdue
  exact ⟨hc.install (.inl hcdue) placement, rfl⟩

theorem BridgeInserted.exists_room {bus : BusId} (h : a.Wired) (hdue : Part.Due a .pcieBridge)
    (hi : BridgeInserted a bus b) : ∃ n, b.node? bus = some n ∧ ¬n.Full := by
  obtain ⟨c, placement, hc, hcdue, rfl, rfl⟩ := hi.exists_install h hdue
  have hpart : Part.pcieBridge.IsBridge := trivial
  obtain ⟨n, hn⟩ := Part.exists_mem_nodes (a := c) hpart
  exact ⟨n, Part.node?_install_bridge hc.named hcdue hpart hn,
    Part.not_full_of_isBridge hpart hn⟩

/-! ## The flat chain -/

theorem hasRoom_iff {newest bus : BusId} : hasRoom a newest bus = true ↔
    ∃ n, a.node? bus = some n ∧ n.freeSlots ≠ [] ∧ ¬(bus = newest ∧ n.freeSlots.length = 1) := by
  unfold hasRoom
  cases a.node? bus <;> simp [imp_iff_not_or]

/-- The newest bus of the chain has one free slot, and takes a bridge there. -/
theorem failsOn_addPciBridge (hx : a.family.isExpress = false) (hchain : a.pciChain ≠ [])
    (hn : a.node? a.newest = some n) :
    FailsOn (addPciBridge a.newest) a (n.freeSlots = [] ∨ 256 ≤ a.pciChain.length) fun bus b =>
      bus = Part.pciBridge.id a ∧ Part.Due a .pciBridge ∧ Inserted .pciBridge a b := by
  apply ensures_get_bind
  rw [hn, Option.bind_some]
  dsimp only
  cases hslot : n.freeSlots.getLast? with
  | none => exact ensures_throw ⟨.inl (List.getLast?_eq_none_iff.1 hslot), rfl, _, rfl⟩
  | some slot =>
    have hpos := List.length_pos_of_ne_nil hchain
    have hne : n.freeSlots ≠ [] := List.ne_nil_of_mem (List.mem_of_getLast? hslot)
    dsimp only
    by_cases hlength : a.pciChain.length - 1 < 255
    · rw [if_pos hlength]
      have hfree := BusNode.mem_freeSlots.1 (List.mem_of_getLast? hslot)
      have hisFree : n.isFree (.pci ⟨slot, 0⟩) = true := by
        simpa [BusNode.isFree] using hfree.2
      have hdue : Part.Due a .pciBridge := ⟨hx, hchain, by omega⟩
      have hroom : ¬(n.freeSlots = [] ∨ 256 ≤ a.pciChain.length) := by
        rintro (h | h)
        · exact hne h
        · omega
      refine Ensures.bind ((succeeds_claim _ hn hfree.1 hisFree).imp_error fun _ _ h => h.elim) ?_
      rintro p b ⟨rfl, hg⟩
      have hne : Part.pciBridge ≠ .fdc := by simp
      have hseat : Seated .pciBridge a (some ⟨a.newest, .pci ⟨slot, 0⟩⟩) b :=
        ⟨hne, ⟨n, slot, hn, hslot, rfl⟩, hg⟩
      obtain ⟨_, -, -, -, -, rfl⟩ := hg
      exact ensures_modify_bind (ensures_modify_bind (ensures_pure
        ⟨hroom, rfl, hdue, _, _, hseat, rfl⟩))
    · rw [if_neg hlength]
      exact ensures_throw ⟨.inr (by omega), rfl, _, rfl⟩

/-- A device on the flat chain: on the first bus with room, or on a bus that is put in for it. -/
inductive Chained (a : BusAllocator) (owner : String) (p : Placement) (b : BusAllocator) :
    Prop where
  | chain (hfind : a.pciChain.find? (hasRoom a a.newest) = some p.bus)
      (hnext : TakesNext a owner p b)
  | extended {c : BusAllocator} (hfind : a.pciChain.find? (hasRoom a a.newest) = none)
      (hdue : Part.Due a .pciBridge) (hi : Inserted .pciBridge a c)
      (hbus : p.bus = Part.pciBridge.id a) (hnext : TakesNext c owner p b)

theorem newest_mem (hchain : a.pciChain ≠ []) : a.newest ∈ a.pciChain := by
  rw [newest, List.getLast?_eq_some_getLast hchain]
  exact List.getLast_mem hchain

theorem failsOn_placeFlat (h : a.Wired) (owner : String) (hx : a.family.isExpress = false)
    (hchain : a.pciChain ≠ []) : FailsOn (placeFlat owner) a a.FlatFull (Chained a owner) := by
  apply ensures_get_bind
  dsimp only
  rw [← newest]
  cases hfind : a.pciChain.find? (hasRoom a a.newest) with
  | some bus =>
    obtain ⟨n, hn, hfree, hkeep⟩ := hasRoom_iff.1 (List.find?_some hfind)
    have hbus := List.mem_of_find?_eq_some hfind
    have hfull : n.Full ↔ n.freeSlots = [] := by
      obtain ⟨m, hm, -, hshape⟩ := h.chain bus hbus
      rw [Option.some.inj (hn.symm.trans hm)]
      exact BusNode.full_iff_freeSlots hshape
    have hroom : ¬n.Full := mt hfull.1 hfree
    have hflat : ¬a.FlatFull := by
      intro hflat
      obtain hat | ⟨-, hnewest, m, hm, hone⟩ := hflat bus hbus
      · exact hroom ((fullAt_iff hn).1 hat)
      · rw [← Option.some.inj (hn.symm.trans hm)] at hone
        exact hkeep ⟨hnewest, hone⟩
    refine (succeeds_claimNext owner hn hroom).mono ?_ fun _ _ h => h.elim
    rintro p b ⟨rfl, hnext⟩
    exact ⟨hflat, .chain hfind hnext⟩
  | none =>
    have hnoRoom : ∀ id ∈ a.pciChain, ∀ n, a.node? id = some n →
        n.freeSlots = [] ∨ id = a.newest ∧ n.freeSlots.length = 1 := by
      intro id hid n hn
      by_contra hnot
      rw [not_or] at hnot
      exact List.find?_eq_none.1 hfind id hid (hasRoom_iff.2 ⟨n, hn, hnot.1, hnot.2⟩)
    obtain ⟨n, hn, -, hshape⟩ := h.chain _ (newest_mem hchain)
    have hflat : a.FlatFull ↔ n.freeSlots = [] ∨ 256 ≤ a.pciChain.length := by
      have hfull : n.Full ↔ n.freeSlots = [] := BusNode.full_iff_freeSlots hshape
      constructor
      · intro hflat
        obtain hat | ⟨hlength, -⟩ := hflat _ (newest_mem hchain)
        · exact .inl (hfull.1 ((fullAt_iff hn).1 hat))
        · exact .inr hlength
      · intro hfull id hid
        obtain ⟨m, hm, -, hmshape⟩ := h.chain id hid
        obtain hnone | ⟨rfl, hone⟩ := hnoRoom id hid m hm
        · exact .inl ⟨m, hm, (BusNode.full_iff_freeSlots hmshape).2 hnone⟩
        · obtain rfl : m = n := Option.some.inj (hm.symm.trans hn)
          obtain hnone | hlength := hfull
          · exact .inl ⟨m, hm, (BusNode.full_iff_freeSlots hmshape).2 hnone⟩
          · exact .inr ⟨hlength, rfl, m, hm, hone⟩
    refine ((failsOn_addPciBridge hx hchain hn).congr hflat.symm).bind ?_
    rintro bus b ⟨rfl, hdue, hi⟩
    obtain ⟨m, -, hm, hroom⟩ := hi.exists_room h hdue trivial
    refine (succeeds_claimNext owner hm hroom).imp ?_
    rintro p c ⟨hbus, hnext⟩
    exact .extended hfind hdue hi hbus hnext

/-! ## All PCI devices -/

/-- Where a PCI device without coordinates goes, and what is put in for it. -/
inductive Attached (a : BusAllocator) (owner : String) (p : Placement) (b : BusAllocator) :
    Prop where
  | root (hx : a.family.isExpress = true) (hbus : p.bus = a.family.rootBus)
      (hnext : TakesNext a owner p b)
  | port {c : BusAllocator} (hdue : Part.Due a .rootPort) (hi : PortInserted a c)
      (hbus : p.bus = portBus a.rootPorts) (hnext : TakesNext c owner p b)
  | bridged (hx : a.family.isExpress = true) (hbridge : a.pciePciBridge = some p.bus)
      (hnext : TakesNext a owner p b)
  | bridge {c : BusAllocator} (hdue : Part.Due a .pcieBridge) (hi : BridgeInserted a p.bus c)
      (hnext : TakesNext c owner p b)
  | flat (hx : a.family.isExpress = false) (hflat : Chained a owner p b)

theorem BridgeSite.insertions {parent : BusId} (hx : a.family.isExpress = true)
    (hs : BridgeSite a parent b) : Bridges a b := by
  unfold BridgeSite at hs
  split at hs
  · rename_i hr
    exact .single ⟨.rootPort, trivial, ⟨hx, hr⟩, hs.2.inserted⟩
  · rw [hs.2]
    exact .refl

theorem BridgeInserted.insertions {bus : BusId} (hdue : Part.Due a .pcieBridge)
    (hi : BridgeInserted a bus b) : Bridges a b := by
  obtain ⟨rfl, c, p, d, hs, hnext, rfl⟩ := hi
  refine (hs.insertions hdue.1).tail ⟨.pcieBridge, trivial, ?_, some p, d, ?_, rfl⟩
  · obtain ⟨_, _, _, rfl⟩ := hs.eq_with
    exact hdue
  · exact ⟨nofun, trivial, hnext.granted⟩

theorem Attached.placed {owner : String} {p : Placement} (h : Attached a owner p b) :
    Placed Part.IsBridge a owner p b := by
  cases h with
  | root _ _ hnext => exact ⟨a, .refl, hnext.granted⟩
  | port hdue hi _ hnext =>
    exact ⟨_, .single ⟨.rootPort, trivial, hdue, hi.inserted⟩, hnext.granted⟩
  | bridged _ _ hnext => exact ⟨a, .refl, hnext.granted⟩
  | bridge hdue hi hnext => exact ⟨_, hi.insertions hdue, hnext.granted⟩
  | flat _ hflat =>
    cases hflat with
    | chain _ hnext => exact ⟨a, .refl, hnext.granted⟩
    | extended _ hdue hi _ hnext =>
      exact ⟨_, .single ⟨.pciBridge, trivial, hdue, hi⟩, hnext.granted⟩

theorem Attached.reachesPci {owner : String} {p : Placement} (h : a.Wired)
    (hp : a.family.hasPci = true) (ht : Attached a owner p b) :
    ∃ slots, b.ReachesPci p.bus slots := by
  have hroot : a.ReachesPci a.family.rootBus 32 := by
    obtain ⟨n, hn, hkind, hshape⟩ := h.root
    have hpci : ∀ family : MachineFamily, family.hasPci = true → family.rootKind.isPci = true := by
      decide
    exact ⟨n, hn, hkind ▸ hpci _ hp, hshape hp⟩
  have hafter : ∀ {c slots}, c.ReachesPci p.bus slots → TakesNext c owner p b →
      ∃ slots, b.ReachesPci p.bus slots :=
    fun hc hnext => ⟨_, (Grows.granted hnext.granted).reachesPci hc⟩
  cases ht with
  | root _ hbus hnext => exact hafter (hbus ▸ hroot) hnext
  | port hdue hi hbus hnext =>
    have hc := h.inserted (.inl hdue) hi.inserted
    obtain ⟨q, d, -, hseat, rfl⟩ := hi
    refine hafter (hbus ▸ hc.ports a.rootPorts ?_) hnext
    obtain ⟨_, -, -, -, -, rfl⟩ := hseat.granted
    exact Nat.lt_succ_self _
  | bridged _ hbridge hnext => exact hafter (h.bridge _ hbridge) hnext
  | bridge hdue hi hnext =>
    obtain ⟨hc, hbus⟩ := hi.wired h hdue
    exact hafter (hc.bridge _ hbus) hnext
  | flat _ hflat =>
    cases hflat with
    | chain hfind hnext =>
      exact hafter (h.chain _ (List.mem_of_find?_eq_some hfind)) hnext
    | extended _ hdue hi hbus hnext =>
      have hc := h.inserted (.inl hdue) hi
      obtain ⟨_, _, hs, rfl⟩ := hi
      refine hafter (hc.chain _ ?_) hnext
      rw [hbus, hs.eq_with]
      exact List.mem_append_right _ List.mem_cons_self

theorem Placed.eq_with {owner : String} {p : Placement} (h : Placed Part.IsBridge a owner p b) :
    ∃ buses controllers pciChain rootPorts pciePciBridge,
      b = { a with buses, controllers, pciChain, rootPorts, pciePciBridge } := by
  obtain ⟨c, hac, n, -, -, -, -, rfl⟩ := h
  obtain ⟨_, _, _, _, _, rfl⟩ := Bridges.eq_with hac
  exact ⟨_, _, _, _, _, rfl⟩

/-- What follows the claim of a seat puts a part in and gives a value, whatever the PCI hierarchy is
like by then. -/
def Records {α : Type} (f : Placement → Alloc α) (part : Part) (a : BusAllocator) (v : α) : Prop :=
  ∀ buses controllers pciChain rootPorts pciePciBridge p,
    let b := { a with buses, controllers, pciChain, rootPorts, pciePciBridge }
    outcome (f p) b = (.ok v, part.install b (some p))

theorem failsOn_onRoot (h : a.Wired) (owner : String) (hp : a.family.hasPci = true)
    (hx : a.family.isExpress = true) : FailsOn (claimNext owner a.family.rootBus) a
      (a.FullAt a.family.rootBus) (Attached a owner) := by
  obtain ⟨n, hn, -⟩ := h.exists_root hp
  refine ((failsOn_claimNext owner hn).congr (fullAt_iff hn).symm).imp ?_
  rintro p b ⟨hbus, hnext⟩
  exact .root hx hbus hnext

theorem failsOn_onPort (h : a.Wired) (ha : a.Grounded) (owner : String)
    (hp : a.family.hasPci = true) (hx : a.family.isExpress = true)
    (hr : a.config.rootPorts = true) :
    FailsOn (do claimNext owner (← addRootPort)) a (a.FullAt a.family.rootBus)
      (Attached a owner) := by
  obtain ⟨n, hn, -⟩ := h.exists_root hp
  refine ((failsOn_addRootPort ha hn).congr (fullAt_iff hn).symm).bind ?_
  rintro bus b ⟨rfl, hi⟩
  have hdue : Part.Due a .rootPort := ⟨hx, hr⟩
  obtain ⟨m, -, hm, hroom⟩ := hi.inserted.exists_room h hdue trivial
  refine (succeeds_claimNext owner hm hroom).imp ?_
  rintro p c ⟨hbus, hnext⟩
  exact .port hdue hi hbus hnext

theorem failsOn_onBridge (h : a.Wired) (ha : a.Grounded) (owner : String)
    (hp : a.family.hasPci = true) (hx : a.family.isExpress = true)
    (hc : a.config.pciePciBridge = true) :
    FailsOn (do claimNext owner (← pciePciBridge)) a
      (a.FullAt (a.pciePciBridge.getD a.family.rootBus)) (Attached a owner) := by
  cases hb : a.pciePciBridge with
  | some bus =>
    obtain ⟨n, hn, -⟩ := h.bridge bus hb
    have hgives : outcome pciePciBridge a = (.ok bus, a) := by
      rw [pciePciBridge, outcome_get_bind, hb]
      rfl
    refine Ensures.bind_ok hgives (FailsOn.imp ((failsOn_claimNext owner hn).congr
      (fullAt_iff hn).symm) ?_)
    rintro p b ⟨rfl, hnext⟩
    exact .bridged hx hb hnext
  | none =>
    obtain ⟨n, hn, -⟩ := h.exists_root hp
    refine ((failsOn_pciePciBridge h ha hx hb hn).congr (fullAt_iff hn).symm).bind ?_
    intro bus b hi
    have hdue : Part.Due a .pcieBridge := ⟨hx, hc, hb⟩
    obtain ⟨m, hm, hroom⟩ := hi.exists_room h hdue
    refine (succeeds_claimNext owner hm hroom).imp ?_
    rintro p c ⟨rfl, hnext⟩
    exact .bridge hdue hi hnext

/-- A PCI device without coordinates is refused exactly when there is no slot for its kind. -/
theorem failsOn_placePciNext (h : a.Wired) (ha : a.Grounded) (owner : String) (kind : PciKind)
    (hp : a.family.hasPci = true) :
    FailsOn (placePciNext owner kind) a (a.PciFull kind) (Attached a owner) := by
  apply ensures_get_bind
  unfold PciFull
  by_cases hx : a.family.isExpress = true
  · simp only [if_pos hx]
    cases kind with
    | express =>
      dsimp only [hostBus]
      split
      · rename_i hr
        exact failsOn_onPort h ha owner hp hx hr
      · exact failsOn_onRoot h owner hp hx
    | conventional =>
      dsimp only [hostBus]
      split
      · rename_i hc
        exact failsOn_onBridge h ha owner hp hx hc
      · exact failsOn_onRoot h owner hp hx
    | integrated => exact failsOn_onRoot h owner hp hx
  · simp only [if_neg hx]
    have hx : a.family.isExpress = false := by simpa using hx
    refine (failsOn_placeFlat h owner hx (ha.chain hp hx)).imp ?_
    exact fun p b hflat => .flat hx hflat

theorem failsOn_placePci (h : a.Wired) (ha : a.Grounded) (owner : String) (kind : PciKind)
    (hp : a.family.hasPci = true) {hint : PlacementHint} (hhint : hint.IsPlain) :
    FailsOn (placePci owner kind hint) a (a.PciFull kind) (Attached a owner) := by
  apply ensures_get_bind
  rw [if_pos hp, hhint.1, hhint.2]
  exact failsOn_placePciNext h ha owner kind hp

end Alloc

end Bridges

end GuestSpec
