import GuestSpec.Proofs.Bus.Listed
import GuestSpec.Proofs.Bus.Names

/-!
# Buses that are noted are there

The allocator notes buses by their ids: the root bus, the bridges of the PCI hierarchy, and those
that are listed for a request. Each of these ids belongs to a bus of the right kind. The ids of the
PCI hierarchy always reach their bus; any other id does unless a caller gave it to a USB bus.
-/

namespace GuestSpec

open Alloc BusAllocator

open BusName (Issued)

def MachineFamily.rootKind : MachineFamily → BusKind
  | i440fx | pseries => .pciRoot
  | q35 | armVirt false => .pcieRoot
  | s390Ccw => .ccw
  | armVirt true | microvm => .virtioMmio

/-- The kind of the buses that are listed for a request. -/
def BusRequest.listedKind : BusRequest → Option BusKind
  | .none | .pci _ | .virtio => .none
  | .scsi _ => some .scsi
  | .ide | .ahci => some .ide
  | .usb _ => some .usb
  | .floppy => some .floppy
  | .isaSerial => some .isaSerial
  | .virtioSerial => some .virtioSerial

namespace BusAllocator

def ReachesPci (a : BusAllocator) (id : BusId) (slots : Fin 33) : Prop :=
  ∃ n, a.node? id = some n ∧ n.bus.kind.isPci = true ∧ n.shape = .pci slots

def Has (a : BusAllocator) (id : BusId) (kind : BusKind) : Prop :=
  ∃ n ∈ a.buses, n.bus.id = id ∧ n.bus.kind = kind

def portBus (number : Nat) : BusId := numbered "pcie-root-port-" number

/-- All buses that are noted are there, and ids are shared with USB buses only. -/
structure Wired (a : BusAllocator) : Prop where
  named : a.Named
  root : ∃ n, a.node? a.family.rootBus = some n ∧ n.bus.kind = a.family.rootKind ∧
    (a.family.hasPci = true → n.shape = .pciBus)
  chain : ∀ id ∈ a.pciChain, a.ReachesPci id 32
  ports : ∀ k < a.rootPorts, a.ReachesPci (portBus k) 1
  bridge : ∀ id, a.pciePciBridge = some id → a.ReachesPci id 32
  listed : ∀ request kind, request.listedKind = some kind → ∀ id ∈ a.busesFor request,
    (request = .isaSerial → BusName.isa ∈ BusName.builtIn a.family) → a.Has id kind
  shared : a.buses.Pairwise fun m n => m.bus.id = n.bus.id → m.bus.id ∈ a.busesFor (.usb none)

end BusAllocator

section Steps

variable {a b : BusAllocator} {part : Part} {placement : Option Placement} {id : BusId}
  {kind : BusKind} {slots : Fin 33}

theorem BusAllocator.exists_listedKind {request : BusRequest} (h : id ∈ a.busesFor request) :
    ∃ kind, request.listedKind = some kind ∧ kind.isPci = false := by
  cases request with
  | none | pci | virtio => cases h
  | _ => exact ⟨_, rfl, rfl⟩

theorem Grows.reachesPci (hab : Grows a b) (h : a.ReachesPci id slots) : b.ReachesPci id slots := by
  obtain ⟨n, hn, hkind, hshape⟩ := h
  obtain ⟨m, hm, hbus, hshape', -⟩ := hab id n hn
  exact ⟨m, hm, hbus ▸ hkind, hshape'.trans hshape⟩

theorem Grows.root (hab : Grows a b) (hfamily : b.family = a.family)
    (h : ∃ n, a.node? a.family.rootBus = some n ∧ n.bus.kind = a.family.rootKind ∧
      (a.family.hasPci = true → n.shape = .pciBus)) :
    ∃ n, b.node? b.family.rootBus = some n ∧ n.bus.kind = b.family.rootKind ∧
      (b.family.hasPci = true → n.shape = .pciBus) := by
  rw [hfamily]
  obtain ⟨n, hn, hkind, hshape⟩ := h
  obtain ⟨m, hm, hbus, hshape', -⟩ := hab _ n hn
  exact ⟨m, hm, hbus ▸ hkind, fun hpci => hshape'.trans (hshape hpci)⟩

theorem Alloc.Granted.has {ask : Option Placement} {owner : String} {p : Placement}
    (hg : Granted ask a owner p b) (h : a.Has id kind) : b.Has id kind := by
  obtain ⟨n, hn, hid, hkind⟩ := h
  obtain ⟨_, -, -, -, -, rfl⟩ := hg
  have hmem : n.bus ∈ (a.addClaim p.bus p.coordinate owner).buses.map BusNode.bus := by
    rw [map_bus_addClaim]
    exact List.mem_map_of_mem hn
  obtain ⟨m, hm, hbus⟩ := List.mem_map.1 hmem
  exact ⟨m, hm, hbus ▸ hid, hbus ▸ hkind⟩

theorem Part.has_install (h : a.Has id kind) : (part.install a placement).Has id kind := by
  obtain ⟨n, hn, hbus⟩ := h
  refine ⟨n, ?_, hbus⟩
  rw [Part.buses_install]
  exact List.mem_append_left _ hn

/-- A bus that is listed after an insertion was listed before, or the part provides it. -/
theorem Part.mem_busesFor_install {request : BusRequest}
    (h : id ∈ (part.install a placement).busesFor request) :
    id ∈ a.busesFor request ∨
      ∃ n ∈ part.nodes a, n.bus.id = id ∧ request.listedKind = some n.bus.kind := by
  cases request with
  | none | pci | virtio => cases h
  | ide | isaSerial => exact .inl (by cases part <;> exact h)
  | scsi family =>
    cases part with
    | hba f =>
      change id ∈ ((a.hbas ++ [(f, (hba f).id a ++ ".0")]).filter (·.1 == family)).map (·.2) at h
      rw [List.filter_append, List.map_append, List.mem_append] at h
      refine h.imp_right fun h => ?_
      obtain ⟨pair, hpair, rfl⟩ := List.mem_map.1 h
      obtain rfl := List.mem_singleton.1 (List.mem_of_mem_filter hpair)
      exact ⟨_, List.mem_cons_self, rfl, rfl⟩
    | _ => exact .inl h
  | ahci =>
    cases part with
    | ahci =>
      refine .inr ⟨_, List.mem_map_of_mem (List.mem_map_of_mem h), rfl, rfl⟩
    | _ => exact .inl h
  | usb controller =>
    cases part with
    | usb usbId model ports ask =>
      change id ∈ ((a.usb ++ [(model, usbId ++ ".0")]).filter fun u =>
        controller.all fun c => Text.occurs c u.1).map (·.2) at h
      rw [List.filter_append, List.map_append, List.mem_append] at h
      refine h.imp_right fun h => ?_
      obtain ⟨pair, hpair, rfl⟩ := List.mem_map.1 h
      obtain rfl := List.mem_singleton.1 (List.mem_of_mem_filter hpair)
      exact ⟨_, List.mem_cons_self, rfl, rfl⟩
    | _ => exact .inl h
  | floppy =>
    cases part with
    | fdc =>
      obtain rfl := List.mem_singleton.1 h
      exact .inr ⟨_, List.mem_cons_self, rfl, rfl⟩
    | _ => exact .inl h
  | virtioSerial =>
    cases part with
    | virtioSerial =>
      obtain rfl := List.mem_singleton.1 h
      exact .inr ⟨_, List.mem_cons_self, rfl, rfl⟩
    | _ => exact .inl h

theorem Part.mem_usb_install {bus : BusId} (h : bus ∈ a.busesFor (.usb none)) :
    bus ∈ (part.install a placement).busesFor (.usb none) := by
  rw [busesFor_usb_none] at h ⊢
  cases part with
  | usb id model ports ask =>
    change bus ∈ (a.usb ++ [(model, id ++ ".0")]).map (·.2)
    rw [List.map_append]
    exact List.mem_append_left _ h
  | _ => exact h

theorem BusName.mem_usb_of_issued {id : String} (h : Issued a (.usb id)) :
    id ++ ".0" ∈ a.busesFor (.usb none) := by
  rw [busesFor_usb_none]
  exact h

theorem Part.mem_usb_of_shared (h : a.Named) (hadm : part.Admitted a) {m n : BusNode}
    (hm : m ∈ a.buses) (hn : n ∈ part.nodes a) (hid : m.bus.id = n.bus.id) :
    m.bus.id ∈ (part.install a placement).busesFor (.usb none) := by
  have htext : n.bus.id ∈ (part.names a).map (BusName.text a.family) := by
    rw [Part.map_text_names]
    exact List.mem_map_of_mem hn
  obtain ⟨x, hx, htext⟩ := List.mem_map.1 htext
  by_cases hu : x.IsUsb
  · cases x with
    | usb id =>
      rw [hid, ← htext]
      exact BusName.mem_usb_of_issued (Part.issued_of_mem_names hadm hx)
    | _ => exact hu.elim
  · have hdue : part.Due a := by
      apply hadm.due
      rintro id model ports ask rfl
      obtain rfl := List.mem_singleton.1 hx
      exact hu trivial
    obtain ⟨id, hissued, htext'⟩ :=
      h.exists_usb (Part.not_issued_of_mem_names hdue hx) hu hm (hid.trans htext.symm)
    rw [hid, ← htext, htext']
    exact Part.mem_usb_install (BusName.mem_usb_of_issued hissued)

theorem Part.node?_install_bridge (h : a.Named) (hdue : part.Due a) (hpart : part.IsBridge)
    {n : BusNode} (hn : n ∈ part.nodes a) :
    (part.install a placement).node? (part.id a) = some n := by
  have hold : a.buses.find? (·.bus.id == part.id a) = none := by
    rw [List.find?_eq_none]
    intro m hm
    simpa using h.ne_bridge hdue hpart hm
  rw [node?, Part.buses_install, List.find?_append, hold, Option.none_or]
  cases part with
  | rootPort | pcieBridge | pciBridge =>
    obtain rfl := List.mem_singleton.1 hn
    simp [Part.nodes, Part.buses, BusNode.ofShape]
  | _ => exact hpart.elim

end Steps

namespace BusAllocator.Wired

variable {a b : BusAllocator} {part : Part}

theorem start (family : MachineFamily) (machine : String) (config : AllocatorConfig) :
    (BusAllocator.start family machine config).Wired where
  named := Named.start family machine config
  root := by
    have hroot : ∀ family, ∃ n ∈ (builtInBuses family).find? (·.bus.id == family.rootBus),
        n.bus.kind = family.rootKind ∧ (family.hasPci = true → n.shape = .pciBus) := by
      decide
    exact hroot family
  chain id hid := by
    cases family with
    | i440fx | pseries =>
      obtain rfl := List.mem_singleton.1 hid
      exact ⟨_, rfl, rfl, rfl⟩
    | _ => cases hid
  ports _ h := nomatch h
  bridge _ h := nomatch h
  listed request kind hkind id hid hisa := by
    have hide : ∀ family, ∀ id ∈ builtInIde family,
        ∃ n ∈ builtInBuses family, n.bus.id = id ∧ n.bus.kind = .ide := by
      decide
    cases request with
    | none | pci | virtio | scsi | usb | virtioSerial => cases hid
    | ide =>
      obtain rfl := Option.some.inj hkind
      exact hide family id hid
    | ahci =>
      obtain rfl := Option.some.inj hkind
      cases family with
      | q35 => exact hide .q35 id hid
      | _ => cases hid
    | floppy =>
      obtain rfl := Option.some.inj hkind
      cases family with
      | i440fx =>
        obtain rfl := List.mem_singleton.1 hid
        have hmem : builtIn "floppy-bus.0" .floppy (.units 2) [] ∈ builtInBuses .i440fx := by decide
        exact ⟨_, hmem, rfl, rfl⟩
      | _ => cases hid
    | isaSerial =>
      obtain rfl := Option.some.inj hkind
      obtain rfl := List.mem_singleton.1 hid
      have hisaBus : ∀ family, BusName.isa ∈ BusName.builtIn family →
          ∃ n ∈ builtInBuses family, n.bus.id = isaBus ∧ n.bus.kind = .isaSerial := by
        decide
      exact hisaBus family (hisa rfl)
  shared := by
    have hnodup := BusName.nodup_ids_builtInBuses family
    exact (List.pairwise_map.1 hnodup).imp fun hne heq => absurd heq hne

theorem granted {ask : Option Placement} {owner : String} {p : Placement} (h : a.Wired)
    (hg : Granted ask a owner p b) : b.Wired := by
  have hgrows := Grows.granted hg
  have hnamed := h.named.granted hg
  have hhas : ∀ id kind, a.Has id kind → b.Has id kind := fun _ _ => hg.has
  obtain ⟨_, -, -, -, -, rfl⟩ := hg
  refine ⟨hnamed, hgrows.root rfl h.root, fun id hid => hgrows.reachesPci (h.chain id hid),
    fun k hk => hgrows.reachesPci (h.ports k hk), fun id hid => hgrows.reachesPci (h.bridge id hid),
    fun request kind hkind id hid hisa => ?_, ?_⟩
  · rw [busesFor_addClaim] at hid
    exact hhas id kind (h.listed request kind hkind id hid hisa)
  · have hids : ∀ ns : List BusNode,
        ns.Pairwise (fun m n => m.bus.id = n.bus.id → m.bus.id ∈ a.busesFor (.usb none)) ↔
          (ns.map BusNode.bus).Pairwise fun m n => m.id = n.id → m.id ∈ a.busesFor (.usb none) :=
      fun ns => by rw [List.pairwise_map]
    rw [busesFor_addClaim, hids, map_bus_addClaim, ← hids]
    exact h.shared

theorem seated {placement : Option Placement} (h : a.Wired) (hs : Seated part a placement b) :
    b.Wired :=
  hs.preserves h.granted h

theorem install (h : a.Wired) (hadm : part.Admitted a) (placement : Option Placement) :
    (part.install a placement).Wired := by
  have hgrows : Grows a (part.install a placement) := Grows.install placement
  -- a bridge that is put in is reached by the id that is noted for it
  have hbridge : part.IsBridge → ∀ n ∈ part.nodes a,
      (part.install a placement).node? (part.id a) = some n := by
    intro hpart n hn
    have hdue : part.Due a := hadm.due (by rintro _ _ _ _ rfl; exact hpart)
    exact Part.node?_install_bridge h.named hdue hpart hn
  refine ⟨h.named.install hadm placement, hgrows.root part.family_install h.root,
    ?_, ?_, ?_, ?_, ?_⟩
  · intro id hid
    cases part with
    | pciBridge =>
      obtain hid | hid := List.mem_append.1 hid
      · exact hgrows.reachesPci (h.chain id hid)
      · obtain rfl := List.mem_singleton.1 hid
        exact ⟨_, hbridge trivial _ List.mem_cons_self, rfl, rfl⟩
    | _ => exact hgrows.reachesPci (h.chain id hid)
  · intro k hk
    cases part with
    | rootPort =>
      obtain hk | rfl := Nat.lt_succ_iff_lt_or_eq.1 hk
      · exact hgrows.reachesPci (h.ports k hk)
      · exact ⟨_, hbridge trivial _ List.mem_cons_self, rfl, rfl⟩
    | _ => exact hgrows.reachesPci (h.ports k hk)
  · intro id hid
    cases part with
    | pcieBridge =>
      obtain rfl := Option.some.inj hid
      exact ⟨_, hbridge trivial _ List.mem_cons_self, rfl, rfl⟩
    | _ => exact hgrows.reachesPci (h.bridge id hid)
  · intro request kind hkind id hid hisa
    rw [Part.family_install] at hisa
    obtain hid | ⟨n, hn, rfl, hlisted⟩ := Part.mem_busesFor_install hid
    · exact Part.has_install (h.listed request kind hkind id hid hisa)
    · obtain rfl := Option.some.inj (hlisted.symm.trans hkind)
      refine ⟨n, ?_, rfl, rfl⟩
      rw [Part.buses_install]
      exact List.mem_append_right _ hn
  · rw [Part.buses_install]
    refine List.pairwise_append.2 ⟨?_, ?_, fun m hm n hn hid => ?_⟩
    · exact h.shared.imp fun hshared hid => Part.mem_usb_install (hshared hid)
    · have hnodup : ((part.nodes a).map (·.bus.id)).Nodup := by
        rw [← Part.map_text_names]
        exact Part.nodup_text_names
      exact (List.pairwise_map.1 hnodup).imp fun hne heq => absurd heq hne
    · exact Part.mem_usb_of_shared h.named hadm hm hn hid

theorem inserted (h : a.Wired) (hadm : part.Admitted a) (hi : Inserted part a b) : b.Wired := by
  obtain ⟨placement, c, hs, rfl⟩ := hi
  exact (h.seated hs).install (hs.admitted hadm) placement

/-- An id that reaches a bus of another kind than the request has listed it for is that of a USB
bus. -/
theorem mem_usb_of_kind_ne (h : a.Wired) {request : BusRequest} {kind : BusKind} {id : BusId}
    {n : BusNode} (hkind : request.listedKind = some kind) (hid : id ∈ a.busesFor request)
    (hn : a.node? id = some n) (hne : n.bus.kind ≠ kind) : id ∈ a.busesFor (.usb none) := by
  by_cases hisa : request = .isaSerial → BusName.isa ∈ BusName.builtIn a.family
  · -- the first bus of this id is not the one that is listed, so the id is shared
    obtain ⟨m, hm, rfl, hmkind⟩ := h.listed request kind hkind id hid hisa
    obtain ⟨l, r, hbuses, hidn, hl⟩ := split_of_node? hn
    have hshared := h.shared
    rw [hbuses] at hm hshared
    obtain hm | hm := List.mem_append.1 hm
    · exact absurd rfl (hl m hm)
    · obtain rfl | hm := List.mem_cons.1 hm
      · exact absurd hmkind hne
      · rw [← hidn]
        exact (List.pairwise_cons.1 (List.pairwise_append.1 hshared).2.1).1 m hm hidn
  · -- there is no such bus at all, so that only a caller can have made one
    obtain ⟨rfl, hnot⟩ := Classical.not_imp.1 hisa
    obtain rfl := List.mem_singleton.1 hid
    obtain ⟨usbId, hissued, htext⟩ :=
      h.named.exists_usb (x := .isa) hnot (fun h => h) (mem_of_node? hn) (id_of_node? hn)
    change isaBus = _ at htext
    rw [htext]
    exact BusName.mem_usb_of_issued hissued

end BusAllocator.Wired

theorem wired_run (family : MachineFamily) (machine : String) (config : AllocatorConfig)
    (calls : List BusCall) : ((start family machine config).afterAll calls).Wired :=
  run_induction (I := Wired) (fun _ _ _ _ _ hg h => h.granted hg)
    (fun _ _ _ hadm hi h => h.inserted hadm hi) (.start family machine config)
    (.start family machine config) calls

end GuestSpec
