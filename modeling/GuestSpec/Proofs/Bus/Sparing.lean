import GuestSpec.Proofs.Bus.Exhaustion

/-!
# What leaves SCSI adapters alone

A device without coordinates that is not for a family of SCSI adapters changes nothing about the
buses of this family. The controllers that are put in for it are others, which sit elsewhere, and it
claims a coordinate of another bus.
-/

namespace GuestSpec

open Alloc BusAllocator

namespace BusAllocator

def ReachesOther (a : BusAllocator) (id : BusId) : Prop :=
  ∃ n, a.node? id = some n ∧ n.bus.kind ≠ .scsi

/-- Nothing about the buses of a family of SCSI adapters has changed. -/
structure Spares (hba : HbaFamily) (a b : BusAllocator) : Prop where
  family : b.family = a.family
  config : b.config = a.config
  buses : b.hbaBuses hba = a.hbaBuses hba
  node : ∀ id ∈ a.hbaBuses hba, ∀ n, a.node? id = some n → b.node? id = some n

section Other

variable {a b : BusAllocator} {id : BusId} {slots : Fin 33}

theorem ReachesPci.other (h : a.ReachesPci id slots) : a.ReachesOther id := by
  obtain ⟨n, hn, hkind, -⟩ := h
  refine ⟨n, hn, fun hscsi => ?_⟩
  rw [hscsi] at hkind
  cases hkind

theorem ReachesOther.grows (h : a.ReachesOther id) (hab : Grows a b) : b.ReachesOther id := by
  obtain ⟨n, hn, hkind⟩ := h
  obtain ⟨m, hm, hbus, -⟩ := hab id n hn
  exact ⟨m, hm, hbus ▸ hkind⟩

theorem ReachesOther.of_granted {ask : Option Placement} {owner : String} {p : Placement}
    (hg : Granted ask a owner p b) (h : b.ReachesOther p.bus) : a.ReachesOther p.bus := by
  obtain ⟨n, hn, hkind⟩ := h
  obtain ⟨m, hm, -⟩ := id hg
  obtain ⟨l, hl, hbus, -⟩ := Grows.granted hg _ m hm
  rw [Option.some.inj (hn.symm.trans hl), hbus] at hkind
  exact ⟨m, hm, hkind⟩

theorem Wired.root_other (h : a.Wired) : a.ReachesOther a.family.rootBus := by
  have hroot : ∀ family : MachineFamily, family.rootKind ≠ .scsi := by decide
  obtain ⟨n, hn, hkind, -⟩ := h.root
  exact ⟨n, hn, hkind ▸ hroot _⟩

end Other

namespace Spares

variable {hba : HbaFamily} {a b c : BusAllocator} {part : Part} {owner : String} {p : Placement}
  {ask : Option Placement}

theorem refl (a : BusAllocator) : Spares hba a a := ⟨rfl, rfl, rfl, fun _ _ _ hn => hn⟩

theorem of_eq (h : b = a) : Spares hba a b := h ▸ refl b

theorem trans (hab : Spares hba a b) (hbc : Spares hba b c) : Spares hba a c := by
  refine ⟨hbc.family.trans hab.family, hbc.config.trans hab.config, hbc.buses.trans hab.buses,
    fun id hid n hn => ?_⟩
  exact hbc.node id (hab.buses ▸ hid) n (hab.node id hid n hn)

theorem granted (hg : Granted ask a owner p b) (hbus : p.bus ∉ a.hbaBuses hba) :
    Spares hba a b := by
  obtain ⟨_, -, -, -, -, rfl⟩ := hg
  refine ⟨rfl, rfl, rfl, fun id hid n hn => ?_⟩
  rw [node?_addClaim, hn, Option.map_some, if_neg (ne_of_mem_of_not_mem hid hbus)]

theorem install (part : Part) (hpart : part ≠ .hba hba) (placement : Option Placement) :
    Spares hba a (part.install a placement) :=
  ⟨part.family_install, part.config_install, hbaBuses_install hpart,
    fun _ _ _ hn => Part.node?_install_of_node? hn⟩

variable (h : a.Undisturbed)

include h

theorem notMem (hab : Spares hba a b) {id : BusId} (hid : b.ReachesOther id) :
    id ∉ a.hbaBuses hba := by
  intro hmem
  obtain ⟨n, hn, hkind⟩ := h.exists_listed (.scsi hba) rfl hmem nofun
  obtain ⟨m, hm, hne⟩ := hid
  rw [Option.some.inj (hm.symm.trans (hab.node id hmem n hn))] at hne
  exact hne hkind

theorem claimed (hac : Spares hba a c) (hg : Granted ask c owner p b) (hp : b.ReachesOther p.bus) :
    Spares hba a b := by
  refine hac.trans (granted hg ?_)
  rw [hac.buses]
  exact hac.notMem h (.of_granted hg hp)

theorem portInserted (hi : PortInserted a b) : Spares hba a b := by
  obtain ⟨q, c, hbus, hnext, rfl⟩ := hi
  have hroot : c.ReachesOther q.bus := hbus ▸ h.wired.root_other.grows (.granted hnext.granted)
  exact ((refl a).claimed h hnext.granted hroot).trans (install .rootPort nofun _)

theorem bridgeSite (hx : a.family.isExpress = true) {parent : BusId}
    (hs : BridgeSite a parent b) : Spares hba a b ∧ b.ReachesOther parent := by
  unfold BridgeSite at hs
  split at hs
  · rename_i hr
    obtain ⟨rfl, hi⟩ := hs
    have hdue : Part.Due a .rootPort := ⟨hx, hr⟩
    have hb := h.wired.inserted (.inl hdue) hi.inserted
    refine ⟨portInserted h hi, (hb.ports a.rootPorts ?_).other⟩
    obtain ⟨q, c, -, hnext, rfl⟩ := hi
    obtain ⟨_, -, -, -, -, rfl⟩ := hnext.granted
    exact Nat.lt_succ_self _
  · obtain ⟨rfl, rfl⟩ := hs
    exact ⟨refl _, h.wired.root_other⟩

theorem attached (hp : a.family.hasPci = true) (ht : Attached a owner p b) : Spares hba a b := by
  obtain ⟨slots, hreaches⟩ := ht.reachesPci h.wired hp
  have hreaches := hreaches.other
  cases ht with
  | root _ _ hnext | bridged _ _ hnext => exact (refl a).claimed h hnext.granted hreaches
  | port _ hi _ hnext => exact (portInserted h hi).claimed h hnext.granted hreaches
  | bridge hdue hi hnext =>
    obtain ⟨-, c, q, d, hsite, hseat, rfl⟩ := hi
    obtain ⟨hac, hparent⟩ : Spares hba a c ∧ _ := bridgeSite h hdue.1 hsite
    have had := hac.claimed h hseat.granted (hparent.grows (.granted hseat.granted))
    exact (had.trans (install .pcieBridge nofun _)).claimed h hnext.granted hreaches
  | flat _ hflat =>
    cases hflat with
    | chain _ hnext => exact (refl a).claimed h hnext.granted hreaches
    | extended _ hdue hi _ hnext =>
      obtain ⟨seat, c, hs, rfl⟩ := hi
      cases seat with
      | none => cases hs.1
      | some q =>
        obtain ⟨-, ⟨n, slot, hn, -, rfl⟩, hg⟩ := hs
        have hnewest := (h.wired.chain _ (newest_mem hdue.2.1)).other
        have hac : Spares hba a c := (refl a).claimed h hg (hnewest.grows (.granted hg))
        exact (hac.trans (install .pciBridge nofun _)).claimed h hnext.granted hreaches

theorem sits (hs : Sits a owner p b) : Spares hba a b := by
  cases hs with
  | attached hp ht => exact attached h hp ht
  | rooted hbus hnext =>
    have hroot := h.wired.root_other.grows (.granted hnext.granted)
    exact (refl a).claimed h hnext.granted (hbus ▸ hroot)

theorem added (hadd : Added part a b) (hpart : part ≠ .hba hba) : Spares hba a b := by
  obtain ⟨c, q, hs, rfl⟩ := hadd
  exact (sits h hs).trans (install part hpart _)

end Spares

end BusAllocator

/-! ## Operations -/

namespace Alloc

variable {α β : Type} {hba : HbaFamily} {s a b : BusAllocator}

/-- An operation that leaves the buses of a family alone, whether or not it fails. -/
abbrev Sparing (hba : HbaFamily) (x : Alloc α) (s a : BusAllocator) : Prop :=
  Ensures x a (fun _ b => Spares hba s b) fun _ b => Spares hba s b

section Claims

variable (hsa : Spares hba s a)

include hsa

theorem sparing_claim (owner : String) {x : Alloc Placement}
    (hx : Ensures x a (fun p b => p.bus ∉ s.hbaBuses hba ∧ Granted none a owner p b)
      fun _ b => b = a) : Sparing hba x s a := by
  refine hx.mono ?_ ?_
  · rintro p b ⟨hbus, hg⟩
    rw [← hsa.buses] at hbus
    exact hsa.trans (.granted hg hbus)
  · rintro _ _ rfl
    exact hsa

theorem sparing_claimNext {bus : BusId} (owner : String) (hbus : bus ∉ s.hbaBuses hba) :
    Sparing hba (claimNext owner bus) s a := by
  refine sparing_claim hsa owner ((ensures_claimNext owner bus a).imp ?_)
  rintro p b ⟨rfl, hg⟩
  exact ⟨hbus, hg⟩

theorem sparing_found {found : Option (BusId × Coordinate)} (owner : String) (e : CompileError)
    (hfound : ∀ bus c, found = some (bus, c) →
      bus ∉ s.hbaBuses hba ∧ ∃ n, a.node? bus = some n ∧ n.isFree c = true) :
    Sparing hba (match found with
      | some (bus, c) => claim owner bus c
      | none => throw e) s a := by
  cases found with
  | none => exact ensures_throw hsa
  | some found =>
    obtain ⟨hbus, n, hn, hfree⟩ := hfound found.1 found.2 rfl
    refine sparing_claim hsa owner ((ensures_claim_free owner hn hfree).imp ?_)
    rintro p b ⟨rfl, hg⟩
    exact ⟨hbus, hg⟩

theorem sparing_firstOn {buses : List BusId} (owner : String) (e : CompileError)
    (hbuses : ∀ id ∈ buses, id ∉ s.hbaBuses hba) :
    Sparing hba (match firstOn? a buses with
      | some (bus, c) => claim owner bus c
      | none => throw e) s a :=
  sparing_found hsa owner e fun _ _ hfound =>
    ⟨hbuses _ (exists_of_firstOn? hfound).1, isFree_of_firstOn? hfound⟩

end Claims

section Devices

variable (h : a.Undisturbed) (owner : String)

include h

theorem notMem_of_listed (request : BusRequest) {kind : BusKind} {id : BusId}
    (hkind : request.listedKind = some kind) (hne : kind ≠ .scsi) (hisa : request ≠ .isaSerial)
    (hid : id ∈ a.busesFor request) : id ∉ a.hbaBuses hba := by
  obtain ⟨n, hn, hnkind⟩ := h.exists_listed request hkind hid hisa
  exact (Spares.refl a).notMem h ⟨n, hn, hnkind ▸ hne⟩

theorem Added.notMem {part : Part} (hadd : Added part a b) (hpart : part ≠ .hba hba)
    (hdue : ∀ buses controllers pciChain rootPorts pciePciBridge,
      let c := { a with buses, controllers, pciChain, rootPorts, pciePciBridge }
      part.Due c ∧ part.nodes c = part.nodes a) {n : BusNode} (hn : n ∈ part.nodes a)
    (hkind : n.bus.kind ≠ .scsi) : n.bus.id ∉ a.hbaBuses hba :=
  (Spares.added h hadd hpart).notMem h ⟨n, hadd.node? h hdue hn, hkind⟩

theorem sparing_placePci (kind : PciKind) : Sparing hba (placePci owner kind .empty) a a := by
  by_cases hp : a.family.hasPci = true
  · exact (failsOn_placePci_empty h.wired h.grounded owner kind hp).mono
      (fun _ _ hs => .sits h hs.2) fun _ _ he => Spares.of_eq he.2.1
  · apply ensures_get_bind
    rw [if_neg hp]
    exact ensures_unsupported fun _ => .refl a

theorem sparing_placeVirtio : Sparing hba (placeVirtio owner .empty) a a :=
  (failsOn_placeVirtio_empty h.wired h.grounded owner).mono (fun _ _ hs => .sits h hs.2)
    fun _ _ he => Spares.of_eq he.2.1

theorem FailsOn.sparing {x : Alloc α} {f : α → Alloc β} {part : Part} {P : Prop}
    {Q : α → Prop} (hx : FailsOn x a P fun v b => Q v ∧ Added part a b) (hpart : part ≠ .hba hba)
    (hf : ∀ v b, Q v → Added part a b → Spares hba a b → Sparing hba (f v) a b) :
    Sparing hba (x >>= f) a a := by
  refine Ensures.bind (hx.imp_error fun _ _ he => Spares.of_eq he.2.1) ?_
  rintro v b ⟨-, hv, hadd⟩
  exact hf v b hv hadd (.added h hadd hpart)

theorem sparing_placeIde (ahci : Bool) : Sparing hba (placeIde owner ahci .empty) a a := by
  obtain ⟨-, hgives⟩ | ⟨rfl, hnil, hfamily, hadds⟩ | ⟨-, -, what, hunsupported⟩ :=
    driveBuses_cases owner h.fitted ahci
  · refine Ensures.bind_ok hgives (sparing_firstOn (.refl a) owner _ fun id hid => ?_)
    cases ahci with
    | false => exact notMem_of_listed h .ide rfl nofun nofun hid
    | true => exact notMem_of_listed h .ahci rfl nofun nofun hid
  · have hp : a.family.hasPci = true := by
      obtain hfamily | hfamily := hfamily <;> rw [hfamily] <;> rfl
    refine Ensures.bind_congr hadds
      (FailsOn.sparing h (failsOn_ahciBuses h hnil hp) nofun ?_)
    rintro buses b rfl hadd hab
    refine ensures_get_bind (sparing_firstOn hab owner _ fun id hid => ?_)
    exact hadd.notMem h nofun (fun _ _ _ _ _ => ⟨⟨hnil, hfamily⟩, rfl⟩)
      (List.mem_map_of_mem (List.mem_map_of_mem hid)) nofun
  · exact Ensures.bind_congr hunsupported
      (Ensures.failing (ensures_unsupported fun _ => .refl a))

omit h in
theorem sparing_onUsb (hab : Spares hba a b) (controller : Option String)
    (hbuses : ∀ id ∈ b.busesFor (.usb none), id ∉ a.hbaBuses hba) :
    Sparing hba (do
      match ← usbBuses owner controller .empty with
      | [] =>
        unsupported ("USB device " ++ owner ++ " on a " ++ controller.getD "USB" ++ " controller")
      | first :: rest =>
        match PlacementHint.empty.usbPort with
        | some port => claim owner first (.port port)
        | none =>
          match firstOn? (← get) (first :: rest) with
          | some (bus, c) => claim owner bus c
          | none => throw (exhausted first)) a b := by
  have hgives : outcome (usbBuses owner controller .empty) b =
      (.ok (b.busesFor (.usb controller)), b) := rfl
  refine Ensures.bind_ok hgives ?_
  have hlisted : ∀ id ∈ b.busesFor (.usb controller), id ∉ a.hbaBuses hba :=
    fun id hid => hbuses id (busesFor_usb_subset controller hid)
  cases hlist : b.busesFor (.usb controller) with
  | nil => exact ensures_unsupported fun _ => hab
  | cons first rest =>
    rw [hlist] at hlisted
    exact sparing_firstOn hab owner _ hlisted

theorem sparing_placeUsb (controller : Option String) :
    Sparing hba (placeUsb owner controller .empty) a a := by
  apply ensures_get_bind
  by_cases hu : a.usb = []
  · rw [if_pos (by simpa using hu)]
    by_cases hp : a.family.hasPci = true
    · have hx := FailsOn.imp (failsOn_addUsb0 h hp) fun _ _ hadd => And.intro trivial hadd
      refine FailsOn.sparing h hx nofun fun _ b _ hadd hab => ?_
      refine sparing_onUsb owner hab controller fun id hid => ?_
      rw [hadd.eq_usb0 hu none id hid]
      exact hadd.notMem h nofun (fun _ _ _ _ _ => ⟨⟨hu, rfl, rfl, rfl, rfl⟩, rfl⟩)
        List.mem_cons_self nofun
    · refine Ensures.failing (Ensures.failing ?_)
      apply ensures_get_bind
      rw [if_neg hp]
      exact ensures_unsupported fun _ => .refl a
  · rw [if_neg (by simpa using hu)]
    exact sparing_onUsb owner (.refl a) controller fun id hid =>
      notMem_of_listed h (.usb none) rfl nofun nofun hid

theorem sparing_placeFloppy : Sparing hba (placeFloppy owner .empty) a a := by
  have hbus : Ensures (floppyBus owner) a
      (fun bus b => Spares hba a b ∧ bus ∉ a.hbaBuses hba) fun _ b => Spares hba a b := by
    apply ensures_get_bind
    cases hb : a.floppyBus with
    | some bus =>
      have hid : bus ∈ a.busesFor .floppy := Option.mem_toList.2 hb
      exact ensures_pure ⟨.refl a, notMem_of_listed h .floppy rfl nofun nofun hid⟩
    | none =>
      dsimp only
      split
      · rename_i hf
        have hdue : Part.Due a .fdc := ⟨hb, hf⟩
        have hn := Undisturbed.node?_install h.distinct hdue none List.mem_cons_self
        have hab : Spares hba a (Part.fdc.install a none) := .install .fdc nofun none
        have hother : (Part.fdc.install a none).ReachesOther "fdc0.0" := ⟨_, hn, nofun⟩
        exact ensures_modify_bind (ensures_modify_bind
          (ensures_pure ⟨hab, hab.notMem h hother⟩))
      · exact ensures_unsupported fun _ => .refl a
  refine hbus.bind ?_
  rintro bus b ⟨hab, hid⟩
  exact sparing_claimNext hab owner hid

theorem sparing_placeScsi {family : HbaFamily} (hne : family ≠ hba) :
    Sparing hba (placeScsi owner family .empty) a a := by
  have hother : ∀ id ∈ a.hbaBuses family, id ∉ a.hbaBuses hba := fun id hid =>
    (h.numbers family).disjoint (h.numbers hba) hne hid
  apply ensures_get_bind
  dsimp only
  split
  · exact Ensures.failing (ensures_unsupported fun _ => .refl a)
  · rename_i hlsi
    change Sparing hba (match firstScsi? a none none (a.hbaBuses family) with
      | some (bus, c) => claim owner bus c
      | none => do
        let bus ← addHba family
        match firstScsi? (← get) none none [bus] with
        | some (bus, c) => claim owner bus c
        | none => throw (.collision (.outOfRange owner bus (.scsi 0 0)))) a a
    cases hfound : firstScsi? a none none (a.hbaBuses family) with
    | some found =>
      obtain ⟨bus, c⟩ := found
      obtain ⟨n, hn, hfree⟩ := isFree_of_firstScsi? hfound
      refine sparing_claim (.refl a) owner ((ensures_claim_free owner hn hfree).imp ?_)
      rintro p b ⟨rfl, hg⟩
      exact ⟨hother bus (exists_of_firstScsi? hfound).1, hg⟩
    | none =>
      have hpci : family = .lsi → a.family.hasPci = true := by simpa using hlsi
      refine FailsOn.sparing h (failsOn_addHba h family hpci) (by simpa using hne) ?_
      rintro bus b rfl - hab
      refine ensures_get_bind (sparing_found hab owner _ fun bus c hfound => ?_)
      obtain rfl := List.mem_singleton.1 (exists_of_firstScsi? hfound).1
      refine ⟨?_, isFree_of_firstScsi? hfound⟩
      rw [adapterBus_next]
      exact (h.numbers hba).text_notMem (fun h => h) fun _ heq => hne (BusName.hba.inj heq).1

theorem sparing_placeIsaSerial : Sparing hba (placeIsaSerial owner) a a := by
  apply ensures_get_bind
  have hisa : isaBus ∉ a.hbaBuses hba :=
    (h.numbers hba).text_notMem (x := .isa) (fun h => h) nofun
  cases a.node? isaBus with
  | some n => exact sparing_claimNext (.refl a) owner hisa
  | none => exact ensures_unsupported fun _ => .refl a

theorem sparing_onVirtioSerial : Sparing hba (do claimNext owner (← virtioSerialBus)) a a := by
  cases hb : a.virtioSerialBus with
  | some bus =>
    have hid : bus ∈ a.busesFor .virtioSerial := Option.mem_toList.2 hb
    exact Ensures.bind_ok (outcome_virtioSerialBus hb) (sparing_claimNext (.refl a) owner
      (notMem_of_listed h .virtioSerial rfl nofun nofun hid))
  | none =>
    refine FailsOn.sparing h (failsOn_virtioSerialBus h hb) nofun ?_
    rintro bus b rfl hadd hab
    exact sparing_claimNext hab owner (hadd.notMem h nofun (fun _ _ _ _ _ => ⟨hb, rfl⟩)
      List.mem_cons_self nofun)

theorem sparing_place (request : BusRequest) (hne : request ≠ .scsi hba) :
    Sparing hba (place owner request .empty) a a := by
  have hsome : ∀ {x : Alloc Placement}, Sparing hba x a a → Sparing hba (some <$> x) a a := by
    intro x hx
    rw [map_eq_pure_bind]
    exact Ensures.bind hx fun _ _ hab => ensures_pure hab
  cases request with
  | none => exact ensures_pure (.refl a)
  | pci kind => exact hsome (sparing_placePci h owner kind)
  | virtio => exact hsome (sparing_placeVirtio h owner)
  | scsi family => exact hsome (sparing_placeScsi h owner fun heq => hne (congrArg _ heq))
  | ide => exact hsome (sparing_placeIde h owner false)
  | ahci => exact hsome (sparing_placeIde h owner true)
  | usb controller => exact hsome (sparing_placeUsb h owner controller)
  | floppy => exact hsome (sparing_placeFloppy h owner)
  | isaSerial => exact hsome (sparing_placeIsaSerial h owner)
  | virtioSerial =>
    have hx := hsome (sparing_onVirtioSerial h owner)
    rw [map_eq_pure_bind, bind_assoc] at hx
    exact hx

end Devices

end Alloc

end GuestSpec
