import GuestSpec.Proofs.Bus.Hierarchy
import GuestSpec.Proofs.Bus.Slots

/-!
# Moves on the PCI hierarchy

Every operation is a chain of moves. A PCI device is attached where there is a slot for it, or it
claims the place that it asks for. Other devices claim coordinates of listed buses, and other
controllers are put in when they have a seat. A move keeps a bridge and the device for which it was
put in together, so that the PCI hierarchy is in order after every move.
-/

namespace GuestSpec

open Alloc BusAllocator

/-- A move. Callers may ask for places on PCI buses or not, and give certain ids to USB
controllers. -/
inductive Move (asks : Prop) (named : String → Prop) (a b : BusAllocator) : Prop where
  | attached {owner : String} {p : Placement} (h : Attached a owner p b)
  | asked {ask : Option Placement} {owner : String} {p : Placement} (hasks : asks)
      (hg : Granted ask a owner p b)
  | claimed {request : BusRequest} {ask : Option Placement} {owner : String} {p : Placement}
      (hlisted : p.bus ∈ a.busesFor request) (hg : Granted ask a owner p b)
  | installed {part : Part} {placement : Option Placement} (hadm : part.Admitted a)
      (hpart : ¬part.IsBridge)
      (hnamed : ∀ id model ports ask, part = .usb id model ports ask → id = "usb0" ∨ named id)
      (hb : b = part.install a placement)

namespace BusCall

def hint : BusCall → PlacementHint
  | place _ _ hint => hint
  | addUsb _ _ _ hint => hint

def pciKind? : BusCall → Option PciKind
  | place _ (.pci kind) _ => some kind
  | place _ .virtio _ => some .express
  | place .. => none
  | addUsb _ model _ _ => some (if Text.occurs "xhci" model then .express else .conventional)

def Allowed (asks : Prop) (named : String → Prop) : BusCall → Prop
  | place _ _ hint => asks ∨ hint.IsPlain
  | addUsb id _ _ hint => (asks ∨ hint.IsPlain) ∧ named id

end BusCall

abbrev Moves (asks : Prop) (named : String → Prop) : BusAllocator → BusAllocator → Prop :=
  Relation.ReflTransGen (Move asks named)

/-- A machine with PCI, where every bus that is noted is there. -/
structure BusAllocator.Hosts (a : BusAllocator) : Prop where
  wired : a.Wired
  grounded : a.Grounded
  hasPci : a.family.hasPci = true

namespace Part

variable {a : BusAllocator} {part : Part} {placement : Option Placement}

theorem filter_controllers_install {p : Controller → Bool}
    (h : p (part.controller a placement) = false) :
    (part.install a placement).controllers.filter p = a.controllers.filter p := by
  rw [controllers_install, List.filter_append, List.append_right_eq_self]
  simp [h]

theorem noted_of_not_isBridge (a : BusAllocator) (placement : Option Placement)
    (hpart : ¬part.IsBridge) :
    (part.install a placement).pciChain = a.pciChain ∧
      (part.install a placement).rootPorts = a.rootPorts ∧
      (part.install a placement).pciePciBridge = a.pciePciBridge := by
  cases part with
  | rootPort | pcieBridge | pciBridge => exact absurd trivial hpart
  | _ => exact ⟨rfl, rfl, rfl⟩

theorem Admitted.extend (h : part.Admitted a) (hpart : ¬part.IsBridge) {buses : List BusNode}
    {controllers : List Controller} {pciChain : List BusId} {rootPorts : Nat}
    {pciePciBridge : Option BusId} :
    part.Admitted { a with buses, controllers, pciChain, rootPorts, pciePciBridge } := by
  cases part with
  | rootPort | pcieBridge | pciBridge => exact absurd trivial hpart
  | _ => exact h

end Part

namespace BusAllocator.Hosts

variable {a b : BusAllocator} {part : Part} {owner : String} {p : Placement}

theorem granted {ask : Option Placement} (h : a.Hosts) (hg : Granted ask a owner p b) :
    b.Hosts := by
  refine ⟨h.wired.granted hg, h.grounded.granted hg, ?_⟩
  obtain ⟨_, -, -, -, -, rfl⟩ := hg
  exact h.hasPci

theorem insertions {S : Part → Prop} (h : a.Hosts) (hi : Insertions S a b) : b.Hosts :=
  hi.induction (fun _ _ _ hdue hi h => ⟨h.wired.inserted (.inl hdue) hi,
    h.grounded.inserted (.inl hdue) hi, hi.family_eq.symm ▸ h.hasPci⟩) h

theorem attached (h : a.Hosts) (ht : Attached a owner p b) : b.Hosts := by
  obtain ⟨c, hac, hg⟩ := ht.placed
  exact (h.insertions hac).granted hg

theorem install (h : a.Hosts) (hadm : part.Admitted a) (hpart : ¬part.IsBridge)
    (placement : Option Placement) : (part.install a placement).Hosts := by
  have hgrows : Grows a (part.install a placement) := Grows.install placement
  obtain ⟨hchain, hcount, -⟩ := Part.noted_of_not_isBridge a placement hpart
  refine ⟨h.wired.install hadm placement, ⟨?_, ?_, ?_⟩, ?_⟩
  · exact h.grounded.root_of_grows hgrows part.family_install
  · obtain ⟨slots, hnodup, hlength, hslots⟩ := h.grounded.ports
    refine ⟨slots, hnodup, ?_, Grounded.slots_of_grows hgrows part.family_install hslots⟩
    rw [hlength, hcount]
  · rw [Part.family_install, hchain]
    exact h.grounded.chain
  · rw [Part.family_install]
    exact h.hasPci

variable {asks : Prop} {named : String → Prop}

theorem move (h : a.Hosts) (hm : Move asks named a b) : b.Hosts := by
  cases hm with
  | attached ht => exact h.attached ht
  | asked _ hg | claimed _ hg => exact h.granted hg
  | installed hadm hpart _ hb => exact hb ▸ h.install hadm hpart _

theorem moves (h : a.Hosts) (hm : Moves asks named a b) : b.Hosts := by
  induction hm with
  | refl => exact h
  | tail _ hm ih => exact ih.move hm

end BusAllocator.Hosts

namespace Alloc

variable {α : Type} {asks : Prop} {named : String → Prop} {s a : BusAllocator}

/-- An operation that is a chain of moves, whether or not it fails. -/
abbrev Does (asks : Prop) (named : String → Prop) (x : Alloc α) (s a : BusAllocator) : Prop :=
  Ensures x a (fun _ b => Moves asks named s b) fun _ b => Moves asks named s b

section Pci

variable (h : a.Hosts) (owner : String) {hint : PlacementHint} (hhint : asks ∨ hint.IsPlain)

include h hhint

theorem move_placePci (named : String → Prop) (kind : PciKind) :
    Ensures (placePci owner kind hint) a
      (fun p b => Move asks named a b ∧
        (Placed Part.IsBridge a owner p b ∨ ∃ ask, Granted ask a owner p b))
      fun _ b => b = a := by
  apply ensures_get_bind
  rw [if_pos h.hasPci]
  split
  · rename_i hgiven
    have hasks : asks := by
      refine hhint.resolve_right fun hplain => ?_
      rw [hplain.1, hplain.2] at hgiven
      cases hgiven
    apply ensures_get_bind
    cases a.node? (hint.pciBus.getD a.family.rootBus) with
    | none => exact ensures_throw rfl
    | some n =>
      dsimp only
      split
      · cases hint.pciAddr with
        | none =>
          refine (ensures_claimNext owner _ a).imp ?_
          rintro p b ⟨-, hg⟩
          exact ⟨.asked hasks hg, .inr ⟨_, hg⟩⟩
        | some addr =>
          refine (ensures_claim owner _ _ a).imp ?_
          rintro p b ⟨-, hg⟩
          exact ⟨.asked hasks hg, .inr ⟨_, hg⟩⟩
      · exact ensures_throw rfl
  · refine (failsOn_placePciNext h.wired h.grounded owner kind h.hasPci).mono ?_ fun _ _ h => h.2.1
    rintro p b ⟨-, ht⟩
    exact ⟨.attached ht, .inl ht.placed⟩

omit hhint in
theorem outcome_placeVirtio_eq (hint : PlacementHint) :
    outcome (placeVirtio owner hint) a = outcome (placePci owner .express hint) a := by
  rw [placeVirtio, outcome_get_bind, a.family.virtioTransport_of_hasPci h.hasPci]

end Pci

section Steps

variable (hs : s.Hosts) (hsa : Moves asks named s a)

include hsa

theorem does_claim {request : BusRequest} {bus : BusId} (owner : String) (c : Coordinate)
    (hbus : bus ∈ a.busesFor request) : Does asks named (claim owner bus c) s a := by
  refine (ensures_claim owner bus c a).mono ?_ ?_
  · rintro p b ⟨rfl, hg⟩
    exact hsa.tail (.claimed hbus hg)
  · rintro _ _ rfl
    exact hsa

theorem does_claimNext {request : BusRequest} {bus : BusId} (owner : String)
    (hbus : bus ∈ a.busesFor request) : Does asks named (claimNext owner bus) s a := by
  refine (ensures_claimNext owner bus a).mono ?_ ?_
  · rintro p b ⟨rfl, hg⟩
    exact hsa.tail (.claimed hbus hg)
  · rintro _ _ rfl
    exact hsa

theorem does_claimUnit {request : BusRequest} {bus : BusId} (owner : String) (number : UInt16)
    (hbus : bus ∈ a.busesFor request) : Does asks named (claimUnit owner bus number) s a := by
  unfold claimUnit
  split
  · exact does_claim hsa owner _ hbus
  · exact ensures_throw hsa

theorem does_found (request : BusRequest) {found : Option (BusId × Coordinate)}
    (owner : String) (e : CompileError)
    (hfound : ∀ bus c, found = some (bus, c) → bus ∈ a.busesFor request) :
    Does asks named (match found with
      | some (bus, c) => claim owner bus c
      | none => throw e) s a := by
  cases found with
  | none => exact ensures_throw hsa
  | some found => exact does_claim hsa owner found.2 (hfound _ _ rfl)

include hs

theorem does_placePci (owner : String) (kind : PciKind) {hint : PlacementHint}
    (hhint : asks ∨ hint.IsPlain) : Does asks named (placePci owner kind hint) s a :=
  (move_placePci (hs.moves hsa) owner hhint named kind).mono (fun _ _ h => hsa.tail h.1)
    fun _ _ h => h ▸ hsa

theorem does_placeVirtio (owner : String) {hint : PlacementHint} (hhint : asks ∨ hint.IsPlain) :
    Does asks named (placeVirtio owner hint) s a := by
  have hx := does_placePci hs hsa owner .express hhint
  unfold Does Ensures at hx ⊢
  rwa [outcome_placeVirtio_eq (hs.moves hsa)]

theorem does_added (part : Part) {f : Placement → Alloc α} {v : α} (kind : PciKind)
    {hint : PlacementHint} (hhint : asks ∨ hint.IsPlain) (hadm : part.Admitted a)
    (hpart : ¬part.IsBridge)
    (hnamed : ∀ id model ports ask, part = .usb id model ports ask → id = "usb0" ∨ named id)
    (hf : Records f part a v) :
    Does asks named (placePci (part.id a) kind hint >>= f) s a := by
  refine Ensures.bind ((move_placePci (hs.moves hsa) _ hhint named kind).imp_error ?_) ?_
  · rintro _ _ rfl
    exact hsa
  · rintro p b ⟨hmove, hwhere⟩
    have hb : ∃ buses controllers pciChain rootPorts pciePciBridge,
        b = { a with buses, controllers, pciChain, rootPorts, pciePciBridge } := by
      obtain hplaced | ⟨ask, n, -, -, -, -, rfl⟩ := hwhere
      · exact hplaced.eq_with
      · exact ⟨_, _, _, _, _, rfl⟩
    obtain ⟨buses, controllers, pciChain, rootPorts, bridge, hb⟩ := hb
    have hrecord : part.Admitted b ∧ outcome (f p) b = (.ok v, part.install b (some p)) := by
      rw [hb]
      exact ⟨hadm.extend hpart, hf buses controllers pciChain rootPorts bridge p⟩
    rw [Ensures, hrecord.2]
    exact (hsa.tail hmove).tail (.installed hrecord.1 hpart hnamed rfl)

/-! ## Controllers on demand -/

theorem does_addedVirtio (part : Part) {f : Placement → Alloc α} {v : α} (hadm : part.Admitted a)
    (hpart : ¬part.IsBridge)
    (hnamed : ∀ id model ports ask, part = .usb id model ports ask → id = "usb0" ∨ named id)
    (hf : Records f part a v) :
    Does asks named (placeVirtio (part.id a) .empty >>= f) s a :=
  Ensures.bind_congr (outcome_placeVirtio_eq (hs.moves hsa) _ .empty)
    (does_added hs hsa part .express (.inr ⟨rfl, rfl⟩) hadm hpart hnamed hf)

theorem does_addHba (family : HbaFamily) : Does asks named (addHba family) s a := by
  have hp := (hs.moves hsa).hasPci
  apply ensures_get_bind
  cases family with
  | virtioScsi =>
    exact does_addedVirtio hs hsa (.hba .virtioScsi) (.inl nofun) id nofun fun _ _ _ _ _ _ => rfl
  | lsi =>
    exact does_added hs hsa (.hba .lsi) .conventional (.inr ⟨rfl, rfl⟩) (.inl fun _ => hp) id nofun
      fun _ _ _ _ _ _ => rfl

omit hsa in
theorem does_addHbas (family : HbaFamily) (count : Nat) (a : BusAllocator)
    (hsa : Moves asks named s a) : Does asks named (addHbas family count) s a := by
  induction count generalizing a with
  | zero => exact ensures_pure hsa
  | succ count ih => exact Ensures.bind (does_addHba hs hsa family) fun _ b hsb => ih b hsb

theorem does_hbaAt (owner : String) (family : HbaFamily) (index : Nat) :
    Does asks named (hbaAt owner family index) s a := by
  apply ensures_get_bind
  refine Ensures.bind (does_addHbas hs family _ a hsa) fun _ b hsb => ensures_get_bind ?_
  cases (b.hbaBuses family)[index]? with
  | some bus => exact ensures_pure hsb
  | none => exact ensures_throw hsb

theorem does_ahciBuses (hf : a.family = .i440fx ∨ a.family = .armVirt false) :
    Does asks named ahciBuses s a := by
  apply ensures_get_bind
  by_cases hb : a.ahciBuses = []
  · rw [if_pos (by simpa using hb)]
    exact does_added hs hsa .ahci .integrated (.inr ⟨rfl, rfl⟩) (.inl ⟨hb, hf⟩) id nofun
      fun _ _ _ _ _ _ => rfl
  · rw [if_neg (by simpa using hb)]
    exact ensures_pure hsa

theorem does_driveBuses (owner : String) (ahci : Bool) :
    Does asks named (driveBuses owner ahci) s a := by
  apply ensures_get_bind
  split
  · exact ensures_pure hsa
  · exact ensures_pure hsa
  · exact ensures_pure hsa
  · rename_i hf
    exact does_ahciBuses hs hsa (.inl hf)
  · rename_i hf
    exact does_ahciBuses hs hsa (.inr hf)
  · exact ensures_unsupported fun _ => hsa
  · exact ensures_unsupported fun _ => hsa

theorem does_virtioSerialBus : Does asks named virtioSerialBus s a := by
  apply ensures_get_bind
  cases hb : a.virtioSerialBus with
  | some bus => exact ensures_pure hsa
  | none =>
    exact does_addedVirtio hs hsa .virtioSerial (.inl hb) id nofun fun _ _ _ _ _ _ => rfl

omit hs in
theorem does_floppyBus (owner : String) : Does asks named (floppyBus owner) s a := by
  apply ensures_get_bind
  cases hb : a.floppyBus with
  | some bus => exact ensures_pure hsa
  | none =>
    dsimp only
    split
    · rename_i hf
      have hadm : Part.Admitted a .fdc := .inl ⟨hb, hf⟩
      have hmove : Move asks named a (Part.fdc.install a none) := .installed hadm id nofun rfl
      exact hsa.tail hmove
    · exact ensures_unsupported fun _ => hsa

theorem does_addUsbController (id model : String) (ports : UInt8) {hint : PlacementHint}
    (hhint : asks ∨ hint.IsPlain) (hid : id = "usb0" ∨ named id) :
    Does asks named (addUsbController id model ports hint) s a := by
  unfold addUsbController
  refine does_added hs hsa (.usb id model ports none) _ hhint (.inr ⟨_, _, _, _, rfl⟩)
    (fun h => h) ?_ fun _ _ _ _ _ _ => rfl
  rintro _ _ _ _ ⟨⟩
  exact hid

/-! ## Devices -/

theorem does_placeScsi (owner : String) (family : HbaFamily) (hint : PlacementHint) :
    Does asks named (placeScsi owner family hint) s a := by
  apply ensures_get_bind
  dsimp only
  split
  · exact Ensures.failing (ensures_unsupported fun _ => hsa)
  · split
    · refine Ensures.bind (((does_hbaAt hs hsa owner family _).and
        (gives_hbaAt owner family _)).imp_error fun _ _ h => h.1) ?_
      rintro bus b ⟨hsb, hbus⟩
      have hmem := List.mem_of_getElem? hbus
      split
      · exact does_claim hsb owner _ hmem
      · refine ensures_get_bind (does_found hsb (.scsi family) owner _ ?_)
        intro bus' c hfound
        obtain rfl := List.mem_singleton.1 (exists_of_firstScsi? hfound).1
        exact hmem
    · cases hfound : firstScsi? a none none (a.hbaBuses family) with
      | some found =>
        have hmem : found.1 ∈ a.busesFor (.scsi family) := (exists_of_firstScsi? hfound).1
        exact does_claim hsa owner found.2 hmem
      | none =>
        refine Ensures.bind (((does_addHba hs hsa family).and
          (gives_addHba family)).imp_error fun _ _ h => h.1) ?_
        rintro bus b ⟨hsb, hmem⟩
        refine ensures_get_bind (does_found hsb (.scsi family) owner _ ?_)
        intro bus' c hfound
        obtain rfl := List.mem_singleton.1 (exists_of_firstScsi? hfound).1
        exact hmem

theorem does_placeIde (owner : String) (ahci : Bool) (hint : PlacementHint) :
    Does asks named (placeIde owner ahci hint) s a := by
  refine Ensures.bind (((does_driveBuses hs hsa owner ahci).and
    (gives_driveBuses owner ahci)).imp_error fun _ _ h => h.1) ?_
  rintro buses b ⟨hsb, rfl⟩
  cases hint.driveBus with
  | some index =>
    dsimp only
    cases hbus : (b.busesFor (.ofDrive ahci))[index.toNat]? with
    | none => exact ensures_throw hsb
    | some bus =>
      have hmem := List.mem_of_getElem? hbus
      cases hint.driveUnit with
      | some number => exact does_claimUnit hsb owner number hmem
      | none => exact does_claimNext hsb owner hmem
  | none =>
    exact ensures_get_bind (does_found hsb _ owner _ fun bus c hfound =>
      (exists_of_firstOn? hfound).1)

omit hs in
theorem does_usbBuses (owner : String) (controller : Option String) (hint : PlacementHint) :
    Does asks named (usbBuses owner controller hint) s a := by
  apply ensures_get_bind
  cases hint.usbBus with
  | some bus =>
    dsimp only
    split
    · exact ensures_pure hsa
    · exact ensures_throw hsa
  | none => exact ensures_pure hsa

omit hs in
theorem does_onUsb (owner : String) (controller : Option String) (hint : PlacementHint) :
    Does asks named (do
      match ← usbBuses owner controller hint with
      | [] =>
        unsupported ("USB device " ++ owner ++ " on a " ++ controller.getD "USB" ++ " controller")
      | first :: rest =>
        match hint.usbPort with
        | some port => claim owner first (.port port)
        | none =>
          match firstOn? (← get) (first :: rest) with
          | some (bus, c) => claim owner bus c
          | none => throw (exhausted first)) s a := by
  refine Ensures.bind (((does_usbBuses hsa owner controller hint).and
    (gives_usbBuses owner controller hint)).imp_error fun _ _ h => h.1) ?_
  rintro buses b ⟨hsb, -, hbuses, -⟩
  cases buses with
  | nil => exact ensures_unsupported fun _ => hsb
  | cons first rest =>
    cases hint.usbPort with
    | some port => exact does_claim hsb owner _ (hbuses List.mem_cons_self)
    | none =>
      exact ensures_get_bind (does_found hsb _ owner _ fun bus c hfound =>
        hbuses (exists_of_firstOn? hfound).1)

theorem does_placeUsb (owner : String) (controller : Option String) (hint : PlacementHint) :
    Does asks named (placeUsb owner controller hint) s a := by
  apply ensures_get_bind
  by_cases hu : a.usb = []
  · rw [if_pos (by simpa using hu)]
    exact Ensures.bind (does_addUsbController hs hsa "usb0" "qemu-xhci" 4 (.inr ⟨rfl, rfl⟩)
      (.inl rfl)) fun _ b hsb => does_onUsb hsb owner controller hint
  · rw [if_neg (by simpa using hu)]
    exact does_onUsb hsa owner controller hint

omit hs in
theorem does_placeFloppy (owner : String) (hint : PlacementHint) :
    Does asks named (placeFloppy owner hint) s a := by
  refine Ensures.bind (((does_floppyBus hsa owner).and (gives_floppyBus owner)).imp_error
    fun _ _ h => h.1) ?_
  rintro bus b ⟨hsb, hbuses⟩
  have hmem : bus ∈ b.busesFor .floppy := hbuses ▸ List.mem_cons_self
  cases hint.driveUnit with
  | some number => exact does_claimUnit hsb owner number hmem
  | none => exact does_claimNext hsb owner hmem

omit hs in
theorem does_placeIsaSerial (owner : String) : Does asks named (placeIsaSerial owner) s a := by
  apply ensures_get_bind
  cases a.node? isaBus with
  | some _ =>
    have hmem : isaBus ∈ a.busesFor .isaSerial := List.mem_cons_self
    exact does_claimNext hsa owner hmem
  | none => exact ensures_unsupported fun _ => hsa

theorem does_onVirtioSerial (owner : String) :
    Does asks named (do claimNext owner (← virtioSerialBus)) s a := by
  refine Ensures.bind (((does_virtioSerialBus hs hsa).and gives_virtioSerialBus).imp_error
    fun _ _ h => h.1) ?_
  rintro bus b ⟨hsb, hbuses⟩
  exact does_claimNext hsb owner (hbuses ▸ List.mem_cons_self)

theorem does_place (owner : String) (request : BusRequest) {hint : PlacementHint}
    (hhint : asks ∨ hint.IsPlain) : Does asks named (place owner request hint) s a := by
  have hsome : ∀ {x : Alloc Placement}, Does asks named x s a →
      Does asks named (some <$> x) s a := by
    intro x hx
    rw [map_eq_pure_bind]
    exact Ensures.bind hx fun _ _ hsb => ensures_pure hsb
  cases request with
  | none => exact ensures_pure hsa
  | pci kind => exact hsome (does_placePci hs hsa owner kind hhint)
  | virtio => exact hsome (does_placeVirtio hs hsa owner hhint)
  | scsi family => exact hsome (does_placeScsi hs hsa owner family hint)
  | ide => exact hsome (does_placeIde hs hsa owner false hint)
  | ahci => exact hsome (does_placeIde hs hsa owner true hint)
  | usb controller => exact hsome (does_placeUsb hs hsa owner controller hint)
  | floppy => exact hsome (does_placeFloppy hsa owner hint)
  | isaSerial => exact hsome (does_placeIsaSerial hsa owner)
  | virtioSerial =>
    have hx := hsome (does_onVirtioSerial hs hsa owner)
    rw [map_eq_pure_bind, bind_assoc] at hx
    exact hx

theorem does_perform {call : BusCall} (hcall : call.Allowed asks named) :
    Does asks named call.perform s a := by
  cases call with
  | place owner request hint => exact does_place hs hsa owner request hcall
  | addUsb id model ports hint =>
    exact Ensures.bind (does_addUsbController hs hsa id model ports hcall.1 (.inr hcall.2))
      fun _ _ hsb => ensures_pure hsb

end Steps

/-- A PCI device or a USB controller whose hint says nothing about PCI buses is refused exactly when
there is no slot for its kind. -/
theorem failsOn_perform (h : a.Hosts) {call : BusCall} {kind : PciKind}
    (hkind : call.pciKind? = some kind) (hhint : call.hint.IsPlain) :
    FailsOn call.perform a (a.PciFull kind) fun _ _ => True := by
  have hplace := fun owner kind => failsOn_placePci h.wired h.grounded owner kind h.hasPci hhint
  cases call with
  | place owner request hint =>
    have hsome : ∀ {x : Alloc Placement}, FailsOn x a (a.PciFull kind) (Attached a owner) →
        FailsOn (some <$> x) a (a.PciFull kind) fun _ _ => True := by
      intro x hx
      rw [map_eq_pure_bind]
      exact hx.bind fun _ _ _ => ensures_pure trivial
    cases request with
    | pci kind' =>
      obtain rfl := Option.some.inj hkind
      exact hsome (hplace owner kind')
    | virtio =>
      obtain rfl := Option.some.inj hkind
      refine hsome ?_
      unfold FailsOn Ensures
      rw [outcome_placeVirtio_eq h]
      exact hplace owner .express
    | _ => cases hkind
  | addUsb id model ports hint =>
    obtain rfl := Option.some.inj hkind
    refine FailsOn.bind (Q := fun _ _ => True) ((hplace id _).bind fun _ _ _ => ?_)
      fun _ _ _ => ensures_pure trivial
    exact ensures_modify_bind trivial

end Alloc

theorem BusAllocator.Hosts.start {family : MachineFamily} (hp : family.hasPci = true)
    (machine : String) (config : AllocatorConfig) :
    (BusAllocator.start family machine config).Hosts :=
  ⟨.start family machine config, .start family machine config, hp⟩

/-- A run of calls that are allowed is a chain of moves. -/
theorem BusAllocator.Hosts.moves_afterAll {a : BusAllocator} {asks : Prop} {named : String → Prop}
    (h : a.Hosts) {calls : List BusCall} (hcalls : ∀ call ∈ calls, call.Allowed asks named) :
    Moves asks named a (a.afterAll calls) := by
  induction calls generalizing a with
  | nil => exact .refl
  | cons call calls ih =>
    have hafter : Moves asks named a (a.after call) := by
      have hdoes := does_perform h .refl (hcalls call List.mem_cons_self)
      rw [BusAllocator.after]
      cases hout : outcome call.perform a with
      | mk r b =>
        cases r with
        | ok v => exact hdoes.ok hout
        | error e => exact hdoes.error hout
    exact hafter.trans
      (ih (h.moves hafter) fun call hcall => hcalls call (List.mem_cons_of_mem _ hcall))

end GuestSpec
