import GuestSpec.Proofs.Bus.Grounded

/-!
# Operations as chains of steps

Every operation that places a device is a chain of insertions that the allocator makes on its own,
followed by the claim of the device when it succeeds and by nothing when it fails. In particular no
operation stops between the claim of a seat and the insertion of the controller that sits there.
Each operation is entered at some point `a` of a chain that began at `s`.
-/

namespace GuestSpec

def PlacementHint.asked (hint : PlacementHint) (family : MachineFamily) : Option Placement :=
  if family.hasPci then
    hint.pciAddr.map fun addr => ⟨hint.pciBus.getD family.rootBus, .pci addr⟩
  else none

@[simp] theorem PlacementHint.asked_empty (family : MachineFamily) :
    PlacementHint.empty.asked family = none := by
  rw [asked]
  exact ite_self none

def BusRequest.asked (request : BusRequest) (family : MachineFamily) (hint : PlacementHint) :
    Option Placement :=
  match request with
  | .pci _ | .virtio => hint.asked family
  | _ => .none

namespace Alloc

variable {α : Type} {s a : BusAllocator} {S : Part → Prop}

/-- A chain of insertions, and then the claim of a device at a coordinate that may be given out. -/
def Placed (S : Part → Prop) (s : BusAllocator) (owner : String) (p : Placement)
    (b : BusAllocator) : Prop :=
  ∃ c, Insertions S s c ∧ Granted none c owner p b

/-- An operation after which there is one more placed device, or a longer chain of insertions. -/
abbrev Seats (x : Alloc Placement) (S : Part → Prop) (s : BusAllocator) (owner : String)
    (a : BusAllocator) : Prop :=
  Ensures x a (Placed S s owner) (fun _ b => Insertions S s b)

/-- The same for a device that may ask for a place, which it gets at once. -/
abbrev SeatsAt (x : Alloc Placement) (S : Part → Prop) (ask : Option Placement) (s : BusAllocator)
    (owner : String) (a : BusAllocator) : Prop :=
  Ensures x a (fun p b => Placed S s owner p b ∨ ask = some p ∧ Granted ask a owner p b)
    (fun _ b => Insertions S s b)

/-- An operation that does nothing but insert controllers. -/
abbrev Inserts (x : Alloc α) (S : Part → Prop) (s a : BusAllocator) : Prop :=
  Ensures x a (fun _ b => Insertions S s b) (fun _ b => Insertions S s b)

theorem Seats.of_claim {x : Alloc Placement} {owner : String} {P : Placement → Prop}
    (hsa : Insertions S s a)
    (hx : Ensures x a (fun p b => P p ∧ Granted none a owner p b) (fun _ b => b = a)) :
    Seats x S s owner a := by
  refine hx.mono ?_ ?_
  · rintro p b ⟨-, hg⟩
    exact ⟨a, hsa, hg⟩
  · rintro _ _ rfl
    exact hsa

theorem Seats.at {x : Alloc Placement} {owner : String} (ask : Option Placement)
    (hx : Seats x S s owner a) : SeatsAt x S ask s owner a :=
  hx.imp fun _ _ h => .inl h

theorem SeatsAt.of_none {x : Alloc Placement} {owner : String}
    (hx : SeatsAt x S none s owner a) : Seats x S s owner a :=
  hx.imp fun _ _ h => h.resolve_right fun h => nomatch h.1

theorem seats_claimNext (owner : String) (bus : BusId) (hsa : Insertions S s a) :
    Seats (claimNext owner bus) S s owner a :=
  .of_claim hsa (ensures_claimNext owner bus a)

/-- An operation that claims a seat and then records the part that sits there is one more
insertion. -/
theorem Ensures.install {x : Alloc Placement} {f : Placement → Alloc α}
    {P : Placement → BusAllocator → Prop} (part : Part)
    (hx : Ensures x a P (fun _ b => Insertions S s b)) (hS : S part)
    (hP : ∀ p b, P p b → ∃ c, Insertions S s c ∧ part.Due c ∧ Seated part c (some p) b ∧
      ∃ v, outcome (f p) b = (.ok v, part.install b (some p))) :
    Inserts (x >>= f) S s a := by
  refine hx.bind fun p b hp => ?_
  obtain ⟨c, hsc, hdue, hseat, v, hf⟩ := hP p b hp
  rw [Ensures, hf]
  exact hsc.tail ⟨part, hS, hdue, some p, b, hseat, rfl⟩

theorem inserts_claimNext {f : Placement → Alloc α} {bus : BusId} (part : Part)
    (hsa : Insertions S s a) (hS : S part) (hdue : part.Due a) (hne : part ≠ .fdc)
    (hask : part.ask = none) (hsite : ∀ p, p.bus = bus → part.Site a p)
    (hf : ∀ p c, ∃ v, outcome (f p) (a.addClaim p.bus c (part.id a)) =
      (.ok v, part.install (a.addClaim p.bus c (part.id a)) (some p))) :
    Inserts (claimNext (part.id a) bus >>= f) S s a := by
  refine Ensures.install part ((ensures_claimNext _ _ a).imp_error ?_) hS ?_
  · rintro _ _ rfl
    exact hsa
  · rintro p b ⟨hbus, hg⟩
    refine ⟨a, hsa, hdue, ⟨hne, hsite p hbus, hask ▸ hg⟩, ?_⟩
    obtain ⟨n, -, -, -, -, rfl⟩ := hg
    exact hf p p.coordinate

/-! ## PCI -/

theorem inserts_addRootPort (hS : S .rootPort) (hs : s.Grounded) (hsa : Insertions S s a)
    (hx : a.family.isExpress = true) (hr : a.config.rootPorts = true) :
    Inserts addRootPort S s a := by
  -- the number of a root port always fits, so that its seat is not claimed in vain
  have hports := (hs.insertions hsa).rootPorts_le
  apply ensures_get_bind
  refine inserts_claimNext .rootPort hsa hS ⟨hx, hr⟩ nofun rfl (fun _ h => h) fun p c => ?_
  dsimp only
  rw [if_neg (by omega)]
  exact ⟨_, rfl⟩

theorem seats_placePciAt (owner : String) (bus : BusId) (addr : Option PciAddress)
    (hsa : Insertions S s a) :
    SeatsAt (placePciAt owner bus addr) S (addr.map fun addr => ⟨bus, .pci addr⟩) s owner a := by
  apply ensures_get_bind
  cases a.node? bus with
  | none => exact ensures_throw hsa
  | some n =>
    dsimp only
    split
    · cases addr with
      | none => exact (seats_claimNext owner bus hsa).at _
      | some addr =>
        refine (ensures_claim owner bus (.pci addr) a).mono ?_ ?_
        · rintro p b ⟨rfl, hg⟩
          exact .inr ⟨rfl, hg⟩
        · rintro _ _ rfl
          exact hsa
    · exact ensures_throw hsa

section Pci

variable (hS : ∀ part, part.IsBridge → S part) (hs : s.Grounded) (hsa : Insertions S s a)

include hS hs hsa

theorem inserts_pciePciBridge (hx : a.family.isExpress = true)
    (hc : a.config.pciePciBridge = true) : Inserts pciePciBridge S s a := by
  apply ensures_get_bind
  cases hb : a.pciePciBridge with
  | some bus => exact ensures_pure hsa
  | none =>
    dsimp only
    by_cases hr : a.config.rootPorts = true
    · rw [if_pos hr]
      -- only the root port comes between, so that the bridge is still due
      have hport : Inserts addRootPort (· = .rootPort) a a :=
        inserts_addRootPort rfl (hs.insertions hsa) .refl hx hr
      have hmono : ∀ b, Insertions (· = .rootPort) a b → Insertions S s b := by
        intro b hab
        refine hsa.trans (hab.mono ?_)
        rintro _ rfl
        exact hS _ trivial
      refine (hport.imp_error fun _ b => hmono b).bind fun parent b hab => ?_
      have hdue : Part.Due b .pcieBridge :=
        ⟨hab.family_eq ▸ hx, hab.config_eq ▸ hc, (hab.pciePciBridge_eq nofun).trans hb⟩
      exact inserts_claimNext .pcieBridge (hmono b hab) (hS _ trivial) hdue nofun rfl
        (fun _ _ => trivial) fun p c => ⟨_, rfl⟩
    · rw [if_neg hr]
      exact inserts_claimNext .pcieBridge hsa (hS _ trivial) ⟨hx, hc, hb⟩ nofun rfl
        (fun _ _ => trivial) fun p c => ⟨_, rfl⟩

omit hs in
theorem inserts_addPciBridge (hx : a.family.isExpress = false) (hchain : a.pciChain ≠ []) :
    Inserts (addPciBridge a.newest) S s a := by
  apply ensures_get_bind
  cases hslot : (a.node? a.newest).bind (·.freeSlots.getLast?) with
  | none => exact ensures_throw hsa
  | some slot =>
    dsimp only
    -- the number of a bridge is checked before its seat is claimed
    by_cases hn : a.pciChain.length - 1 < 255
    · rw [if_pos hn]
      obtain ⟨n, hnode, hlast⟩ := Option.bind_eq_some_iff.1 hslot
      have hfree : n.isFree (.pci ⟨slot, 0⟩) = true := by
        simpa [BusNode.isFree] using
          BusNode.slotTaken_of_mem_freeSlots (List.mem_of_getLast? hlast)
      have hlength : a.pciChain.length ≤ 255 := by
        have := List.length_pos_of_ne_nil hchain
        omega
      refine Ensures.install .pciBridge
        ((ensures_claim_free _ hnode hfree).imp_error ?_) (hS _ trivial) ?_
      · rintro _ _ rfl
        exact hsa
      · rintro p b ⟨rfl, hg⟩
        refine ⟨a, hsa, ⟨hx, hchain, hlength⟩, ⟨by simp, ⟨n, slot, hnode, hlast, rfl⟩, hg⟩, ?_⟩
        obtain ⟨_, -, -, -, -, rfl⟩ := hg
        exact ⟨_, rfl⟩
    · rw [if_neg hn]
      exact ensures_throw hsa

theorem seats_placeFlat (owner : String) (hp : a.family.hasPci = true)
    (hx : a.family.isExpress = false) : Seats (placeFlat owner) S s owner a := by
  apply ensures_get_bind
  have hchain := (hs.insertions hsa).chain hp hx
  dsimp only
  split
  · exact seats_claimNext owner _ hsa
  · exact (inserts_addPciBridge hS hsa hx hchain).bind fun bus b hsb =>
      seats_claimNext owner bus hsb

theorem seats_placePciNext (owner : String) (kind : PciKind) (hp : a.family.hasPci = true) :
    Seats (placePciNext owner kind) S s owner a := by
  apply ensures_get_bind
  by_cases hx : a.family.isExpress = true
  · rw [if_pos hx]
    cases kind with
    | express =>
      dsimp only
      split
      · rename_i hr
        exact (inserts_addRootPort (hS _ trivial) hs hsa hx hr).bind fun bus b hsb =>
          seats_claimNext owner bus hsb
      · exact seats_claimNext owner _ hsa
    | conventional =>
      dsimp only
      split
      · rename_i hc
        exact (inserts_pciePciBridge hS hs hsa hx hc).bind fun bus b hsb =>
          seats_claimNext owner bus hsb
      · exact seats_claimNext owner _ hsa
    | integrated => exact seats_claimNext owner _ hsa
  · rw [if_neg hx]
    exact seats_placeFlat hS hs hsa owner hp (by simpa using hx)

theorem seats_placePci (owner : String) (kind : PciKind) (hint : PlacementHint) :
    SeatsAt (placePci owner kind hint) S (hint.asked a.family) s owner a := by
  apply ensures_get_bind
  by_cases hp : a.family.hasPci = true
  · rw [if_pos hp, PlacementHint.asked, if_pos hp]
    split
    · exact seats_placePciAt owner _ hint.pciAddr hsa
    · exact (seats_placePciNext hS hs hsa owner kind hp).at _
  · rw [if_neg hp]
    exact ensures_unsupported fun _ => hsa

theorem seats_placePci_empty (owner : String) (kind : PciKind) :
    Seats (placePci owner kind .empty) S s owner a := by
  have h := seats_placePci hS hs hsa owner kind .empty
  rw [PlacementHint.asked_empty] at h
  exact SeatsAt.of_none h

theorem seats_placeVirtio (owner : String) (hint : PlacementHint) :
    SeatsAt (placeVirtio owner hint) S (hint.asked a.family) s owner a := by
  apply ensures_get_bind
  cases a.family.virtioTransport with
  | pci => exact seats_placePci hS hs hsa owner .express hint
  | ccw | mmio => exact (seats_claimNext owner _ hsa).at _

theorem seats_placeVirtio_empty (owner : String) :
    Seats (placeVirtio owner .empty) S s owner a := by
  have h := seats_placeVirtio hS hs hsa owner .empty
  rw [PlacementHint.asked_empty] at h
  exact SeatsAt.of_none h

end Pci

/-! ## Controllers on demand -/

/-- A controller is recorded after its seat was claimed at the end of a chain that extends the PCI
hierarchy. Nothing that the allocator has noted about other parts changes meanwhile. -/
theorem ensures_record {y : Alloc α} {b c : BusAllocator} {p : Placement}
    {E : CompileError → BusAllocator → Prop} (part : Part) (hne : part ≠ .fdc)
    (hsite : part.Site c p) (hac : Bridges a c) (hg : Granted part.ask c (part.id a) p b)
    (hy : ∀ buses controllers pciChain rootPorts pciePciBridge,
      let b := { a with buses, controllers, pciChain, rootPorts, pciePciBridge }
      part.id b = part.id a ∧ ∃ v, outcome y b = (.ok v, part.install b (some p))) :
    Ensures y b (fun _ b => Inserted part c b) E := by
  obtain ⟨buses, controllers, pciChain, rootPorts, bridge, hc⟩ := Bridges.eq_with hac
  have hid : part.id c = part.id a := hc ▸ (hy _ _ _ _ _).1
  have hseat : Seated part c (some p) b := ⟨hne, hsite, hid ▸ hg⟩
  have hb : b = { a with
      buses := b.buses, controllers, pciChain, rootPorts, pciePciBridge := bridge } := by
    rw [hseat.eq_with, hc]
  obtain ⟨-, v, hv⟩ := hy b.buses controllers pciChain rootPorts bridge
  rw [Ensures, hb, hv]
  exact ⟨some p, _, hb ▸ hseat, rfl⟩

theorem ensures_behind {x : Alloc Placement} {f : Placement → Alloc α} {part : Part}
    (hne : part ≠ .fdc) (hask : part.ask = none) (hsite : ∀ c p, part.Site c p)
    (hx : Seats x Part.IsBridge a (part.id a) a)
    (hf : ∀ buses controllers pciChain rootPorts pciePciBridge p,
      let b := { a with buses, controllers, pciChain, rootPorts, pciePciBridge }
      part.id b = part.id a ∧ ∃ v, outcome (f p) b = (.ok v, part.install b (some p))) :
    Ensures (x >>= f) a (fun _ b => ∃ c, Bridges a c ∧ Inserted part c b)
      (fun _ b => Bridges a b) := by
  apply hx.bind
  rintro p b ⟨c, hac, hg⟩
  rw [← hask] at hg
  refine Ensures.imp ?_ fun _ _ hi => ⟨c, hac, hi⟩
  exact ensures_record part hne (hsite c p) hac hg fun _ _ _ _ _ => hf _ _ _ _ _ p

theorem Inserts.of_behind {x : Alloc α} (part : Part) (hS : ∀ part, part.IsBridge → S part)
    (hsa : Insertions S s a) (hpart : S part)
    (hdue : ∀ buses controllers pciChain rootPorts pciePciBridge,
      part.Due { a with buses, controllers, pciChain, rootPorts, pciePciBridge })
    (hx : Ensures x a (fun _ b => ∃ c, Bridges a c ∧ Inserted part c b) (fun _ b => Bridges a b)) :
    Inserts x S s a := by
  have hmono : ∀ b, Bridges a b → Insertions S s b := fun b hab => hsa.trans (hab.mono hS)
  refine hx.mono ?_ fun _ b => hmono b
  rintro _ b ⟨c, hac, hi⟩
  obtain ⟨_, _, _, _, _, hc⟩ := Bridges.eq_with hac
  exact (hmono c hac).tail ⟨part, hpart, hc ▸ hdue _ _ _ _ _, hi⟩

section Demand

variable (hs : s.Grounded) (hsa : AnyInsertions s a)

theorem any_of_bridge : ∀ part : Part, part.IsBridge → (fun _ : Part => True) part :=
  fun _ _ => trivial

include hs hsa

theorem inserts_addHba (family : HbaFamily) (hf : family = .lsi → s.family.hasPci = true) :
    Inserts (addHba family) (fun _ => True) s a := by
  have ha := hs.insertions hsa
  rw [← Insertions.family_eq hsa] at hf
  apply ensures_get_bind
  cases family with
  | virtioScsi =>
    exact Inserts.of_behind (.hba .virtioScsi) any_of_bridge hsa trivial
      (fun _ _ _ _ _ => hf)
      (ensures_behind nofun rfl (fun _ _ => trivial)
        (seats_placeVirtio_empty (fun _ h => h) ha .refl _) fun _ _ _ _ _ p => ⟨rfl, _, rfl⟩)
  | lsi =>
    exact Inserts.of_behind (.hba .lsi) any_of_bridge hsa trivial (fun _ _ _ _ _ => hf)
      (ensures_behind nofun rfl (fun _ _ => trivial)
        (seats_placePci_empty (fun _ h => h) ha .refl _ .conventional)
        fun _ _ _ _ _ p => ⟨rfl, _, rfl⟩)

omit hsa in
theorem inserts_addHbas (family : HbaFamily) (hf : family = .lsi → s.family.hasPci = true)
    (count : Nat) (a : BusAllocator) (hsa : AnyInsertions s a) :
    Inserts (addHbas family count) (fun _ => True) s a := by
  induction count generalizing a with
  | zero => exact ensures_pure hsa
  | succ count ih => exact (inserts_addHba hs hsa family hf).bind fun _ b hsb => ih b hsb

theorem inserts_hbaAt (owner : String) (family : HbaFamily)
    (hf : family = .lsi → s.family.hasPci = true) (index : Nat) :
    Inserts (hbaAt owner family index) (fun _ => True) s a := by
  apply ensures_get_bind
  refine (inserts_addHbas hs family hf _ a hsa).bind fun _ b hsb => ensures_get_bind ?_
  cases (b.hbaBuses family)[index]? with
  | some bus => exact ensures_pure hsb
  | none => exact ensures_throw hsb

theorem inserts_ahciBuses (hf : a.family = .i440fx ∨ a.family = .armVirt false) :
    Inserts ahciBuses (fun _ => True) s a := by
  have ha := hs.insertions hsa
  apply ensures_get_bind
  by_cases hb : a.ahciBuses = []
  · rw [if_pos (by simpa using hb)]
    exact Inserts.of_behind .ahci any_of_bridge hsa trivial (fun _ _ _ _ _ => ⟨hb, hf⟩)
      (ensures_behind nofun rfl (fun _ _ => trivial)
        (seats_placePci_empty (fun _ h => h) ha .refl _ .integrated)
        fun _ _ _ _ _ p => ⟨rfl, _, rfl⟩)
  · rw [if_neg (by simpa using hb)]
    exact ensures_pure hsa

theorem inserts_virtioSerialBus : Inserts virtioSerialBus (fun _ => True) s a := by
  have ha := hs.insertions hsa
  apply ensures_get_bind
  cases hb : a.virtioSerialBus with
  | some bus => exact ensures_pure hsa
  | none =>
    exact Inserts.of_behind .virtioSerial any_of_bridge hsa trivial (fun _ _ _ _ _ => hb)
      (ensures_behind nofun rfl (fun _ _ => trivial)
        (seats_placeVirtio_empty (fun _ h => h) ha .refl _) fun _ _ _ _ _ p => ⟨rfl, _, rfl⟩)

omit hs in
theorem inserts_floppyBus (owner : String) : Inserts (floppyBus owner) (fun _ => True) s a := by
  apply ensures_get_bind
  cases hb : a.floppyBus with
  | some bus => exact ensures_pure hsa
  | none =>
    dsimp only
    split
    · rename_i hf
      exact Relation.ReflTransGen.tail hsa
        ⟨.fdc, trivial, ⟨hb, hf⟩, none, a, ⟨rfl, rfl⟩, rfl⟩
    · exact ensures_unsupported fun _ => hsa

theorem inserts_driveBuses (owner : String) (ahci : Bool) :
    Inserts (driveBuses owner ahci) (fun _ => True) s a := by
  apply ensures_get_bind
  split
  · exact ensures_pure hsa
  · exact ensures_pure hsa
  · exact ensures_pure hsa
  · rename_i hf
    exact inserts_ahciBuses hs hsa (.inl hf)
  · rename_i hf
    exact inserts_ahciBuses hs hsa (.inr hf)
  · exact ensures_unsupported fun _ => hsa
  · exact ensures_unsupported fun _ => hsa

end Demand

/-- A USB controller that somebody adds. It may ask for a place, which it gets at once. -/
theorem ensures_addUsbController (ha : a.Grounded) (id model : String) (ports : UInt8)
    (hint : PlacementHint) :
    Ensures (addUsbController id model ports hint) a
      (fun _ b => ∃ c ask, Bridges a c ∧ Inserted (.usb id model ports ask) c b ∧
        (ask = none ∨ c = a ∧ ask = hint.asked a.family))
      (fun _ b => Bridges a b) := by
  unfold addUsbController
  refine (seats_placePci (fun _ h => h) ha .refl id _ hint).bind ?_
  rintro p b (⟨c, hac, hg⟩ | ⟨hask, hg⟩)
  · refine Ensures.imp ?_ fun _ d hi => ⟨c, none, hac, hi, .inl rfl⟩
    exact ensures_record (.usb id model ports none) nofun trivial hac hg
      fun _ _ _ _ _ => ⟨rfl, _, rfl⟩
  · refine Ensures.imp ?_ fun _ d hi => ⟨a, _, .refl, hi, .inr ⟨rfl, rfl⟩⟩
    exact ensures_record (.usb id model ports (hint.asked a.family)) nofun trivial .refl hg
      fun _ _ _ _ _ => ⟨rfl, _, rfl⟩

theorem ensures_addUsb0 (ha : a.Grounded) :
    Ensures (addUsbController "usb0" "qemu-xhci" 4 .empty) a
      (fun _ b => ∃ c, Bridges a c ∧ Inserted (.usb "usb0" "qemu-xhci" 4 none) c b)
      (fun _ b => Bridges a b) := by
  refine (ensures_addUsbController ha "usb0" "qemu-xhci" 4 .empty).imp ?_
  rintro _ b ⟨c, ask, hac, hi, hask⟩
  rw [PlacementHint.asked_empty] at hask
  obtain rfl : ask = none := hask.elim id And.right
  exact ⟨c, hac, hi⟩

/-! ## Devices -/

theorem seats_found {found : Option (BusId × Coordinate)} (owner : String) (e : CompileError)
    (hsa : Insertions S s a) :
    (∀ bus c, found = some (bus, c) → ∃ n, a.node? bus = some n ∧ n.isFree c = true) →
      Seats (match found with
        | some (bus, c) => claim owner bus c
        | none => throw e) S s owner a := by
  intro h
  cases found with
  | none => exact ensures_throw hsa
  | some found =>
    obtain ⟨bus, c⟩ := found
    obtain ⟨n, hn, hf⟩ := h bus c rfl
    exact .of_claim hsa (ensures_claim_free owner hn hf)

theorem isFree_of_findSome? {first : BusNode → Option Coordinate} {buses : List BusId}
    {bus : BusId} {c : Coordinate} (hfirst : ∀ n c, first n = some c → n.isFree c = true)
    (h : (buses.findSome? fun bus => do
      let n ← a.node? bus
      let c ← first n
      return (bus, c)) = some (bus, c)) : ∃ n, a.node? bus = some n ∧ n.isFree c = true := by
  obtain ⟨bus', -, hbus⟩ := List.exists_of_findSome?_eq_some h
  obtain ⟨n, hn, hbus⟩ := Option.bind_eq_some_iff.1 hbus
  obtain ⟨c', hc, hbus⟩ := Option.bind_eq_some_iff.1 hbus
  obtain ⟨rfl, rfl⟩ := Prod.mk.inj (Option.some.inj hbus)
  exact ⟨n, hn, hfirst n c' hc⟩

theorem isFree_of_firstOn? {buses : List BusId} {bus : BusId} {c : Coordinate}
    (h : firstOn? a buses = some (bus, c)) : ∃ n, a.node? bus = some n ∧ n.isFree c = true :=
  isFree_of_findSome? (fun _ _ hc => Space.of_first?_eq_some hc) h

theorem isFree_of_firstScsi? {target lun : Option UInt16} {buses : List BusId} {bus : BusId}
    {c : Coordinate} (h : firstScsi? a target lun buses = some (bus, c)) :
    ∃ n, a.node? bus = some n ∧ n.isFree c = true :=
  isFree_of_findSome? (fun _ _ hc => Space.of_first?_eq_some hc) h

/-- A claim off the PCI buses asks for nothing, even at a coordinate that the caller chose. -/
theorem seats_claim {bus : BusId} {c : Coordinate} (owner : String) (hsa : Insertions S s a)
    (hc : ∀ addr, c ≠ .pci addr) : Seats (claim owner bus c) S s owner a := by
  refine .of_claim (P := fun _ => True) hsa ((ensures_claim owner bus c a).imp ?_)
  rintro p b ⟨rfl, n, hn, hcontains, hh, -, rfl⟩
  exact ⟨trivial, n, hn, hcontains, hh, .inl (n.isFree_of_holder?_eq_none hh hc), rfl⟩

theorem seats_claimUnit {bus : BusId} (owner : String) (number : UInt16) (hsa : Insertions S s a) :
    Seats (claimUnit owner bus number) S s owner a := by
  unfold claimUnit
  split
  · exact seats_claim owner hsa nofun
  · exact ensures_throw hsa

section Devices

variable (hs : s.Grounded) (hsa : AnyInsertions s a)

include hs hsa

theorem seats_placeScsi (owner : String) (family : HbaFamily) (hint : PlacementHint) :
    Seats (placeScsi owner family hint) (fun _ => True) s owner a := by
  apply ensures_get_bind
  dsimp only
  split
  · exact Ensures.failing (ensures_unsupported fun _ => hsa)
  · rename_i hf
    have hf : family = .lsi → s.family.hasPci = true := by
      rw [← Insertions.family_eq hsa]
      simpa using hf
    split
    · refine (inserts_hbaAt hs hsa owner family hf _).bind fun bus b hsb => ?_
      split
      · exact seats_claim owner hsb nofun
      · exact ensures_get_bind (seats_found owner _ hsb fun _ _ => isFree_of_firstScsi?)
    · cases hfound : firstScsi? a none none (a.hbaBuses family) with
      | some found =>
        obtain ⟨n, hn, hfree⟩ := isFree_of_firstScsi? hfound
        exact Seats.of_claim hsa (ensures_claim_free owner hn hfree)
      | none =>
        refine (inserts_addHba hs hsa family hf).bind fun bus b hsb => ensures_get_bind ?_
        exact seats_found owner _ hsb fun _ _ => isFree_of_firstScsi?

theorem seats_placeIde (owner : String) (ahci : Bool) (hint : PlacementHint) :
    Seats (placeIde owner ahci hint) (fun _ => True) s owner a := by
  refine (inserts_driveBuses hs hsa owner ahci).bind fun buses b hsb => ?_
  cases hint.driveBus with
  | some index =>
    dsimp only
    cases buses[index.toNat]? with
    | none => exact ensures_throw hsb
    | some bus =>
      cases hint.driveUnit with
      | some number => exact seats_claimUnit owner number hsb
      | none => exact seats_claimNext owner bus hsb
  | none => exact ensures_get_bind (seats_found owner _ hsb fun _ _ => isFree_of_firstOn?)

omit hs in
theorem inserts_usbBuses (owner : String) (controller : Option String) (hint : PlacementHint) :
    Inserts (usbBuses owner controller hint) (fun _ => True) s a := by
  apply ensures_get_bind
  cases hint.usbBus with
  | some bus =>
    dsimp only
    split
    · exact ensures_pure hsa
    · exact ensures_throw hsa
  | none => exact ensures_pure hsa

omit hs in
theorem seats_onUsb (owner : String) (controller : Option String) (hint : PlacementHint) :
    Seats (do
      match ← usbBuses owner controller hint with
      | [] =>
        unsupported ("USB device " ++ owner ++ " on a " ++ controller.getD "USB" ++ " controller")
      | first :: rest =>
        match hint.usbPort with
        | some port => claim owner first (.port port)
        | none =>
          match firstOn? (← get) (first :: rest) with
          | some (bus, c) => claim owner bus c
          | none => throw (exhausted first)) (fun _ => True) s owner a := by
  refine (inserts_usbBuses hsa owner controller hint).bind fun buses b hsb => ?_
  cases buses with
  | nil => exact ensures_unsupported fun _ => hsb
  | cons first rest =>
    cases hint.usbPort with
    | some port => exact seats_claim owner hsb nofun
    | none => exact ensures_get_bind (seats_found owner _ hsb fun _ _ => isFree_of_firstOn?)

theorem seats_placeUsb (owner : String) (controller : Option String) (hint : PlacementHint) :
    Seats (placeUsb owner controller hint) (fun _ => True) s owner a := by
  apply ensures_get_bind
  by_cases hu : a.usb = []
  · rw [if_pos (by simpa using hu)]
    have hx := ensures_addUsb0 (hs.insertions hsa)
    exact (Inserts.of_behind (.usb "usb0" "qemu-xhci" 4 none) any_of_bridge hsa trivial
      (fun _ _ _ _ _ => ⟨hu, rfl, rfl, rfl, rfl⟩) hx).bind fun _ b hsb =>
        seats_onUsb hsb owner controller hint
  · rw [if_neg (by simpa using hu)]
    exact seats_onUsb hsa owner controller hint

omit hs in
theorem seats_placeFloppy (owner : String) (hint : PlacementHint) :
    Seats (placeFloppy owner hint) (fun _ => True) s owner a := by
  refine (inserts_floppyBus hsa owner).bind fun bus b hsb => ?_
  cases hint.driveUnit with
  | some number => exact seats_claimUnit owner number hsb
  | none => exact seats_claimNext owner bus hsb

omit hs in
theorem seats_placeIsaSerial (owner : String) :
    Seats (placeIsaSerial owner) (fun _ => True) s owner a := by
  apply ensures_get_bind
  cases a.node? BusAllocator.isaBus with
  | some _ => exact seats_claimNext owner _ hsa
  | none => exact ensures_unsupported fun _ => hsa

end Devices

theorem ensures_some {x : Alloc Placement} {Q : Placement → BusAllocator → Prop}
    {E : CompileError → BusAllocator → Prop} (hx : Ensures x a Q E) :
    Ensures (some <$> x) a (fun r b => ∃ p, r = some p ∧ Q p b) E := by
  rw [map_eq_pure_bind]
  exact hx.bind fun p b hp => ensures_pure ⟨p, rfl, hp⟩

/-- Placing a device is a chain of insertions and the claim of its place, if it gets one. -/
theorem ensures_place (ha : a.Grounded) (owner : String) (request : BusRequest)
    (hint : PlacementHint) :
    Ensures (place owner request hint) a
      (fun r b => (r = none ∧ b = a) ∨ ∃ p, r = some p ∧
        (Placed (fun _ => True) a owner p b ∨ request.asked a.family hint = some p ∧
          Granted (request.asked a.family hint) a owner p b))
      (fun _ b => AnyInsertions a b) := by
  have hsome : ∀ {x : Alloc Placement},
      SeatsAt x (fun _ => True) (request.asked a.family hint) a owner a →
      Ensures (some <$> x) a (fun r b => (r = none ∧ b = a) ∨ ∃ p, r = some p ∧
        (Placed (fun _ => True) a owner p b ∨ request.asked a.family hint = some p ∧
          Granted (request.asked a.family hint) a owner p b))
        (fun _ b => AnyInsertions a b) := fun hx =>
    (ensures_some hx).imp fun _ _ h => .inr h
  have hrefl : AnyInsertions a a := .refl
  cases request with
  | none => exact ensures_pure (.inl ⟨rfl, rfl⟩)
  | pci kind => exact hsome (seats_placePci any_of_bridge ha hrefl owner kind hint)
  | virtio => exact hsome (seats_placeVirtio any_of_bridge ha hrefl owner hint)
  | scsi family => exact hsome ((seats_placeScsi ha hrefl owner family hint).at _)
  | ide => exact hsome ((seats_placeIde ha hrefl owner false hint).at _)
  | ahci => exact hsome ((seats_placeIde ha hrefl owner true hint).at _)
  | usb controller => exact hsome ((seats_placeUsb ha hrefl owner controller hint).at _)
  | floppy => exact hsome ((seats_placeFloppy hrefl owner hint).at _)
  | isaSerial => exact hsome ((seats_placeIsaSerial hrefl owner).at _)
  | virtioSerial =>
    have hx : Seats (do claimNext owner (← virtioSerialBus)) (fun _ => True) a owner a :=
      (inserts_virtioSerialBus ha hrefl).bind fun bus b hsb => seats_claimNext owner bus hsb
    have h := hsome (hx.at _)
    rw [map_eq_pure_bind, bind_assoc] at h
    exact h

end Alloc

end GuestSpec
