import GuestSpec.Proofs.Bus.Hierarchy
import GuestSpec.Proofs.Bus.Layout

/-!
# Coordinates that a caller gives

A device that gets a place gets the one that its hint describes, as far as the coordinates of the
hint mean something on the bus of the place. There is one exception. The unit of an IDE or AHCI
drive is ignored when the hint does not also name the bus.
-/

namespace GuestSpec

open Alloc BusAllocator

def BusRequest.Asks (request : BusRequest) (kind : BusKind) : Prop :=
  match request with
  | .pci _ => kind.isPci = true
  | .virtio => kind.isPci = true ∨ kind = .ccw ∨ kind = .virtioMmio
  | request => request.listedKind = some kind

def Placement.IsUnit (p : Placement) (number : UInt16) : Prop :=
  ∃ n : UInt8, p.coordinate = .unit n ∧ n.toUInt16 = number

namespace PlacementHint

/-- The PCI coordinates of a hint. An address without a bus is one on the root bus. -/
def OnPci (hint : PlacementHint) (family : MachineFamily) (p : Placement) : Prop :=
  (∀ bus, hint.pciBus = some bus → p.bus = bus) ∧
    ∀ addr, hint.pciAddr = some addr →
      p.coordinate = .pci addr ∧ (hint.pciBus = none → p.bus = family.rootBus)

/-- The index of the SCSI adapter that a hint means. A target or a unit without an adapter are
those of the first one. -/
def adapter (hint : PlacementHint) : Option Nat :=
  match hint.driveBus with
  | some index => some index.toNat
  | none => if hint.driveUnit.isSome || hint.drivePort.isSome then some 0 else none

def OnScsi (hint : PlacementHint) (buses : List BusId) (p : Placement) : Prop :=
  (∀ index, hint.adapter = some index → buses[index]? = some p.bus) ∧
    ∃ target lun, p.coordinate = .scsi target lun ∧ (∀ t, hint.driveUnit = some t → target = t) ∧
      ∀ l, hint.drivePort = some l → lun = l

def OnDriveBus (hint : PlacementHint) (buses : List BusId) (p : Placement) : Prop :=
  ∀ index, hint.driveBus = some index → buses[index.toNat]? = some p.bus

def OnUnit (hint : PlacementHint) (p : Placement) : Prop :=
  ∀ number, hint.driveUnit = some number → p.IsUnit number

def OnUsb (hint : PlacementHint) (p : Placement) : Prop :=
  (∀ bus, hint.usbBus = some bus → p.bus = bus) ∧
    ∀ port, hint.usbPort = some port → p.coordinate = .port port

/-- Whether a place on a bus of a kind has all the coordinates of a hint that mean something
there. -/
def ShownBy (hint : PlacementHint) (a : BusAllocator) (request : BusRequest) (p : Placement) :
    BusKind → Prop
  | .pciRoot | .pcieRoot | .pcieRootPort | .pciBridge | .pciePciBridge => hint.OnPci a.family p
  | .scsi => hint.OnScsi (a.busesFor request) p
  | .ide => hint.OnDriveBus (a.busesFor request) p ∧ hint.OnUnit p
  | .floppy => hint.OnUnit p
  | .usb => hint.OnUsb p
  | .ccw | .virtioMmio | .isaSerial | .virtioSerial => True

end PlacementHint

/-- The unit of a drive that is ignored, since the hint does not name the bus of the drive. -/
def BusRequest.dropped? (request : BusRequest) (hint : PlacementHint) : Option UInt16 :=
  match request, hint.driveBus with
  | .ide, .none | .ahci, .none => hint.driveUnit
  | _, _ => .none

theorem PlacementHint.shownBy_pci {hint : PlacementHint} {a : BusAllocator} {request : BusRequest}
    {p : Placement} {kind : BusKind} (hkind : kind.isPci = true) :
    hint.ShownBy a request p kind ↔ hint.OnPci a.family p := by
  cases kind <;> first | rfl | cases hkind

/-! ## What each operation gives -/

namespace Alloc

variable {a b : BusAllocator} {bus : BusId} {c : Coordinate} {p : Placement}

theorem gives_claim (owner : String) (bus : BusId) (c : Coordinate) :
    Gives (claim owner bus c) a fun p b =>
      p = ⟨bus, c⟩ ∧ ∀ request, b.busesFor request = a.busesFor request :=
  (ensures_claim owner bus c a).mono (fun _ _ h => ⟨h.1, h.2.busesFor_eq⟩) fun _ _ _ => trivial

theorem gives_claimNext (owner : String) (bus : BusId) :
    Gives (claimNext owner bus) a fun p b =>
      p.bus = bus ∧ ∀ request, b.busesFor request = a.busesFor request :=
  (ensures_claimNext owner bus a).mono (fun _ _ h => ⟨h.1, h.2.busesFor_eq⟩) fun _ _ _ => trivial

theorem gives_claimUnit (owner : String) (bus : BusId) (number : UInt16) :
    Gives (claimUnit owner bus number) a fun p b =>
      p.bus = bus ∧ p.IsUnit number ∧ ∀ request, b.busesFor request = a.busesFor request := by
  unfold claimUnit
  split
  · rename_i hnumber
    refine (gives_claim owner bus (.unit number.toUInt8)).imp ?_
    rintro p b ⟨rfl, hlists⟩
    refine ⟨rfl, ⟨number.toUInt8, rfl, ?_⟩, hlists⟩
    rw [← UInt16.toNat_inj, UInt8.toNat_toUInt16, UInt16.toNat_toUInt8, Nat.mod_eq_of_lt hnumber]
  · exact ensures_throw trivial

theorem gives_found (found : Option (BusId × Coordinate)) (owner : String) (e : CompileError) :
    Gives (match found with
      | some (bus, c) => claim owner bus c
      | none => throw e) a fun p b => found = some (p.bus, p.coordinate) ∧
        ∀ request, b.busesFor request = a.busesFor request := by
  cases found with
  | none => exact ensures_throw trivial
  | some found =>
    refine (gives_claim owner found.1 found.2).imp ?_
    rintro p b ⟨rfl, hlists⟩
    exact ⟨rfl, hlists⟩

variable {hint : PlacementHint}

theorem gives_placePci (h : a.Wired) (ha : a.Grounded) (owner : String) (kind : PciKind) :
    Gives (placePci owner kind hint) a fun p b => hint.OnPci a.family p ∧
      ∃ n, b.node? p.bus = some n ∧ n.bus.kind.isPci = true := by
  apply ensures_get_bind
  split
  · rename_i hp
    split
    · -- the bus that is named is a PCI bus, or nothing is claimed
      apply ensures_get_bind
      cases hn : a.node? (hint.pciBus.getD a.family.rootBus) with
      | none => exact ensures_throw trivial
      | some n =>
        dsimp only
        split
        · rename_i hkind
          have hon : ∀ p b ask, Granted ask a owner p b →
              p.bus = hint.pciBus.getD a.family.rootBus →
              (∀ addr, hint.pciAddr = some addr → p.coordinate = .pci addr) →
              hint.OnPci a.family p ∧ ∃ n, b.node? p.bus = some n ∧ n.bus.kind.isPci = true := by
            intro p b ask hg hbus hcoordinate
            refine ⟨⟨fun bus hb => ?_,
              fun addr haddr => ⟨hcoordinate addr haddr, fun hb => ?_⟩⟩, ?_⟩
            · rw [hbus, hb]
              rfl
            · rw [hbus, hb]
              rfl
            · obtain ⟨m, hm, hmbus, -⟩ := Grows.granted hg _ n (hbus ▸ hn)
              exact ⟨m, hm, hmbus ▸ hkind⟩
          cases haddr : hint.pciAddr with
          | none =>
            refine (ensures_claimNext owner _ a).mono ?_ fun _ _ _ => trivial
            rintro p b ⟨hbus, hg⟩
            exact hon p b none hg hbus (by rw [haddr]; exact nofun)
          | some addr =>
            refine (ensures_claim owner _ _ a).mono ?_ fun _ _ _ => trivial
            rintro p b ⟨rfl, hg⟩
            refine hon _ b _ hg rfl fun addr' h => ?_
            rw [Option.some.inj (haddr.symm.trans h)]
        · exact ensures_throw trivial
    · rename_i hnone
      simp only [Bool.or_eq_true, Option.isSome_iff_ne_none, not_or, not_not] at hnone
      refine (failsOn_placePciNext h ha owner kind hp).mono ?_ fun _ _ _ => trivial
      rintro p b ⟨-, hattached⟩
      obtain ⟨slots, n, hn, hkind, -⟩ := hattached.reachesPci h hp
      refine ⟨⟨?_, ?_⟩, n, hn, hkind⟩
      · rw [hnone.1]
        exact nofun
      · rw [hnone.2]
        exact nofun
  · exact ensures_unsupported fun _ => trivial

theorem gives_placeVirtio (h : a.Wired) (ha : a.Grounded) (owner : String) :
    Gives (placeVirtio owner hint) a fun p b => ∃ n, b.node? p.bus = some n ∧
      (n.bus.kind.isPci = true ∧ hint.OnPci a.family p ∨
        n.bus.kind = .ccw ∨ n.bus.kind = .virtioMmio) := by
  apply ensures_get_bind
  have hroot : ∀ family : MachineFamily, family.virtioTransport = .pci ∨
      family.rootKind = .ccw ∨ family.rootKind = .virtioMmio := by
    decide
  have hplain : a.family.rootKind = .ccw ∨ a.family.rootKind = .virtioMmio →
      Gives (claimNext owner a.family.rootBus) a fun p b => ∃ n, b.node? p.bus = some n ∧
        (n.bus.kind.isPci = true ∧ hint.OnPci a.family p ∨
          n.bus.kind = .ccw ∨ n.bus.kind = .virtioMmio) := by
    intro hkind
    obtain ⟨n, hn, hnkind, -⟩ := h.root
    refine (ensures_claimNext owner _ a).mono ?_ fun _ _ _ => trivial
    rintro p b ⟨hbus, hg⟩
    obtain ⟨m, hm, hmbus, -⟩ := Grows.granted hg _ n (hbus ▸ hn)
    refine ⟨m, hm, .inr ?_⟩
    rwa [hmbus, hnkind]
  have hfamily := hroot a.family
  cases ht : a.family.virtioTransport with
  | pci =>
    refine (gives_placePci h ha owner .express).imp ?_
    rintro p b ⟨hon, n, hn, hkind⟩
    exact ⟨n, hn, .inl ⟨hkind, hon⟩⟩
  | ccw | mmio =>
    rw [ht] at hfamily
    exact hplain (hfamily.resolve_left nofun)

/-- A hint that means no adapter says nothing about SCSI coordinates. -/
theorem onScsi_of_adapter_none {buses : List BusId} {target lun : UInt16}
    (h : hint.adapter = none) (hc : p.coordinate = .scsi target lun) : hint.OnScsi buses p := by
  have hnone : hint.driveUnit = none ∧ hint.drivePort = none := by
    unfold PlacementHint.adapter at h
    split at h
    · cases h
    · simpa [Option.isSome_iff_ne_none] using h
  refine ⟨by rw [h]; exact nofun, target, lun, hc, ?_, ?_⟩
  · rw [hnone.1]
    exact nofun
  · rw [hnone.2]
    exact nofun

/-- A device on the adapter that its hint means. -/
theorem gives_pinnedScsi (owner : String) (family : HbaFamily) (index : Nat)
    (hindex : hint.adapter = some index) :
    Gives (do
      let bus ← hbaAt owner family index
      match hint.driveUnit, hint.drivePort with
      | some target, some lun => claim owner bus (.scsi target lun)
      | _, _ =>
        match firstScsi? (← get) hint.driveUnit hint.drivePort [bus] with
        | some (bus, c) => claim owner bus c
        | none => throw (exhausted bus)) a fun p b => p.bus ∈ b.busesFor (.scsi family) ∧
      hint.OnScsi (b.busesFor (.scsi family)) p := by
  refine Ensures.bind (gives_hbaAt owner family index) fun bus b hbus => ?_
  have hpinned : ∀ i, hint.adapter = some i → (b.busesFor (.scsi family))[i]? = some bus := by
    intro i hi
    rwa [Option.some.inj (hi.symm.trans hindex)]
  split
  · rename_i target lun htarget hlun
    refine (gives_claim owner bus _).imp ?_
    rintro p c ⟨rfl, hlists⟩
    rw [hlists]
    refine ⟨List.mem_of_getElem? hbus, hpinned, target, lun, rfl, fun t ht => ?_, fun l hl => ?_⟩
    · exact Option.some.inj (htarget.symm.trans ht)
    · exact Option.some.inj (hlun.symm.trans hl)
  · apply ensures_get_bind
    refine (gives_found _ owner _).imp ?_
    rintro p c ⟨hfound, hlists⟩
    obtain ⟨hmem, hcoordinate⟩ := exists_of_firstScsi? hfound
    obtain rfl := List.mem_singleton.1 hmem
    rw [hlists]
    exact ⟨List.mem_of_getElem? hbus, hpinned, hcoordinate⟩

theorem gives_placeScsi (owner : String) (family : HbaFamily) :
    Gives (placeScsi owner family hint) a fun p b => p.bus ∈ b.busesFor (.scsi family) ∧
      hint.OnScsi (b.busesFor (.scsi family)) p := by
  apply ensures_get_bind
  dsimp only
  split
  · exact Ensures.failing (ensures_unsupported fun _ => trivial)
  · split
    · rename_i index hindex
      exact gives_pinnedScsi owner family index hindex
    · rename_i hnone
      have hfree : ∀ {buses : List BusId} {c : BusAllocator} (e : CompileError),
          buses ⊆ c.busesFor (.scsi family) →
          Gives (match firstScsi? c none none buses with
            | some (bus, c) => claim owner bus c
            | none => throw e) c fun p b => p.bus ∈ b.busesFor (.scsi family) ∧
              hint.OnScsi (b.busesFor (.scsi family)) p := by
        intro buses c e hsub
        refine (gives_found _ owner e).imp ?_
        rintro p b ⟨hfound, hlists⟩
        obtain ⟨hbus, target, lun, hcoordinate, -⟩ := exists_of_firstScsi? hfound
        refine ⟨?_, onScsi_of_adapter_none hnone hcoordinate⟩
        rw [hlists]
        exact hsub hbus
      cases hfound : firstScsi? a none none (a.hbaBuses family) with
      | some found =>
        have h := hfree (c := a) .overflow (List.Subset.refl (a.busesFor (.scsi family)))
        change Gives (match firstScsi? a none none (a.hbaBuses family) with
          | some (bus, c) => claim owner bus c
          | none => throw .overflow) a _ at h
        rwa [hfound] at h
      | none =>
        refine Ensures.bind (gives_addHba family) fun bus b hbus => ensures_get_bind ?_
        exact hfree _ fun _ hmem => List.mem_singleton.1 hmem ▸ hbus

theorem gives_placeIde (owner : String) (ahci : Bool) :
    Gives (placeIde owner ahci hint) a fun p b => p.bus ∈ b.busesFor (.ofDrive ahci) ∧
      hint.OnDriveBus (b.busesFor (.ofDrive ahci)) p ∧ (hint.driveBus ≠ none → hint.OnUnit p) := by
  refine Ensures.bind (gives_driveBuses owner ahci) fun buses b hbuses => ?_
  subst hbuses
  cases hindex : hint.driveBus with
  | some index =>
    dsimp only
    cases hbus : (b.busesFor (.ofDrive ahci))[index.toNat]? with
    | none => exact ensures_throw trivial
    | some bus =>
      have hat : ∀ i, hint.driveBus = some i →
          (b.busesFor (.ofDrive ahci))[i.toNat]? = some bus := by
        intro i hi
        rwa [Option.some.inj (hi.symm.trans hindex)]
      dsimp only
      cases hunit : hint.driveUnit with
      | some number =>
        refine (gives_claimUnit owner bus number).imp ?_
        rintro p c ⟨rfl, hnumber, hlists⟩
        rw [hlists]
        refine ⟨List.mem_of_getElem? hbus, hat, fun _ number' h => ?_⟩
        rwa [Option.some.inj (h.symm.trans hunit)]
      | none =>
        refine (gives_claimNext owner bus).imp ?_
        rintro p c ⟨rfl, hlists⟩
        rw [hlists]
        exact ⟨List.mem_of_getElem? hbus, hat, fun _ number' h => nomatch h.symm.trans hunit⟩
  | none =>
    apply ensures_get_bind
    refine (gives_found _ owner _).imp ?_
    rintro p c ⟨hfound, hlists⟩
    rw [hlists]
    refine ⟨(exists_of_firstOn? hfound).1, ?_, fun h => absurd rfl h⟩
    intro i hi
    cases hi.symm.trans hindex

theorem gives_onUsb (owner : String) (controller : Option String) (hint : PlacementHint) :
    Gives (do
      match ← usbBuses owner controller hint with
      | [] =>
        unsupported ("USB device " ++ owner ++ " on a " ++ controller.getD "USB" ++ " controller")
      | first :: rest =>
        match hint.usbPort with
        | some port => claim owner first (.port port)
        | none =>
          match firstOn? (← get) (first :: rest) with
          | some (bus, c) => claim owner bus c
          | none => throw (exhausted first)) a fun p b => p.bus ∈ b.busesFor (.usb none) ∧
      hint.OnUsb p ∧ (hint.usbBus = none → p.bus ∈ b.busesFor (.usb controller)) := by
  refine Ensures.bind (gives_usbBuses owner controller hint) ?_
  rintro buses b ⟨rfl, hsub, hnamed, hlisted⟩
  cases buses with
  | nil => exact ensures_unsupported fun _ => trivial
  | cons first rest =>
    have hat : ∀ {p : Placement} {c : BusAllocator}, p.bus ∈ first :: rest →
        (∀ request, c.busesFor request = b.busesFor request) →
        p.bus ∈ c.busesFor (.usb none) ∧ (∀ bus, hint.usbBus = some bus → p.bus = bus) ∧
          (hint.usbBus = none → p.bus ∈ c.busesFor (.usb controller)) := by
      intro p c hmem hlists
      rw [hlists, hlists]
      refine ⟨hsub hmem, fun bus hbus => ?_, fun hnone => hlisted hnone ▸ hmem⟩
      rw [hnamed bus hbus] at hmem
      exact List.mem_singleton.1 hmem
    cases hport : hint.usbPort with
    | some port =>
      refine (gives_claim owner first _).imp ?_
      rintro p c ⟨rfl, hlists⟩
      obtain ⟨hmem, hbus, hmodel⟩ := hat (p := ⟨first, .port port⟩) List.mem_cons_self hlists
      refine ⟨hmem, ⟨hbus, fun port' h => ?_⟩, hmodel⟩
      rw [Option.some.inj (h.symm.trans hport)]
    | none =>
      refine ensures_get_bind ((gives_found _ owner _).imp ?_)
      rintro p c ⟨hfound, hlists⟩
      obtain ⟨hmem, hbus, hmodel⟩ := hat (exists_of_firstOn? hfound).1 hlists
      exact ⟨hmem, ⟨hbus, fun port h => nomatch h.symm.trans hport⟩, hmodel⟩

theorem gives_placeUsb (owner : String) (controller : Option String) :
    Gives (placeUsb owner controller hint) a fun p b => p.bus ∈ b.busesFor (.usb none) ∧
      hint.OnUsb p ∧ (hint.usbBus = none → p.bus ∈ b.busesFor (.usb controller)) := by
  apply ensures_get_bind
  by_cases hu : a.usb = []
  · rw [if_pos (by simpa using hu)]
    exact Gives.bind fun _ _ => gives_onUsb owner controller hint
  · rw [if_neg (by simpa using hu)]
    exact gives_onUsb owner controller hint

theorem gives_placeFloppy (owner : String) :
    Gives (placeFloppy owner hint) a fun p b => p.bus ∈ b.busesFor .floppy ∧ hint.OnUnit p := by
  refine Ensures.bind (gives_floppyBus owner) fun bus b hbus => ?_
  have hmem : ∀ {p : Placement} {c : BusAllocator}, p.bus = bus →
      (∀ request, c.busesFor request = b.busesFor request) → p.bus ∈ c.busesFor .floppy := by
    intro p c hp hlists
    rw [hlists, hbus, hp]
    exact List.mem_cons_self
  cases hunit : hint.driveUnit with
  | some number =>
    refine (gives_claimUnit owner bus number).imp ?_
    rintro p c ⟨hp, hnumber, hlists⟩
    refine ⟨hmem hp hlists, fun number' h => ?_⟩
    rwa [← Option.some.inj (h.symm.trans hunit)] at hnumber
  | none =>
    refine (gives_claimNext owner bus).imp ?_
    rintro p c ⟨hp, hlists⟩
    exact ⟨hmem hp hlists, fun number h => nomatch h.symm.trans hunit⟩

theorem gives_placeIsaSerial (owner : String) :
    Gives (placeIsaSerial owner) a fun p b => p.bus ∈ b.busesFor .isaSerial := by
  apply ensures_get_bind
  split
  · refine (gives_claimNext owner _).imp ?_
    rintro p b ⟨hp, -⟩
    rw [hp]
    exact List.mem_cons_self
  · exact ensures_unsupported fun _ => trivial

theorem gives_onVirtioSerial (owner : String) :
    Gives (do claimNext owner (← virtioSerialBus)) a fun p b =>
      p.bus ∈ b.busesFor .virtioSerial := by
  refine Ensures.bind gives_virtioSerialBus fun bus b hbus => ?_
  refine (gives_claimNext owner bus).imp ?_
  rintro p c ⟨hp, hlists⟩
  rw [hlists, hbus, hp]
  exact List.mem_cons_self

theorem gives_node (ha : a.Grounded) (owner : String) (request : BusRequest)
    (hint : PlacementHint) :
    Gives (place owner request hint) a fun r b =>
      ∀ p, r = some p → ∃ n, b.node? p.bus = some n := by
  have hgranted : ∀ {c ask p b}, Granted ask c owner p b → ∃ n, b.node? p.bus = some n := by
    intro c ask p b hg
    have hgrows := Grows.granted hg
    obtain ⟨n, hn, -⟩ := hg
    obtain ⟨m, hm, -⟩ := hgrows _ n hn
    exact ⟨m, hm⟩
  refine (ensures_place ha owner request hint).mono ?_ fun _ _ _ => trivial
  rintro r b (⟨rfl, -⟩ | ⟨p, rfl, ⟨c, -, hg⟩ | ⟨-, hg⟩⟩) q hq
  · cases hq
  · rw [← Option.some.inj hq]
    exact hgranted hg
  · rw [← Option.some.inj hq]
    exact hgranted hg

end Alloc

section Shown

variable {b : BusAllocator} {hint : PlacementHint} {request : BusRequest} {p : Placement}
  {n : BusNode} {kind : BusKind}

/-- How the coordinates of a hint are reflected in a place that was given out. -/
def PlacementHint.Reflected (hint : PlacementHint) (b : BusAllocator) (request : BusRequest)
    (p : Placement) (kind : BusKind) : Prop :=
  (request.Asks kind → (hint.ShownBy b request p kind ↔
    ∀ number, request.dropped? hint = some number → p.IsUnit number)) ∧
    (¬request.Asks kind → p.bus ∈ b.busesFor (.usb none))

theorem PlacementHint.reflected_of_shownBy (hasks : request.Asks kind)
    (hshown : hint.ShownBy b request p kind) (hdropped : request.dropped? hint = none) :
    hint.Reflected b request p kind := by
  refine ⟨fun _ => iff_of_true hshown fun number h => ?_, fun h => absurd hasks h⟩
  cases hdropped.symm.trans h

/-- A bus that is listed for a request has the kind that is asked for, or a caller gave its id to a
USB bus. -/
theorem PlacementHint.reflected_of_listed (hb : b.Wired) (hn : b.node? p.bus = some n)
    (hasks : ∀ k, request.Asks k ↔ request.listedKind = some k)
    (hkind : request.listedKind = some kind) (hmem : p.bus ∈ b.busesFor request)
    (hshown : hint.ShownBy b request p kind ↔
      ∀ number, request.dropped? hint = some number → p.IsUnit number) :
    hint.Reflected b request p n.bus.kind := by
  constructor
  · intro h
    rwa [← Option.some.inj (hkind.symm.trans ((hasks _).1 h))]
  · intro h
    refine hb.mem_usb_of_kind_ne hkind hmem hn fun heq => h ?_
    rw [hasks, heq, hkind]

end Shown

theorem BusRequest.dropped?_ofDrive (ahci : Bool) (hint : PlacementHint) :
    (ofDrive ahci).dropped? hint = if hint.driveBus = .none then hint.driveUnit else .none := by
  cases ahci <;> cases h : hint.driveBus <;> simp [ofDrive, dropped?, h]

/-- A drive has the unit of its hint, unless the unit is one that is ignored. -/
theorem PlacementHint.onDrive_iff {hint : PlacementHint} {buses : List BusId} {p : Placement}
    (ahci : Bool) (hbus : hint.OnDriveBus buses p) (hunit : hint.driveBus ≠ none → hint.OnUnit p) :
    hint.OnDriveBus buses p ∧ hint.OnUnit p ↔
      ∀ number, (BusRequest.ofDrive ahci).dropped? hint = some number → p.IsUnit number := by
  rw [and_iff_right hbus, BusRequest.dropped?_ofDrive]
  split
  · rfl
  · rename_i hindex
    exact iff_of_true (hunit hindex) nofun

theorem Alloc.gives_reflected {a : BusAllocator} (h : a.Wired) (ha : a.Grounded) (owner : String)
    (request : BusRequest) (hint : PlacementHint) :
    Gives (place owner request hint) a fun r b => ∀ p n, r = some p → b.Wired →
      b.family = a.family → b.node? p.bus = some n → hint.Reflected b request p n.bus.kind := by
  have hsome : ∀ {x : Alloc Placement} {Q : Placement → BusAllocator → Prop}, Gives x a Q →
      (∀ p b n, Q p b → b.Wired → b.family = a.family → b.node? p.bus = some n →
        hint.Reflected b request p n.bus.kind) →
      Gives (some <$> x) a fun r b => ∀ p n, r = some p → b.Wired → b.family = a.family →
        b.node? p.bus = some n → hint.Reflected b request p n.bus.kind := by
    intro x Q hx hQ
    refine (ensures_some hx).imp ?_
    rintro _ b ⟨p, rfl, hp⟩ _ n ⟨⟩
    exact hQ p b n hp
  have hdrive : ∀ ahci, request = .ofDrive ahci → Gives (some <$> placeIde owner ahci hint) a
      fun r b => ∀ p n, r = some p → b.Wired → b.family = a.family →
        b.node? p.bus = some n → hint.Reflected b request p n.bus.kind := by
    rintro ahci rfl
    refine hsome (gives_placeIde owner ahci) ?_
    rintro p b n ⟨hmem, hbus, hunit⟩ hb - hn
    have hiff := PlacementHint.onDrive_iff ahci hbus hunit
    cases ahci <;> exact PlacementHint.reflected_of_listed hb hn (fun _ => .rfl) rfl hmem hiff
  cases request with
  | none => exact ensures_pure nofun
  | pci kind =>
    refine hsome (gives_placePci h ha owner kind) ?_
    rintro p b n ⟨hon, m, hm, hkind⟩ - hfamily hn
    obtain rfl : n = m := Option.some.inj (hn.symm.trans hm)
    refine PlacementHint.reflected_of_shownBy hkind ?_ rfl
    rwa [PlacementHint.shownBy_pci hkind, hfamily]
  | virtio =>
    refine hsome (gives_placeVirtio h ha owner) ?_
    rintro p b n ⟨m, hm, hkind⟩ - hfamily hn
    obtain rfl : n = m := Option.some.inj (hn.symm.trans hm)
    refine PlacementHint.reflected_of_shownBy (hkind.imp_left And.left) ?_ rfl
    obtain ⟨hkind, hon⟩ | hkind | hkind := hkind
    · rwa [PlacementHint.shownBy_pci hkind, hfamily]
    · rw [hkind]
      trivial
    · rw [hkind]
      trivial
  | scsi family =>
    refine hsome (gives_placeScsi owner family) ?_
    rintro p b n ⟨hmem, hon⟩ hb - hn
    exact PlacementHint.reflected_of_listed hb hn (fun _ => .rfl) rfl hmem
      (iff_of_true hon nofun)
  | ide => exact hdrive false rfl
  | ahci => exact hdrive true rfl
  | usb controller =>
    refine hsome (gives_placeUsb owner controller) ?_
    rintro p b n ⟨hmem, hon, -⟩ - - hn
    refine ⟨fun hasks => ?_, fun _ => hmem⟩
    rw [← Option.some.inj hasks]
    exact iff_of_true hon nofun
  | floppy =>
    refine hsome (gives_placeFloppy owner) ?_
    rintro p b n ⟨hmem, hon⟩ hb - hn
    exact PlacementHint.reflected_of_listed hb hn (fun _ => .rfl) rfl hmem
      (iff_of_true hon nofun)
  | isaSerial =>
    refine hsome (gives_placeIsaSerial owner) ?_
    intro p b n hmem hb _ hn
    exact PlacementHint.reflected_of_listed hb hn (fun _ => .rfl) rfl hmem
      (iff_of_true trivial nofun)
  | virtioSerial =>
    have hx := hsome (gives_onVirtioSerial owner) fun p b n hmem hb _ hn =>
      PlacementHint.reflected_of_listed hb hn (fun _ => .rfl) rfl hmem (iff_of_true trivial nofun)
    rw [map_eq_pure_bind, bind_assoc] at hx
    exact hx

/-- A device whose unit is ignored is placed as if its hint had none. -/
theorem Alloc.place_of_dropped? {owner : String} {request : BusRequest} {hint : PlacementHint}
    (h : request.dropped? hint ≠ none) :
    place owner request hint = place owner request { hint with driveUnit := none } := by
  have hindex : hint.driveBus = none := by
    cases hindex : hint.driveBus with
    | none => rfl
    | some index => cases request <;> simp [BusRequest.dropped?, hindex] at h
  cases request with
  | ide | ahci => simp only [place, placeIde, hindex]
  | _ => exact absurd rfl h

section Run

variable (family : MachineFamily) (machine : String) (config : AllocatorConfig)

/-- Explicit coordinates are honoured or refused: a device that gets a place on a bus of the kind it
asks for has all the coordinates of its hint that mean something there, except that the unit of an
IDE or AHCI drive is ignored when the hint does not name the bus. A bus of another kind is one whose
id a caller gave to a USB bus. -/
theorem reflected_iff (calls : List BusCall) (owner : String) (request : BusRequest)
    (hint : PlacementHint) {p : Placement} {b : BusAllocator}
    (h : outcome (place owner request hint) ((start family machine config).afterAll calls) =
      (.ok (some p), b)) :
    ∃ n, b.node? p.bus = some n ∧
      (request.Asks n.bus.kind → (hint.ShownBy b request p n.bus.kind ↔
        ∀ number, request.dropped? hint = some number → p.IsUnit number)) ∧
      (¬request.Asks n.bus.kind → p.bus ∈ b.busesFor (.usb none)) ∧
      (request.dropped? hint ≠ none →
        outcome (place owner request { hint with driveUnit := none })
          ((start family machine config).afterAll calls) = (.ok (some p), b)) := by
  have hwired := wired_run family machine config calls
  have hgrounded := grounded_run family machine config calls
  have hb : b = ((start family machine config).afterAll calls).after (.place owner request hint) :=
    (congrArg Prod.snd h).symm
  have hbwired : b.Wired := by
    rw [hb, ← afterAll_nil (a := BusAllocator.after _ _), ← afterAll_cons, ← afterAll_append]
    exact wired_run family machine config _
  have hbfamily : b.family = ((start family machine config).afterAll calls).family := by
    rw [hb]
    exact (BusCall.effect hgrounded _).family_eq
  obtain ⟨n, hn⟩ := (gives_node hgrounded owner request hint).ok h p rfl
  obtain ⟨hshown, hshared⟩ := (gives_reflected hwired hgrounded owner request hint).ok h p n rfl
    hbwired hbfamily hn
  refine ⟨n, hn, hshown, hshared, fun hdropped => ?_⟩
  rw [← place_of_dropped? hdropped]
  exact h

end Run

/-- A SCSI target without an adapter is one of the first adapter. -/
theorem reflected_target :
    let hint := { PlacementHint.empty with driveUnit := some 3 }
    let a := start .q35 "q35" ⟨true, true, none, none⟩
    let p : Placement := ⟨"virtio_scsi_pci0.0", .scsi 3 0⟩
    let b := (outcome (place "disk" (.scsi .virtioScsi) hint) a).2
    outcome (place "disk" (.scsi .virtioScsi) hint) a = (.ok (some p), b) ∧
      (b.node? p.bus).map (·.bus.kind) = some .scsi ∧
      hint.ShownBy b (.scsi .virtioScsi) p .scsi := by
  intro hint a p b
  have hplace : (outcome (place "disk" (.scsi .virtioScsi) hint) a).1 = .ok (some p) := by
    decide +kernel
  have hkind : (b.node? p.bus).map (·.bus.kind) = some .scsi := by
    decide +kernel
  have h : outcome (place "disk" (.scsi .virtioScsi) hint) a = (.ok (some p), b) :=
    Prod.ext hplace rfl
  refine ⟨h, hkind, ?_⟩
  obtain ⟨n, hn, hshown, -⟩ := reflected_iff .q35 "q35" ⟨true, true, none, none⟩ [] "disk"
    (.scsi .virtioScsi) hint h
  rw [hn] at hkind
  have hkind : n.bus.kind = .scsi := Option.some.inj hkind
  rw [hkind] at hshown
  exact (hshown rfl).2 nofun

/-- The unit of a drive is ignored when the bus is not named: the drive gets unit 0. -/
theorem not_shownBy_unit :
    let hint := { PlacementHint.empty with driveUnit := some 1 }
    let a := start .i440fx "pc" ⟨false, false, none, none⟩
    let p : Placement := ⟨"ide.0", .unit 0⟩
    let b := (outcome (place "d" .ide hint) a).2
    outcome (place "d" .ide hint) a = (.ok (some p), b) ∧
      (b.node? p.bus).map (·.bus.kind) = some .ide ∧ ¬hint.ShownBy b .ide p .ide := by
  refine ⟨rfl, rfl, ?_⟩
  rintro ⟨-, hunit⟩
  obtain ⟨n, hn, hnumber⟩ := hunit 1 rfl
  obtain rfl := Coordinate.unit.inj hn
  exact absurd hnumber (by decide)

end GuestSpec
