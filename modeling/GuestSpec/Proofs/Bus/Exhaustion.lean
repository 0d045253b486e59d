import GuestSpec.Proofs.Bus.Demand

/-!
# Exhaustion

A device without coordinates gets a place as long as there is one. It is refused for want of room
exactly when all buses that are listed for it are full and there is no seat for the controller that
would be inserted for it, and it never stands in the way of itself: what the search finds can always
be claimed.
-/

namespace GuestSpec

open Alloc BusAllocator

namespace BusAllocator

/-- What the seat asks for of the controller that is inserted for a device when its buses are
full. SCSI adapters are inserted again and again, other controllers when there is none yet. -/
def further (a : BusAllocator) : BusRequest → Option BusRequest
  | .scsi family => some family.seat
  | .ahci =>
    if a.ahciBuses = [] ∧ (a.family = .i440fx ∨ a.family = .armVirt false) then
      some (.pci .integrated)
    else none
  | .usb _ => if a.usb = [] then some (.pci .express) else none
  | .virtioSerial => if a.virtioSerialBus = none then some .virtio else none
  | _ => none

/-- Whether there is no room for a device that gives no coordinates: all buses that it could go on
are full, and so is the bus where a further controller would sit. -/
def Exhausted (a : BusAllocator) (request : BusRequest) : Prop :=
  match request with
  | .pci _ | .virtio => a.SeatFull request
  | _ => (∀ id ∈ a.busesFor request, a.FullAt id) ∧
      match a.further request with
      | some seat => a.SeatFull seat
      | none => a.busesFor request ≠ []

variable {a : BusAllocator} {request : BusRequest}

theorem exhausted_of_further (request : BusRequest) {seat : BusRequest}
    (h : a.further request = some seat) :
    a.Exhausted request ↔ (∀ id ∈ a.busesFor request, a.FullAt id) ∧ a.SeatFull seat := by
  cases request with
  | pci | virtio => cases h
  | _ => simp only [Exhausted, h]

theorem exhausted_of_further_none (request : BusRequest) (hkind : request.listedKind ≠ .none)
    (h : a.further request = none) :
    a.Exhausted request ↔
      (∀ id ∈ a.busesFor request, a.FullAt id) ∧ a.busesFor request ≠ [] := by
  cases request with
  | none | pci | virtio => exact absurd rfl hkind
  | _ => simp only [Exhausted, h]

end BusAllocator

namespace Alloc

variable {α β : Type} {x : Alloc α} {f : α → Alloc β} {a : BusAllocator} {P P' : Prop}
  {Q : α → BusAllocator → Prop}

/-- An operation that fails for want of a coordinate exactly under a condition, and otherwise only
when the machine cannot carry the device. -/
abbrev Exhausts (x : Alloc α) (a : BusAllocator) (P : Prop) : Prop :=
  Ensures x a (fun _ _ => ¬P) fun e b =>
    (P ∧ b = a ∧ ∃ bus, e = exhausted bus) ∨ ¬P ∧ ∃ machine what, e = .notOn machine what

theorem FailsOn.exhausts (hx : FailsOn x a P Q) : Exhausts x a P :=
  hx.mono (fun _ _ h => h.1) fun _ _ h => .inl h

theorem Exhausts.congr (hx : Exhausts x a P) (hP : P ↔ P') : Exhausts x a P' := by
  rwa [propext hP] at hx

theorem exhausts_unsupported {what : String} (hP : ¬P) :
    Ensures (unsupported what : Alloc α) a Q fun e b =>
      (P ∧ b = a ∧ ∃ bus, e = exhausted bus) ∨ ¬P ∧ ∃ machine what, e = .notOn machine what :=
  .inr ⟨hP, _, _, rfl⟩

theorem FailsOn.bind_exhausts (hx : FailsOn x a P Q)
    (hf : ∀ v b, Q v b → Exhausts (f v) b False) : Exhausts (x >>= f) a P :=
  Ensures.bind (hx.imp_error fun _ _ h => .inl h) fun v b h => (hf v b h.2).mono (fun _ _ _ => h.1)
    fun _ _ he => .inr ⟨h.1, (he.resolve_left fun h => h.1).2⟩

/-! ## Searches -/

variable {bus : BusId} {buses : List BusId} {n : BusNode} {c : Coordinate}

theorem firstOn?_eq_none_iff (h : ∀ id ∈ buses, ∃ n, a.node? id = some n) :
    firstOn? a buses = none ↔ ∀ id ∈ buses, a.FullAt id := by
  rw [firstOn?, List.findSome?_eq_none_iff]
  refine forall₂_congr fun id hid => ?_
  obtain ⟨n, hn⟩ := h id hid
  rw [fullAt_iff hn, ← BusNode.firstFree?_eq_none_iff, hn]
  cases hc : n.firstFree? <;> simp [hc]

theorem ensures_firstOn (owner : String) (e : CompileError)
    (h : ∀ id ∈ buses, ∃ n, a.node? id = some n) :
    Ensures (match firstOn? a buses with
      | some (bus, c) => claim owner bus c
      | none => throw e) a (fun _ _ => ¬∀ id ∈ buses, a.FullAt id)
      fun e' b => (∀ id ∈ buses, a.FullAt id) ∧ b = a ∧ e' = e := by
  rw [← firstOn?_eq_none_iff h]
  cases hfound : firstOn? a buses with
  | none => exact ensures_throw ⟨rfl, rfl, rfl⟩
  | some found =>
    obtain ⟨-, n, hn, hc⟩ := exists_of_firstOn? hfound
    exact (succeeds_claim owner hn (BusNode.contains_of_firstFree? hc)
      (BusNode.isFree_of_firstFree? hc)).mono (fun _ _ _ => nofun) fun _ _ h => h.elim

theorem failsOn_firstOn (owner name : String) (h : ∀ id ∈ buses, ∃ n, a.node? id = some n) :
    FailsOn (match firstOn? a buses with
      | some (bus, c) => claim owner bus c
      | none => throw (exhausted name)) a (∀ id ∈ buses, a.FullAt id) fun _ _ => True :=
  (ensures_firstOn owner _ h).mono (fun _ _ h => ⟨h, trivial⟩) fun _ _ h => ⟨h.1, h.2.1, _, h.2.2⟩

theorem succeeds_firstOn (owner : String) (e : CompileError)
    (h : ∀ id ∈ buses, ∃ n, a.node? id = some n) (hbus : bus ∈ buses) (hroom : ¬a.FullAt bus) :
    Succeeds (match firstOn? a buses with
      | some (bus, c) => claim owner bus c
      | none => throw e) a fun _ _ => True :=
  (ensures_firstOn owner e h).mono (fun _ _ _ => trivial) fun _ _ h => hroom (h.1 bus hbus)

/-- A search for any target and any unit of SCSI buses is a search of the whole buses. -/
theorem firstScsi?_any
    (h : ∀ id ∈ buses, ∃ n targets luns, a.node? id = some n ∧ n.shape = .scsi targets luns) :
    firstScsi? a none none buses = firstOn? a buses := by
  rw [firstScsi?, firstOn?]
  induction buses with
  | nil => rfl
  | cons id buses ih =>
    obtain ⟨n, targets, luns, hn, hshape⟩ := h id List.mem_cons_self
    rw [List.findSome?_cons, List.findSome?_cons, hn,
      ih fun id hid => h id (List.mem_cons_of_mem _ hid)]
    simp only [Option.bind_eq_bind, Option.bind_some, BusNode.firstFreeScsi?_any hshape]

end Alloc

/-! ## Devices -/

namespace Alloc

variable {a : BusAllocator} (h : a.Undisturbed) (owner : String)

include h

theorem exists_node (request : BusRequest) {kind : BusKind}
    (hkind : request.listedKind = some kind) (hisa : request ≠ .isaSerial) :
    ∀ id ∈ a.busesFor request, ∃ n, a.node? id = some n := by
  intro id hid
  obtain ⟨n, hn, -⟩ := h.exists_listed request hkind hid hisa
  exact ⟨n, hn⟩

theorem Added.exists_room {part : Part} {b : BusAllocator} (hadd : Added part a b)
    (hdue : ∀ buses controllers pciChain rootPorts pciePciBridge,
      let c := { a with buses, controllers, pciChain, rootPorts, pciePciBridge }
      part.Due c ∧ part.nodes c = part.nodes a) {id : BusId} {kind : BusKind} {shape : Shape}
    {c : Coordinate} (hbus : ⟨id, kind, shape, []⟩ ∈ part.buses a) (hc : shape.contains c = true) :
    ∃ n, b.node? id = some n ∧ n.shape = shape ∧ ¬n.Full := by
  refine ⟨_, hadd.node? h hdue (List.mem_map_of_mem hbus), rfl, ?_⟩
  exact BusNode.not_full_of_taken_nil rfl hc

omit h in
theorem contains_geometry (family : HbaFamily) (htargets : a.config.scsiMaxTargets ≠ some 0)
    (hluns : a.config.scsiMaxLuns ≠ some 0) :
    (Shape.scsi (Part.geometry a family).1 (Part.geometry a family).2).contains (.scsi 0 0) =
      true := by
  have hdefault : ∀ family : HbaFamily,
      0 < family.defaultGeometry.1 ∧ 0 < family.defaultGeometry.2 := by
    intro family
    cases family <;> decide
  have hpos : ∀ {o : Option UInt16} {d : UInt16}, o ≠ some 0 → 0 < d → 0 < o.getD d := by
    intro o d ho hd
    cases o with
    | none => exact hd
    | some n => exact UInt16.pos_iff_ne_zero.2 fun h => ho (congrArg some h)
  simp only [Shape.contains, Bool.and_eq_true, decide_eq_true_eq]
  exact ⟨hpos htargets (hdefault family).1, hpos hluns (hdefault family).2⟩

theorem exhausts_placeScsi (family : HbaFamily) (htargets : a.config.scsiMaxTargets ≠ some 0)
    (hluns : a.config.scsiMaxLuns ≠ some 0) :
    Exhausts (placeScsi owner family .empty) a (a.Exhausted (.scsi family)) := by
  have hnodes : ∀ id ∈ a.hbaBuses family,
      ∃ n targets luns, a.node? id = some n ∧ n.shape = .scsi targets luns := by
    intro id hid
    obtain ⟨n, hn, hkind⟩ := h.exists_listed (.scsi family) rfl hid nofun
    have hfits := (h.laidOut.published n (mem_of_node? hn)).fits
    rw [hkind] at hfits
    cases hshape : n.shape with
    | scsi targets luns => exact ⟨n, targets, luns, hn, hshape⟩
    | _ =>
      rw [hshape] at hfits
      cases hfits
  rw [exhausted_of_further (.scsi family) rfl]
  apply ensures_get_bind
  dsimp only
  split
  · rename_i hlsi
    have hp : ¬a.SeatFull family.seat := by
      rw [hlsi.1]
      exact fun hfull => hlsi.2 hfull.1
    exact Ensures.failing (exhausts_unsupported fun h => hp h.2)
  · rename_i hlsi
    change Exhausts (match firstScsi? a none none (a.hbaBuses family) with
      | some (bus, c) => claim owner bus c
      | none => do
        let bus ← addHba family
        match firstScsi? (← get) none none [bus] with
        | some (bus, c) => claim owner bus c
        | none => throw (.collision (.outOfRange owner bus (.scsi 0 0)))) a _
    rw [firstScsi?_any hnodes]
    have hlisted : ∀ id ∈ a.hbaBuses family, ∃ n, a.node? id = some n := by
      intro id hid
      obtain ⟨n, -, -, hn, -⟩ := hnodes id hid
      exact ⟨n, hn⟩
    cases hfound : firstOn? a (a.hbaBuses family) with
    | some found =>
      have hfull : ¬∀ id ∈ a.hbaBuses family, a.FullAt id := by
        rw [← firstOn?_eq_none_iff hlisted, hfound]
        exact nofun
      have hclaim := ensures_firstOn owner .overflow hlisted
      rw [hfound] at hclaim
      refine hclaim.mono (fun _ _ _ h => hfull h.1) fun _ _ h => absurd h.1 hfull
    | none =>
      have hfull := (firstOn?_eq_none_iff hlisted).1 hfound
      refine (FailsOn.exhausts (Q := fun _ _ => True) ?_).congr (and_iff_right hfull).symm
      have hpci : family = .lsi → a.family.hasPci = true := by simpa using hlsi
      refine (failsOn_addHba h family hpci).bind ?_
      rintro bus b ⟨rfl, hadd⟩
      obtain ⟨n, hn, hshape, hroom⟩ := hadd.exists_room h (fun _ _ _ _ _ => ⟨hpci, rfl⟩)
        List.mem_cons_self (contains_geometry family htargets hluns)
      apply ensures_get_bind
      rw [firstScsi?_any (List.forall_mem_singleton.2 ⟨n, _, _, hn, hshape⟩)]
      exact succeeds_firstOn owner _ (List.forall_mem_singleton.2 ⟨n, hn⟩) List.mem_cons_self
        (mt (fullAt_iff hn).1 hroom)

omit h in
/-- The buses for drives are there, or they come with an AHCI controller, or the machine has no such
drives. -/
theorem driveBuses_cases (hfit : a.Fitted) (ahci : Bool) :
    (a.busesFor (.ofDrive ahci) ≠ [] ∧
      outcome (driveBuses owner ahci) a = (.ok (a.busesFor (.ofDrive ahci)), a)) ∨
    (ahci = true ∧ a.ahciBuses = [] ∧ (a.family = .i440fx ∨ a.family = .armVirt false) ∧
      outcome (driveBuses owner ahci) a = outcome ahciBuses a) ∨
    (a.busesFor (.ofDrive ahci) = [] ∧ a.further (.ofDrive ahci) = none ∧
      ∃ what, outcome (driveBuses owner ahci) a = outcome (unsupported what) a) := by
  rw [driveBuses, outcome_get_bind]
  have hide := hfit.ide
  have hahci := hfit.ahci
  have hnone : ∀ {family : MachineFamily}, a.family = family →
      (family ≠ .q35 ∧ family ≠ .i440fx ∧ family ≠ .armVirt false) → a.ahciBuses = [] := by
    rintro family rfl ⟨hq35, hi440fx, harm⟩
    by_contra hne
    obtain h | h | h := hfit.ahciFamily hne
    · exact hq35 h
    · exact hi440fx h
    · exact harm h
  cases ahci with
  | false =>
    change (a.ideBuses ≠ [] ∧ _ = (Except.ok a.ideBuses, a)) ∨ _ ∨ a.ideBuses = [] ∧ _
    cases hf : a.family with
    | i440fx | q35 =>
      rw [hf] at hide
      exact .inl ⟨by rw [hide]; exact List.cons_ne_nil _ _, rfl⟩
    | armVirt mmio =>
      rw [hf] at hide
      cases mmio <;> exact .inr (.inr ⟨hide, rfl, _, rfl⟩)
    | microvm | pseries | s390Ccw =>
      rw [hf] at hide
      exact .inr (.inr ⟨hide, rfl, _, rfl⟩)
  | true =>
    change (a.ahciBuses ≠ [] ∧ _ = (Except.ok a.ahciBuses, a)) ∨ _ ∨
      a.ahciBuses = [] ∧
        (if a.ahciBuses = [] ∧ _ then some (BusRequest.pci .integrated) else none) = none ∧ _
    have hgives : a.ahciBuses ≠ [] → outcome ahciBuses a = (.ok a.ahciBuses, a) := by
      intro hne
      rw [ahciBuses, outcome_get_bind, if_neg (by simpa using hne)]
      rfl
    cases hf : a.family with
    | q35 =>
      refine .inl ⟨?_, rfl⟩
      rw [hahci hf]
      exact List.cons_ne_nil _ _
    | i440fx =>
      by_cases hnil : a.ahciBuses = []
      · exact .inr (.inl ⟨rfl, hnil, .inl rfl, rfl⟩)
      · exact .inl ⟨hnil, hgives hnil⟩
    | armVirt mmio =>
      cases mmio with
      | false =>
        by_cases hnil : a.ahciBuses = []
        · exact .inr (.inl ⟨rfl, hnil, .inr rfl, rfl⟩)
        · exact .inl ⟨hnil, hgives hnil⟩
      | true => exact .inr (.inr ⟨hnone hf (by decide), if_neg (fun h => nomatch h.2), _, rfl⟩)
    | microvm | pseries | s390Ccw =>
      exact .inr (.inr ⟨hnone hf (by decide), if_neg (fun h => nomatch h.2), _, rfl⟩)

theorem exhausts_placeIde (ahci : Bool) :
    Exhausts (placeIde owner ahci .empty) a (a.Exhausted (.ofDrive ahci)) := by
  have hkind : (BusRequest.ofDrive ahci).listedKind = some .ide := by
    cases ahci <;> rfl
  have hisa : BusRequest.ofDrive ahci ≠ .isaSerial := by
    cases ahci <;> simp [BusRequest.ofDrive]
  have hnone : (BusRequest.ofDrive ahci).listedKind ≠ .none := by
    rw [hkind]
    exact Option.some_ne_none _
  obtain ⟨hne, hgives⟩ | ⟨rfl, hnil, hfamily, hadds⟩ | ⟨hnil, hfurther, what, hunsupported⟩ :=
    driveBuses_cases owner h.fitted ahci
  · have hfurther : a.further (.ofDrive ahci) = none := by
      cases ahci with
      | false => rfl
      | true => exact if_neg fun h => hne h.1
    rw [exhausted_of_further_none _ hnone hfurther, and_iff_left hne]
    exact Ensures.bind_ok hgives (failsOn_firstOn owner _ (exists_node h _ hkind hisa)).exhausts
  · have hp : a.family.hasPci = true := by
      obtain hfamily | hfamily := hfamily <;> rw [hfamily] <;> rfl
    have hfull : ∀ id ∈ a.busesFor .ahci, a.FullAt id := by
      rw [busesFor, hnil]
      exact List.forall_mem_nil _
    change Exhausts _ _ (a.Exhausted .ahci)
    rw [exhausted_of_further .ahci (if_pos ⟨hnil, hfamily⟩), and_iff_right hfull]
    refine Ensures.bind_congr hadds (FailsOn.exhausts (Q := fun _ _ => True)
      ((failsOn_ahciBuses h hnil hp).bind ?_))
    rintro buses b ⟨rfl, hadd⟩
    have hroom : ∀ id ∈ (List.range 6).map (numbered "ahci0."),
        ∃ n, b.node? id = some n ∧ n.shape = .units 1 ∧ ¬n.Full := fun id hid =>
      hadd.exists_room h (c := .unit 0) (fun _ _ _ _ _ => ⟨⟨hnil, hfamily⟩, rfl⟩)
        (List.mem_map_of_mem hid) rfl
    obtain ⟨n, hn, -, hfirst⟩ := hroom (numbered "ahci0." 0) List.mem_cons_self
    refine ensures_get_bind (succeeds_firstOn owner _ ?_ List.mem_cons_self
      (mt (fullAt_iff hn).1 hfirst))
    intro id hid
    obtain ⟨n, hn, -⟩ := hroom id hid
    exact ⟨n, hn⟩
  · rw [exhausted_of_further_none _ hnone hfurther]
    exact Ensures.bind_congr hunsupported
      (Ensures.failing (exhausts_unsupported fun hfull => hfull.2 hnil))

omit h in
theorem exhausts_onUsb (controller : Option String)
    (hnodes : ∀ id ∈ a.busesFor (.usb controller), ∃ n, a.node? id = some n) :
    Exhausts (do
      match ← usbBuses owner controller .empty with
      | [] =>
        unsupported ("USB device " ++ owner ++ " on a " ++ controller.getD "USB" ++ " controller")
      | first :: rest =>
        match PlacementHint.empty.usbPort with
        | some port => claim owner first (.port port)
        | none =>
          match firstOn? (← get) (first :: rest) with
          | some (bus, c) => claim owner bus c
          | none => throw (exhausted first)) a
      ((∀ id ∈ a.busesFor (.usb controller), a.FullAt id) ∧ a.busesFor (.usb controller) ≠ []) := by
  have hgives : outcome (usbBuses owner controller .empty) a =
      (.ok (a.busesFor (.usb controller)), a) := rfl
  refine Ensures.bind_ok hgives ?_
  cases hbuses : a.busesFor (.usb controller) with
  | nil => exact exhausts_unsupported fun h => h.2 rfl
  | cons first rest =>
    rw [hbuses] at hnodes
    refine (failsOn_firstOn owner first hnodes).exhausts.congr ?_
    exact (and_iff_left (List.cons_ne_nil _ _)).symm

/-- The USB controller that the allocator adds is the only one then. -/
theorem exhausts_onUsb0 {b : BusAllocator} (controller : Option String) (hu : a.usb = [])
    (hadd : Added (.usb "usb0" "qemu-xhci" 4 none) a b) :
    Exhausts (do
      match ← usbBuses owner controller .empty with
      | [] =>
        unsupported ("USB device " ++ owner ++ " on a " ++ controller.getD "USB" ++ " controller")
      | first :: rest =>
        match PlacementHint.empty.usbPort with
        | some port => claim owner first (.port port)
        | none =>
          match firstOn? (← get) (first :: rest) with
          | some (bus, c) => claim owner bus c
          | none => throw (exhausted first)) b False := by
  obtain ⟨n, hn, -, hroom⟩ := hadd.exists_room h (c := .port 1)
    (fun _ _ _ _ _ => ⟨⟨hu, rfl, rfl, rfl, rfl⟩, rfl⟩) List.mem_cons_self rfl
  have honly := hadd.eq_usb0 hu controller
  refine (exhausts_onUsb owner controller fun id hid => ?_).congr (iff_of_false ?_ not_false)
  · rw [honly id hid]
    exact ⟨n, hn⟩
  · rintro ⟨hfull, hne⟩
    obtain ⟨id, hid⟩ := List.exists_mem_of_ne_nil _ hne
    have hat := hfull id hid
    rw [honly id hid] at hat
    exact hroom ((fullAt_iff hn).1 hat)

theorem exhausts_placeUsb (controller : Option String) :
    Exhausts (placeUsb owner controller .empty) a (a.Exhausted (.usb controller)) := by
  apply ensures_get_bind
  by_cases hu : a.usb = []
  · have hfull : ∀ id ∈ a.busesFor (.usb controller), a.FullAt id := by
      rw [busesFor, hu]
      exact List.forall_mem_nil _
    rw [if_pos (by simpa using hu),
      exhausted_of_further (.usb controller) (if_pos hu), and_iff_right hfull]
    by_cases hp : a.family.hasPci = true
    · exact (failsOn_addUsb0 h hp).bind_exhausts fun _ b hadd =>
        exhausts_onUsb0 h owner controller hu hadd
    · -- without PCI there is no seat that could be full
      have hseat : ¬a.SeatFull (.pci .express) := fun hfull => hp hfull.1
      refine Ensures.failing (Ensures.failing ?_)
      apply ensures_get_bind
      rw [if_neg hp]
      exact exhausts_unsupported hseat
  · rw [if_neg (by simpa using hu),
      exhausted_of_further_none (.usb controller) (Option.some_ne_none _) (if_neg hu)]
    exact exhausts_onUsb owner controller (exists_node h (.usb controller) rfl (by simp))

omit h in
theorem exhausts_claimNext {request : BusRequest} {bus : BusId} {n : BusNode}
    (hbuses : a.busesFor request = [bus]) (hn : a.node? bus = some n) :
    Exhausts (claimNext owner bus) a
      ((∀ id ∈ a.busesFor request, a.FullAt id) ∧ a.busesFor request ≠ []) := by
  refine (failsOn_claimNext owner hn).exhausts.congr ?_
  rw [hbuses, List.forall_mem_singleton, fullAt_iff hn, and_iff_left (List.cons_ne_nil _ _)]

theorem exhausts_placeFloppy :
    Exhausts (placeFloppy owner .empty) a (a.Exhausted .floppy) := by
  rw [exhausted_of_further_none .floppy nofun rfl]
  have hnodes := exists_node h .floppy rfl nofun
  cases hb : a.floppyBus with
  | some bus =>
    have hbuses : a.busesFor .floppy = [bus] := by
      rw [busesFor, hb]
      rfl
    have hgives : outcome (floppyBus owner) a = (.ok bus, a) := by
      rw [floppyBus, outcome_get_bind, hb]
      rfl
    obtain ⟨n, hn⟩ := hnodes bus (hbuses ▸ List.mem_cons_self)
    exact Ensures.bind_ok (hgives) (exhausts_claimNext owner hbuses hn)
  | none =>
    have hbuses : a.busesFor .floppy = [] := by
      rw [busesFor, hb]
      rfl
    have hfull : ¬((∀ id ∈ a.busesFor .floppy, a.FullAt id) ∧ a.busesFor .floppy ≠ []) :=
      fun hfull => hfull.2 hbuses
    by_cases hf : a.family = .q35
    · have hgives : outcome (floppyBus owner) a = (.ok "fdc0.0", Part.fdc.install a none) := by
        rw [floppyBus, outcome_get_bind, hb]
        dsimp only
        rw [if_pos hf]
        rfl
      have hdue : Part.Due a .fdc := ⟨hb, hf⟩
      have hn := Undisturbed.node?_install h.distinct hdue none List.mem_cons_self
      have hroom := BusNode.not_full_of_taken_nil (c := .unit 0)
        (n := .ofShape "fdc0.0" .floppy (.units 2) (some "fdc0") []) rfl rfl
      exact Ensures.bind_ok hgives ((succeeds_claimNext owner hn hroom).mono (fun _ _ _ => hfull)
        fun _ _ h => h.elim)
    · have hgives : outcome (floppyBus owner) a =
          outcome (unsupported ("floppy " ++ owner)) a := by
        rw [floppyBus, outcome_get_bind, hb]
        dsimp only
        rw [if_neg hf]
      exact Ensures.bind_congr hgives (Ensures.failing (exhausts_unsupported hfull))

omit h in
theorem exhausts_placeIsaSerial :
    Exhausts (placeIsaSerial owner) a (a.Exhausted .isaSerial) := by
  rw [exhausted_of_further_none .isaSerial nofun rfl]
  apply ensures_get_bind
  cases hn : a.node? isaBus with
  | some n => exact exhausts_claimNext owner rfl hn
  | none =>
    refine exhausts_unsupported fun hfull => ?_
    obtain ⟨n, hnode, -⟩ := hfull.1 isaBus List.mem_cons_self
    cases hn.symm.trans hnode

theorem exhausts_onVirtioSerial :
    Exhausts (do claimNext owner (← virtioSerialBus)) a (a.Exhausted .virtioSerial) := by
  cases hb : a.virtioSerialBus with
  | some bus =>
    have hbuses : a.busesFor .virtioSerial = [bus] := by
      rw [busesFor, hb]
      rfl
    have hfurther : a.further .virtioSerial = none := by
      apply if_neg
      rw [hb]
      exact Option.some_ne_none _
    obtain ⟨n, hn⟩ := exists_node h .virtioSerial rfl (by simp) bus (hbuses ▸ List.mem_cons_self)
    rw [exhausted_of_further_none .virtioSerial (Option.some_ne_none _) hfurther]
    exact Ensures.bind_ok (outcome_virtioSerialBus hb) (exhausts_claimNext owner hbuses hn)
  | none =>
    have hfull : ∀ id ∈ a.busesFor .virtioSerial, a.FullAt id := by
      rw [busesFor, hb]
      exact List.forall_mem_nil _
    rw [exhausted_of_further .virtioSerial (if_pos hb), and_iff_right hfull]
    refine FailsOn.exhausts (Q := fun _ _ => True) ((failsOn_virtioSerialBus h hb).bind ?_)
    rintro bus b ⟨rfl, hadd⟩
    obtain ⟨n, hn, -, hroom⟩ := hadd.exists_room h (c := .port 1) (fun _ _ _ _ _ => ⟨hb, rfl⟩)
      List.mem_cons_self rfl
    exact (succeeds_claimNext owner hn hroom).imp fun _ _ _ => trivial

omit h in
theorem Exhausts.some {x : Alloc Placement} {P : Prop} (hx : Exhausts x a P) :
    Exhausts (some <$> x) a P := by
  rw [map_eq_pure_bind]
  exact Ensures.bind hx fun _ _ hP => ensures_pure hP

/-- A device without coordinates is refused for want of room exactly when there is none. -/
theorem exhausts_place (request : BusRequest) (htargets : a.config.scsiMaxTargets ≠ some 0)
    (hluns : a.config.scsiMaxLuns ≠ some 0) :
    Exhausts (place owner request .empty) a (a.Exhausted request) := by
  cases request with
  | none => exact ensures_pure fun hfull => hfull.2 rfl
  | pci kind =>
    apply Exhausts.some
    by_cases hp : a.family.hasPci = true
    · exact (failsOn_placePci_empty h.wired h.grounded owner kind hp).exhausts
    · apply ensures_get_bind
      rw [if_neg hp]
      exact exhausts_unsupported fun hfull => hp hfull.1
  | virtio => exact (failsOn_placeVirtio_empty h.wired h.grounded owner).exhausts.some
  | scsi family => exact (exhausts_placeScsi h owner family htargets hluns).some
  | ide => exact (exhausts_placeIde h owner false).some
  | ahci => exact (exhausts_placeIde h owner true).some
  | usb controller => exact (exhausts_placeUsb h owner controller).some
  | floppy => exact (exhausts_placeFloppy h owner).some
  | isaSerial => exact (exhausts_placeIsaSerial owner).some
  | virtioSerial =>
    have hx := (exhausts_onVirtioSerial h owner).some
    rw [map_eq_pure_bind, bind_assoc] at hx
    exact hx

end Alloc

section Run

variable (family : MachineFamily) (machine : String) (config : AllocatorConfig)

/-- Automatic placement never collides and never gives up early: after any calls that place devices,
at whatever coordinates, a device without coordinates is never refused for a collision, and it is
refused for want of room exactly when every bus that it could go on is full and so is the bus where
a further controller would sit. Then nothing was done. -/
theorem refused_iff_exhausted {calls : List BusCall}
    (hcalls : ∀ call ∈ calls, ∃ owner request hint, call = .place owner request hint)
    (htargets : config.scsiMaxTargets ≠ some 0) (hluns : config.scsiMaxLuns ≠ some 0)
    (owner : String) (request : BusRequest) :
    let a := (start family machine config).afterAll calls
    (∀ e b, outcome (place owner request .empty) a ≠ (.error (.collision e), b)) ∧
    (∀ bus b, outcome (place owner request .empty) a = (.error (exhausted bus), b) → b = a) ∧
    ((∃ bus b, outcome (place owner request .empty) a = (.error (exhausted bus), b)) ↔
      a.Exhausted request) := by
  intro a
  have hids : usbIds calls = [] := by
    rw [usbIds, List.filterMap_eq_nil_iff]
    intro call hcall
    obtain ⟨owner, request, hint, rfl⟩ := hcalls call hcall
    rfl
  have hconfig : a.config = config := config_afterAll (.start family machine config) calls
  have hplace := exhausts_place (undisturbed_run family machine config hids) owner request
    (by rwa [hconfig]) (by rwa [hconfig])
  refine ⟨fun e b h => ?_, fun bus b h => ?_, fun hrefused => ?_, fun hfull => ?_⟩
  · obtain ⟨-, -, bus, he⟩ | ⟨-, machine, what, he⟩ := hplace.error h
    · cases he
    · cases he
  · obtain ⟨-, rfl, -⟩ | ⟨-, machine, what, he⟩ := hplace.error h
    · rfl
    · cases he
  · obtain ⟨bus, b, h⟩ := hrefused
    obtain ⟨hfull, -⟩ | ⟨-, machine, what, he⟩ := hplace.error h
    · exact hfull
    · cases he
  · cases h : outcome (place owner request .empty) a with
    | mk r b =>
      cases r with
      | ok p => exact absurd hfull (hplace.ok h)
      | error e =>
        obtain ⟨-, -, bus, rfl⟩ | ⟨hnot, -⟩ := hplace.error h
        · exact ⟨bus, b, rfl⟩
        · exact absurd hfull hnot

end Run

/-- A fifth serial port has no place on the ISA bus. -/
theorem exhausted_isaSerial :
    let config : AllocatorConfig := ⟨false, false, none, none⟩
    let calls := List.replicate 4 (BusCall.place "serial" .isaSerial .empty)
    (∀ call ∈ calls, ∃ owner request hint, call = .place owner request hint) ∧
      config.scsiMaxTargets ≠ some 0 ∧ config.scsiMaxLuns ≠ some 0 ∧
      ((start .i440fx "pc" config).afterAll calls).Exhausted .isaSerial := by
  intro config calls
  have hcalls : ∀ call ∈ calls, ∃ owner request hint, call = .place owner request hint :=
    fun call hcall => ⟨_, _, _, List.eq_of_mem_replicate hcall⟩
  refine ⟨hcalls, nofun, nofun, ?_⟩
  have hrefused : (outcome (place "serial" .isaSerial .empty)
      ((start .i440fx "pc" config).afterAll calls)).1 = .error (exhausted "isa.0") := by
    decide +kernel
  obtain ⟨-, -, hiff⟩ := refused_iff_exhausted .i440fx "pc" config hcalls nofun nofun "serial"
    .isaSerial
  exact hiff.1 ⟨"isa.0", _, Prod.ext hrefused rfl⟩

end GuestSpec
