import GuestSpec.Proofs.Bus.Names
import Mathlib.Data.List.Perm.Basic

/-!
# Accounting of coordinates

What is taken on the buses is exactly what was granted: to the callers, and to the controllers that
sit somewhere. The rest is what machines and bridges reserve. A coordinate is granted once, even
when a caller gives a USB controller an id that is in use: then only the first bus of this id is
ever reached.
-/

namespace GuestSpec

open Alloc BusAllocator

def BusNode.held (n : BusNode) : List Grant :=
  n.taken.map fun c => ⟨c.owner, ⟨n.bus.id, c.coordinate⟩⟩

def BusNode.isBridged (n : BusNode) : Bool :=
  n.bus.kind = .pciBridge ∨ n.bus.kind = .pciePciBridge

def BusNode.slotZero (n : BusNode) : Grant := ⟨n.bus.id, ⟨n.bus.id, .pci ⟨0, 0⟩⟩⟩

namespace BusAllocator

def taken (a : BusAllocator) : List Grant := a.buses.flatMap BusNode.held

/-- What nobody was granted: the slots that the machine occupies from the start, and slot 0 behind
every bridge. -/
def reservations (a : BusAllocator) : List Grant :=
  (builtInBuses a.family).flatMap BusNode.held ++
    (a.buses.filter BusNode.isBridged).map BusNode.slotZero

def recorded (a : BusAllocator) : List Grant :=
  a.controllers.filterMap fun c => c.placement.map fun p => ⟨c.id, p⟩

end BusAllocator

section Steps

variable {a b : BusAllocator} {part : Part} {ask : Option Placement} {owner : String}
  {p : Placement}

theorem BusNode.held_claim (n : BusNode) (c : Coordinate) (owner : String) :
    (n.claim c owner).held = n.held ++ [⟨owner, ⟨n.bus.id, c⟩⟩] := by
  simp [held]

theorem reservations_addClaim {bus : BusId} {c : Coordinate} :
    (a.addClaim bus c owner).reservations = a.reservations := by
  have hslots : ∀ ns : List BusNode, (ns.filter BusNode.isBridged).map BusNode.slotZero =
      ((ns.map BusNode.bus).filter fun b => b.kind = .pciBridge ∨ b.kind = .pciePciBridge).map
        fun b => ⟨b.id, ⟨b.id, .pci ⟨0, 0⟩⟩⟩ := by
    intro ns
    rw [List.filter_map, List.map_map]
    rfl
  rw [reservations, reservations, hslots, hslots, map_bus_addClaim]
  rfl

theorem Alloc.Granted.taken_perm (h : Granted ask a owner p b) :
    b.taken.Perm (⟨owner, p⟩ :: a.taken) := by
  obtain ⟨n, hn, -, -, -, rfl⟩ := h
  obtain ⟨l, r, hbuses, hid, hl⟩ := split_of_node? hn
  rw [taken, taken, addClaim_eq, hbuses]
  dsimp only
  rw [updateFirst_append hl hid]
  simp only [List.flatMap_append, List.flatMap_cons, BusNode.held_claim, hid, List.append_assoc,
    List.cons_append, List.nil_append]
  rw [← List.append_assoc, ← List.append_assoc]
  exact List.perm_middle

theorem Alloc.Granted.reservations_eq (h : Granted ask a owner p b) :
    b.reservations = a.reservations := by
  obtain ⟨_, -, -, -, -, rfl⟩ := h
  exact reservations_addClaim

theorem Alloc.Granted.recorded_eq (h : Granted ask a owner p b) : b.recorded = a.recorded := by
  obtain ⟨_, -, -, -, -, rfl⟩ := h
  rfl

theorem Part.held_nodes : (part.nodes a).flatMap BusNode.held =
    ((part.nodes a).filter BusNode.isBridged).map BusNode.slotZero := by
  cases part <;> rfl

theorem Part.id_eq_of_seated {placement : Option Placement} (h : Seated part a placement b) :
    part.id b = part.id a := by
  rw [h.eq_with]
  cases part <;> rfl

theorem Part.taken_of_mem_nodes {n : BusNode} (hn : n ∈ part.nodes a) :
    n.taken = [] ∨ n.taken = [slotZeroOf n.bus.id] := by
  cases part with
  | pcieBridge | pciBridge =>
    obtain rfl := List.mem_singleton.1 hn
    exact .inr rfl
  | ahci =>
    obtain ⟨b, hb, rfl⟩ := List.mem_map.1 hn
    obtain ⟨id, -, rfl⟩ := List.mem_map.1 hb
    exact .inl rfl
  | _ =>
    obtain rfl := List.mem_singleton.1 hn
    exact .inl rfl

theorem taken_install {placement : Option Placement} : (part.install a placement).taken =
    a.taken ++ ((part.nodes a).filter BusNode.isBridged).map BusNode.slotZero := by
  rw [taken, Part.buses_install, List.flatMap_append, Part.held_nodes]
  rfl

theorem reservations_install {placement : Option Placement} :
    (part.install a placement).reservations =
      a.reservations ++ ((part.nodes a).filter BusNode.isBridged).map BusNode.slotZero := by
  rw [reservations, Part.family_install, Part.buses_install, List.filter_append, List.map_append,
    ← List.append_assoc]
  rfl

theorem recorded_install {placement : Option Placement} :
    (part.install a placement).recorded =
      a.recorded ++ (placement.map fun p => ⟨part.id a, p⟩).toList := by
  rw [recorded, Part.controllers_install, List.filterMap_append]
  cases placement <;> rfl

end Steps

/-! ## The ledger -/

/-- What is taken is what is reserved, what callers were granted, and what controllers were granted;
each exactly once. -/
def BusAllocator.Accounted (a : BusAllocator) (granted : List Grant) : Prop :=
  a.taken.Perm (a.reservations ++ (granted ++ a.recorded))

namespace BusAllocator.Accounted

variable {a b : BusAllocator} {part : Part} {granted : List Grant}

theorem start (family : MachineFamily) (machine : String) (config : AllocatorConfig) :
    (BusAllocator.start family machine config).Accounted [] := by
  have hslots : ∀ family,
      ((builtInBuses family).filter BusNode.isBridged).map BusNode.slotZero = [] := by
    decide
  rw [Accounted, reservations]
  change ((builtInBuses family).flatMap BusNode.held).Perm
    ((builtInBuses family).flatMap BusNode.held ++
      ((builtInBuses family).filter BusNode.isBridged).map BusNode.slotZero ++ ([] ++ []))
  rw [hslots, List.append_nil, List.append_nil, List.append_nil]

theorem claim {ask : Option Placement} {owner : String} {p : Placement}
    (h : a.Accounted granted) (hg : Granted ask a owner p b) :
    b.Accounted (granted ++ [⟨owner, p⟩]) := by
  rw [Accounted, hg.reservations_eq, hg.recorded_eq, List.append_assoc]
  calc
    List.Perm b.taken (⟨owner, p⟩ :: a.taken) := hg.taken_perm
    List.Perm _ (⟨owner, p⟩ :: (a.reservations ++ (granted ++ a.recorded))) := h.cons _
    List.Perm _ (a.reservations ++ ⟨owner, p⟩ :: (granted ++ a.recorded)) := List.perm_middle.symm
    List.Perm _ (a.reservations ++ (granted ++ ⟨owner, p⟩ :: a.recorded)) :=
      List.perm_middle.symm.append_left _

theorem seated {placement : Option Placement} (h : a.Accounted granted)
    (hs : Seated part a placement b) :
    List.Perm b.taken (b.reservations ++
      (granted ++ (b.recorded ++ (placement.map fun p => ⟨part.id b, p⟩).toList))) := by
  obtain ⟨-, rfl, rfl⟩ | ⟨p, rfl, hg⟩ := hs.eq_or_granted
  · rw [Option.map_none, Option.toList_none, List.append_nil]
    exact h
  · rw [hg.reservations_eq, hg.recorded_eq, Part.id_eq_of_seated hs, Option.map_some,
      Option.toList_some, ← List.append_assoc granted, ← List.append_assoc a.reservations]
    exact hg.taken_perm.trans ((h.cons _).trans (List.perm_append_singleton _ _).symm)

theorem inserted (h : a.Accounted granted) (hi : Inserted part a b) : b.Accounted granted := by
  obtain ⟨placement, c, hs, rfl⟩ := hi
  rw [Accounted, taken_install, reservations_install, recorded_install, List.append_assoc]
  have hseat := (h.seated hs).append_right ((part.nodes c).filter BusNode.isBridged
    |>.map BusNode.slotZero)
  rw [List.append_assoc] at hseat
  exact hseat.trans (List.perm_append_comm.append_left _)

theorem insertions {S : Part → Prop} (h : a.Accounted granted) (hi : Insertions S a b) :
    b.Accounted granted :=
  hi.induction (I := fun a => a.Accounted granted) (fun _ _ _ _ hi h => h.inserted hi) h

theorem effect {call : BusCall} {grant : Option Grant} (h : a.Accounted granted)
    (he : call.Effect a b grant) : b.Accounted (granted ++ grant.toList) := by
  cases he with
  | nothing hc =>
    rw [Option.toList_none, List.append_nil]
    exact h.insertions hc
  | placed hc hg => exact (h.insertions hc).claim hg
  | added hc hi =>
    rw [Option.toList_none, List.append_nil]
    exact (h.insertions hc).inserted hi

theorem afterAll (h : a.Accounted granted) (ha : a.Grounded) (calls : List BusCall) :
    (a.afterAll calls).Accounted (granted ++ a.grants calls) := by
  induction calls generalizing a granted with
  | nil =>
    rw [grants, List.append_nil]
    exact h
  | cons call calls ih =>
    rw [grants, ← List.append_assoc]
    exact ih (h.effect (call.effect ha)) (ha.after call)

end BusAllocator.Accounted

/-! ## Nothing is granted twice -/

/-- No coordinate is taken twice on a bus, and what is behind an id that is used again is never
touched. -/
structure BusAllocator.Exclusive (a : BusAllocator) : Prop where
  named : a.Named
  coordinates : ∀ n ∈ a.buses, (n.taken.map Claim.coordinate).Nodup
  shadows : a.buses.Pairwise fun m n => m.bus.id = n.bus.id → n.taken = []

namespace BusAllocator.Exclusive

variable {a b : BusAllocator} {part : Part}

theorem start (family : MachineFamily) (machine : String) (config : AllocatorConfig) :
    (BusAllocator.start family machine config).Exclusive where
  named := Named.start family machine config
  coordinates := by
    have hcoordinates : ∀ family, ∀ n ∈ builtInBuses family,
        (n.taken.map Claim.coordinate).Nodup := by
      decide
    exact hcoordinates family
  shadows := by
    have hnodup := BusName.nodup_ids_builtInBuses family
    exact (List.pairwise_map.1 hnodup).imp fun hne heq => absurd heq hne

theorem granted {ask : Option Placement} {owner : String} {p : Placement} (h : a.Exclusive)
    (hg : Granted ask a owner p b) : b.Exclusive := by
  have hnamed := h.named.granted hg
  obtain ⟨n, hn, -, hholder, -, rfl⟩ := hg
  obtain ⟨l, r, hbuses, hid, hl⟩ := split_of_node? hn
  have hfree : ∀ d ∈ n.taken, d.coordinate ≠ p.coordinate :=
    BusNode.owner?_eq_none_iff.1 (BusNode.holder?_eq_none_iff.1 hholder).1
  have hnew : (a.addClaim p.bus p.coordinate owner).buses =
      l ++ n.claim p.coordinate owner :: r := by
    rw [addClaim_eq, hbuses]
    exact updateFirst_append hl hid
  have hcoords := h.coordinates
  have hshadows := h.shadows
  rw [hbuses] at hcoords hshadows
  refine ⟨hnamed, ?_, ?_⟩
  · rw [hnew]
    intro m hm
    rcases List.mem_append.1 hm with hm | hm
    · exact hcoords m (List.mem_append_left _ hm)
    · rcases List.mem_cons.1 hm with rfl | hm
      · rw [BusNode.taken_claim, List.map_append]
        refine (hcoords n (List.mem_append_right _ List.mem_cons_self)).append
          (List.nodup_singleton _) ?_
        intro c hc hd
        obtain ⟨d, hd', rfl⟩ := List.mem_map.1 hc
        exact hfree d hd' (List.mem_singleton.1 hd)
      · exact hcoords m (List.mem_append_right _ (List.mem_cons_of_mem _ hm))
  · -- a shadowed bus is not reached, since the first one of its id comes before it
    rw [hnew]
    obtain ⟨hleft, hright, hcross⟩ := List.pairwise_append.1 hshadows
    obtain ⟨hfirst, hright⟩ := List.pairwise_cons.1 hright
    refine List.pairwise_append.2 ⟨hleft, List.pairwise_cons.2 ⟨hfirst, hright⟩, ?_⟩
    intro m hm k hk heq
    rcases List.mem_cons.1 hk with rfl | hk
    · exact absurd (heq.trans hid) (hl m hm)
    · exact hcross m hm k (List.mem_cons_of_mem _ hk) heq

theorem seated {placement : Option Placement} (h : a.Exclusive)
    (hs : Seated part a placement b) : b.Exclusive :=
  hs.preserves h.granted h

/-- A new bus has nothing taken unless it lies behind a bridge, and then its id is new. -/
theorem taken_of_mem_nodes (h : a.Named) (hadm : part.Admitted a) {m n : BusNode}
    (hm : m ∈ a.buses) (hn : n ∈ part.nodes a) (hid : m.bus.id = n.bus.id) : n.taken = [] := by
  cases part with
  | pcieBridge | pciBridge =>
    obtain rfl := List.mem_singleton.1 hn
    exact absurd hid (h.ne_bridge (hadm.due nofun) trivial hm)
  | ahci =>
    obtain ⟨b, hb, rfl⟩ := List.mem_map.1 hn
    obtain ⟨id, -, rfl⟩ := List.mem_map.1 hb
    rfl
  | _ =>
    obtain rfl := List.mem_singleton.1 hn
    rfl

theorem install (h : a.Exclusive) (hadm : part.Admitted a) (placement : Option Placement) :
    (part.install a placement).Exclusive where
  named := h.named.install hadm placement
  coordinates := by
    rw [Part.buses_install]
    intro n hn
    rcases List.mem_append.1 hn with hn | hn
    · exact h.coordinates n hn
    · obtain ⟨hnone⟩ | ⟨hone⟩ := Part.taken_of_mem_nodes hn
      · rw [hnone]
        exact List.nodup_nil
      · rw [hone]
        exact List.nodup_singleton _
  shadows := by
    rw [Part.buses_install]
    refine List.pairwise_append.2 ⟨h.shadows, ?_, fun m hm n hn => ?_⟩
    · have hnodup : ((part.nodes a).map (·.bus.id)).Nodup := by
        rw [← Part.map_text_names]
        exact Part.nodup_text_names
      exact (List.pairwise_map.1 hnodup).imp fun hne heq => absurd heq hne
    · exact taken_of_mem_nodes h.named hadm hm hn

theorem inserted (h : a.Exclusive) (hadm : part.Admitted a) (hi : Inserted part a b) :
    b.Exclusive := by
  obtain ⟨placement, c, hs, rfl⟩ := hi
  exact (h.seated hs).install (hs.admitted hadm) placement

theorem afterAll (h : a.Exclusive) (ha : a.Grounded) (calls : List BusCall) :
    (a.afterAll calls).Exclusive :=
  run_induction (I := Exclusive) (fun _ _ _ _ _ hg h => h.granted hg)
    (fun _ _ _ hadm hi h => h.inserted hadm hi) ha h calls

theorem nodup_placements (h : a.Exclusive) : (a.taken.map Grant.placement).Nodup := by
  rw [taken, List.map_flatMap, List.nodup_flatMap]
  refine ⟨fun n hn => ?_, h.shadows.imp fun {m n} hshadow => ?_⟩
  · have hinj : Function.Injective fun c => (⟨n.bus.id, c⟩ : Placement) := fun _ _ h =>
      (Placement.mk.inj h).2
    have hmap := (h.coordinates n hn).map hinj
    rw [List.map_map] at hmap
    rw [BusNode.held, List.map_map]
    exact hmap
  · intro p hm hn
    obtain ⟨g, hg, rfl⟩ := List.mem_map.1 hm
    obtain ⟨c, -, rfl⟩ := List.mem_map.1 hg
    obtain ⟨g', hg', heq⟩ := List.mem_map.1 hn
    obtain ⟨d, hd, rfl⟩ := List.mem_map.1 hg'
    rw [hshadow (Placement.mk.inj heq).1.symm] at hd
    cases hd

theorem node?_of_mem_taken (h : a.Exclusive) {n : BusNode} {c : Claim} (hn : n ∈ a.buses)
    (hc : c ∈ n.taken) : a.node? n.bus.id = some n := by
  obtain ⟨l, r, hbuses⟩ := List.append_of_mem hn
  have hshadows := h.shadows
  rw [hbuses] at hshadows
  have hcross := (List.pairwise_append.1 hshadows).2.2
  refine List.find?_eq_some_iff_append.2 ⟨by simp, l, r, hbuses, fun m hm => ?_⟩
  have hne : m.bus.id ≠ n.bus.id := fun hid =>
    List.ne_nil_of_mem hc (hcross m hm n List.mem_cons_self hid)
  simpa using hne

theorem owner?_of_mem_taken (h : a.Exclusive) {n : BusNode} {c : Claim} (hn : n ∈ a.buses)
    (hc : c ∈ n.taken) : n.owner? c.coordinate = some c.owner := by
  rw [BusNode.owner?]
  cases hd : n.taken.find? (·.coordinate == c.coordinate) with
  | none => exact absurd (List.find?_eq_none.1 hd c hc) (by simp)
  | some d =>
    have hcoordinate : d.coordinate = c.coordinate := by simpa using List.find?_some hd
    rw [List.inj_on_of_nodup_map (h.coordinates n hn) (List.mem_of_find?_eq_some hd) hc
      hcoordinate]
    rfl

end BusAllocator.Exclusive

/-- What is taken stays with its owner whatever calls follow. -/
theorem Grows.owner?_of_mem_taken {a b : BusAllocator} (hab : Grows a b)
    (ha : a.Exclusive) (hb : b.Exclusive) {g : Grant} (hg : g ∈ a.taken) :
    ∃ n, b.node? g.placement.bus = some n ∧ n.owner? g.placement.coordinate = some g.owner := by
  obtain ⟨n, hn, hheld⟩ := List.mem_flatMap.1 hg
  obtain ⟨c, hc, rfl⟩ := List.mem_map.1 hheld
  obtain ⟨m, hm, -, -, hreserved, hclaims⟩ := hab _ n (ha.node?_of_mem_taken hn hc)
  have hcm : c ∈ m.taken := by
    rw [BusNode.taken, List.mem_append] at hc ⊢
    exact hc.imp (hreserved ▸ ·) (hclaims.subset ·)
  exact ⟨m, hm, hb.owner?_of_mem_taken (mem_of_node? hm) hcm⟩

section Run

variable (family : MachineFamily) (machine : String) (config : AllocatorConfig)

theorem exclusive_run (calls : List BusCall) :
    ((start family machine config).afterAll calls).Exclusive :=
  (Exclusive.start family machine config).afterAll (.start family machine config) calls

theorem accounted_run (calls : List BusCall) :
    ((start family machine config).afterAll calls).Accounted
      ((start family machine config).grants calls) :=
  (Accounted.start family machine config).afterAll (.start family machine config) calls

/-- Exact accounting. After any calls, failing ones included, what is taken on the buses is what is
reserved, what the calls granted, and where the controllers sit, each exactly once. All these places
are different, and each granted place belongs to the same owner after any further calls. -/
theorem taken_perm_granted (calls : List BusCall) :
    let s := start family machine config
    let a := s.afterAll calls
    let granted := s.grants calls ++ a.recorded
    a.taken.Perm (a.reservations ++ granted) ∧
      ((a.reservations ++ granted).map Grant.placement).Nodup ∧
      ∀ g ∈ granted, ∀ more, ∃ n, (a.afterAll more).node? g.placement.bus = some n ∧
        n.owner? g.placement.coordinate = some g.owner := by
  intro s a granted
  have hperm : a.taken.Perm (a.reservations ++ granted) := accounted_run family machine config calls
  have hexclusive : a.Exclusive := exclusive_run family machine config calls
  have hgrounded : a.Grounded := grounded_run family machine config calls
  refine ⟨hperm, (hperm.map _).nodup_iff.1 hexclusive.nodup_placements, fun g hg more => ?_⟩
  have htaken : g ∈ a.taken := hperm.mem_iff.2 (List.mem_append_right _ hg)
  exact Grows.owner?_of_mem_taken (grows_afterAll hgrounded more) hexclusive
    (hexclusive.afterAll hgrounded more) htaken

end Run

end GuestSpec
