import GuestSpec.Proofs.Compile.Placing
import Mathlib

/-!
# The device tree of a document

In every document that a compilation gives, all placements are different, each lies on a declared
bus that accepts it, and the controllers are listed in an order in which they can be created.
-/

namespace GuestSpec

open Alloc BusAllocator

def InstanceSpec.bus? (s : InstanceSpec) (id : BusId) : Option Bus := s.buses.find? (·.id == id)

/-- A device tree without conflicts, without places that are not there, and in a creatable order. -/
structure InstanceSpec.WellPlaced (s : InstanceSpec) : Prop where
  /-- No two controllers or devices have one place. -/
  distinct : (s.placements.map (·.2)).Nodup
  /-- Every place is one of the bus that its bus id declares first. -/
  declared : ∀ owner p, (owner, p) ∈ s.placements →
    ∃ b, s.bus? p.bus = some b ∧ b.Accepts s.controllers p.coordinate
  /-- A controller sits on a bus that is built in or provided by an earlier controller. -/
  creatable : ∀ pre d post, s.controllers = pre ++ d :: post → ∀ p, d.placement = some p →
    ∃ b, s.bus? p.bus = some b ∧ b.ProvidedBy pre

/-- What the placements of a document say, as grants. -/
def InstanceSpec.grants (s : InstanceSpec) : List Grant :=
  s.placements.map fun (owner, p) => ⟨owner, p⟩

theorem InstanceSpec.grants_perm (vmName : String) (plan : Plan) (placed : Plan.Placed)
    (a : BusAllocator) :
    (plan.document vmName placed a).grants.Perm
      (a.recorded ++ placed.nodes.filterMap DeviceNode.grant?) := by
  have hgrants : (plan.document vmName placed a).grants =
      a.recorded ++ (plan.document vmName placed a).allDevices.filterMap DeviceNode.grant? := by
    rw [grants, placements, List.map_append, List.map_filterMap, List.map_filterMap]
    congr 1
    · refine List.filterMap_congr fun d _ => ?_
      rw [Option.map_map]
      rfl
    · refine List.filterMap_congr fun d _ => ?_
      rw [Option.map_map]
      rfl
  rw [hgrants]
  refine (List.Perm.filterMap _ ?_).append_left _
  -- memory devices come last in a document but are placed first
  apply List.Perm.append_right _
  rw [List.append_assoc (placed.memory.map MemoryDevice.device)]
  exact List.perm_append_comm

section Sound

variable {a : BusAllocator} {granted : List Grant}

theorem find?_parts (id : BusId) :
    a.parts.1.find? (·.id == id) = (a.node? id).map BusNode.bus := by
  rw [parts, List.find?_map]
  rfl

/-- Every placement is taken on the bus that its bus id reaches. -/
theorem BusAllocator.Sound.exists_accepts (h : a.Sound granted) {g : Grant}
    (hg : g ∈ granted ++ a.recorded) :
    ∃ b, a.parts.1.find? (·.id == g.placement.bus) = some b ∧
      b.Accepts a.controllers g.placement.coordinate := by
  have htaken : g ∈ a.taken := h.accounted.mem_iff.2 (List.mem_append_right _ hg)
  obtain ⟨n, hn, hheld⟩ := List.mem_flatMap.1 htaken
  obtain ⟨c, hc, rfl⟩ := List.mem_map.1 hheld
  refine ⟨n.bus, ?_, (h.laidOut.published n hn).accepts (h.laidOut.inside n hn c hc)⟩
  rw [find?_parts, h.exclusive.node?_of_mem_taken hn hc, Option.map_some]

theorem BusAllocator.Sound.nodup_placements (h : a.Sound granted) :
    ((granted ++ a.recorded).map Grant.placement).Nodup := by
  have hnodup := (h.accounted.map Grant.placement).nodup_iff.1 h.exclusive.nodup_placements
  rw [List.map_append] at hnodup
  exact hnodup.of_append_right

end Sound

theorem Plan.wellPlaced_document {a b : BusAllocator} {granted : List Grant} {placed : Placed}
    (vmName : String) (plan : Plan) (h : a.Sound granted) (hparts : b.parts = a.parts)
    (hplaced : (placed.nodes.filterMap DeviceNode.grant?).Sublist granted) :
    (plan.document vmName placed b).WellPlaced := by
  have hbuses : (plan.document vmName placed b).buses = a.parts.1 := congrArg Prod.fst hparts
  have hcontrollers : (plan.document vmName placed b).controllers = a.controllers :=
    congrArg Prod.snd hparts
  have hrecorded : b.recorded = a.recorded := by
    rw [recorded, recorded, show b.controllers = a.controllers from hcontrollers]
  have hperm := InstanceSpec.grants_perm vmName plan placed b
  rw [hrecorded] at hperm
  have hsub : (a.recorded ++ placed.nodes.filterMap DeviceNode.grant?).Sublist
      (a.recorded ++ granted) := hplaced.append_left _
  have hcomm : (a.recorded ++ granted).Perm (granted ++ a.recorded) := List.perm_append_comm
  refine ⟨?_, fun owner p hp => ?_, fun pre d post hsplit p hp => ?_⟩
  · have hmap : (plan.document vmName placed b).placements.map (·.2) =
        (plan.document vmName placed b).grants.map Grant.placement := by
      rw [InstanceSpec.grants, List.map_map]
      rfl
    rw [hmap, (hperm.map _).nodup_iff]
    exact ((hcomm.map _).nodup_iff.2 h.nodup_placements).sublist (hsub.map _)
  · have hmem : (⟨owner, p⟩ : Grant) ∈ granted ++ a.recorded :=
      hcomm.mem_iff.1 (hsub.subset (hperm.mem_iff.1 (List.mem_map_of_mem hp)))
    obtain ⟨bus, hbus, haccepts⟩ := h.exists_accepts hmem
    rw [InstanceSpec.bus?, hbuses, hcontrollers]
    exact ⟨bus, hbus, haccepts⟩
  · obtain ⟨n, hn, hprovided⟩ := h.laidOut.ordered pre d post (hcontrollers ▸ hsplit) p hp
    refine ⟨n.bus, ?_, hprovided⟩
    rw [InstanceSpec.bus?, hbuses, find?_parts, hn, Option.map_some]

theorem Plan.wellPlaced_of_assemble {family : MachineFamily} {machine : String}
    {config : AllocatorConfig} {vmName : String} {plan : Plan} {spec : InstanceSpec}
    (h : plan.assemble vmName (.start family machine config) = .ok spec) : spec.WellPlaced := by
  obtain ⟨placed, b, hplace, rfl⟩ := Plan.exists_outcome_of_assemble h
  obtain ⟨a, granted, hsound, hparts, hplaced⟩ :=
    (plan.ensures_place (Sound.start family machine config)).ok hplace
  exact plan.wellPlaced_document vmName hsound hparts hplaced

/-- In every document that a compilation gives, the placements are pairwise different, each lies on
a declared bus that accepts it, and the controllers are listed in a creatable order; whatever the
hypervisor answers, and whatever resources and identifiers are handed out. -/
theorem wellPlaced_compile {m : Type → Type} [Monad m] [LawfulMonad m] {H I : Type}
    [HostResources H] [Identifiers I] (o : Oracle m) (host : H) (vmName : String) (p : Parameters)
    (ids : I) :
    SatisfiesM (fun r => ∀ spec, r.1 = .ok spec → spec.WellPlaced)
      (compile o host vmName p ids) := by
  have hcompiling :
      SatisfiesM InstanceSpec.WellPlaced (compiling o vmName p : Compiling H I m _) := by
    rw [compiling]
    -- nothing that leads to a plan touches the buses
    refine SatisfiesM.bind .trivial fun t _ => ?_
    refine SatisfiesM.bind .trivial fun _ _ => ?_
    refine SatisfiesM.bind .trivial fun config _ => ?_
    refine SatisfiesM.bind .trivial fun plan _ => ?_
    rw [SatisfiesM_ExceptT_eq, SatisfiesM_StateT_eq]
    intro s
    exact SatisfiesM.pure fun spec hspec => plan.wellPlaced_of_assemble hspec
  rw [compile]
  rw [SatisfiesM_ExceptT_eq, SatisfiesM_StateT_eq] at hcompiling
  exact (hcompiling _).bind fun r hr => SatisfiesM.pure hr

/-- A guest with a tablet and a network card on a hypervisor that has everything. Root ports, the
USB controller and the display are placed too. -/
theorem wellPlaced_compile_tablet :
    let o : Oracle Id := ⟨fun _ => true, fun _ => true, fun _ => true, fun _ => true, none⟩
    let p : Parameters := .ofList [("mem", "1024"), ("inputs", "tablet"), ("nics", "n")]
    ∃ spec, (compile o (default : Host) "vm" p IdSource.counting).run.1 = .ok spec ∧
      spec.placements.length = 6 ∧ spec.WellPlaced := by
  intro o p
  have hlength : (compile o (default : Host) "vm" p IdSource.counting).run.1.toOption.map
      (·.placements.length) = some 6 := by decide +kernel
  obtain ⟨spec, hspec, hlength⟩ := Option.map_eq_some_iff.1 hlength
  have hok : (compile o (default : Host) "vm" p IdSource.counting).run.1 = .ok spec := by
    cases hr : (compile o (default : Host) "vm" p IdSource.counting).run.1 with
    | error e =>
      rw [hr] at hspec
      cases hspec
    | ok s =>
      rw [hr] at hspec
      exact congrArg Except.ok (Option.some.inj hspec)
  have hall := SatisfiesM_Id_eq.1 (wellPlaced_compile o (default : Host) "vm" p IdSource.counting)
  exact ⟨spec, hok, hlength, hall spec hok⟩

end GuestSpec
