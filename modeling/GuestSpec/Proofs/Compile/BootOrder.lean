import GuestSpec.Proofs.Bus.BootIndex
import GuestSpec.Proofs.Compile.References
import GuestSpec.Proofs.Compile.Seating
import Mathlib

/-!
# The boot order of a document

The last thing that a compilation does is to give out indices in the boot order. It fails only when
two disks or network cards ask for the same index. Otherwise the indices are those of `bootOrder`
for the requests of disks and network cards, and nothing else has a say in them.
-/

namespace GuestSpec

open Guarantee Alloc BusAllocator

/-! ## Requests -/

def Parameters.bootNames (p : Parameters) : List String := p.imageNames ++ p.objects "nics"

/-- What disks and network cards ask for, each according to the parameters as it sees them. -/
def Parameters.bootRequests (p : Parameters) : Except Parameters.Error (List BootRequest) :=
  p.bootNames.mapM fun name => BootRequest.ofParameters (p.scopedTo name)

def InstanceSpec.bootEntries (s : InstanceSpec) : List (String × Option UInt32) :=
  s.storage.map (fun d => (d.name, d.device.bootindex?)) ++
    s.network.map fun n => (n.name, n.device.bootindex?)

theorem DeviceNode.Bootable.bootindex?_withIndex {d : DeviceNode} (h : d.Bootable)
    (i : Option UInt32) : (Plan.withIndex d i).bootindex? = i := by
  cases i with
  | none => exact h.none
  | some index =>
    rw [Plan.withIndex, setBootindex]
    obtain ⟨props, hprops⟩ | ⟨props, hprops⟩ := h.kind
    · simp only [hprops, bootindex?]
    · simp only [hprops, bootindex?]

/-! ## Indices -/

namespace Plan

variable {a : BusAllocator}

theorem ensures_explicitIndices (ds : List UnplacedDevice) (h : a.usedIndices.Nodup) :
    Ensures (ds.mapM explicitIndex) a
      (fun indices b => indices = ds.map (fun d => d.bootRequest.explicit?) ∧
        b.usedIndices.Nodup ∧
        b.usedIndices.Perm (explicitIndices (ds.map UnplacedDevice.bootRequest) ++ a.usedIndices))
      (fun e _ => e.IsIndexInUse ∧
        ¬(explicitIndices (ds.map UnplacedDevice.bootRequest) ++ a.usedIndices).Nodup) := by
  induction ds generalizing a with
  | nil =>
    rw [List.mapM_nil]
    exact ensures_pure ⟨rfl, h, .refl _⟩
  | cons d ds ih =>
    rw [List.mapM_cons, List.map_cons, List.map_cons, explicitIndices_cons]
    cases hd : d.bootRequest with
    | none | next =>
      have hstep : explicitIndex d = pure none := by rw [explicitIndex, hd]
      rw [hstep, pure_bind]
      refine (ih h).bind fun indices b hb => ensures_pure ?_
      exact ⟨congrArg _ hb.1, hb.2⟩
    | explicit index =>
      have hstep : explicitIndex d = claimBootIndex d.node.id (.explicit index) := by
        rw [explicitIndex, hd]
      rw [hstep]
      refine Ensures.bind ((ensures_claimBootIndex_explicit d.node.id a index).imp_error ?_) ?_
      · rintro e b ⟨hused, hinuse⟩
        refine ⟨hinuse, fun hnodup => ?_⟩
        exact List.disjoint_of_nodup_append hnodup (by simp [BootRequest.explicit?]) hused
      · rintro i b ⟨rfl, hfree, hused⟩
        have hnodup : b.usedIndices.Nodup := hused ▸ List.nodup_cons.2 ⟨hfree, h⟩
        have hperm : (explicitIndices (ds.map UnplacedDevice.bootRequest) ++ b.usedIndices).Perm
            (index :: (explicitIndices (ds.map UnplacedDevice.bootRequest) ++ a.usedIndices)) := by
          rw [hused]
          exact List.perm_middle
        refine Ensures.bind ((ih hnodup).imp_error fun e c he => ⟨he.1, fun hdiff => ?_⟩) ?_
        · exact he.2 (hperm.nodup_iff.2 hdiff)
        · rintro indices c ⟨rfl, hnodup', hperm'⟩
          exact ensures_pure ⟨rfl, hnodup', hperm'.trans hperm⟩

theorem ensures_nextIndices (ds : List UnplacedDevice) :
    Ensures (ds.mapM nextIndex) a
      (fun indices _ => indices = nextIndices a.usedIndices (ds.map UnplacedDevice.bootRequest))
      (fun _ _ => False) := by
  induction ds generalizing a with
  | nil =>
    rw [List.mapM_nil]
    exact ensures_pure rfl
  | cons d ds ih =>
    rw [List.mapM_cons, List.map_cons]
    cases hd : d.bootRequest with
    | none | explicit =>
      have hstep : nextIndex d = pure none := by rw [nextIndex, hd]
      rw [hstep, pure_bind]
      refine ih.bind fun indices b hb => ensures_pure ?_
      exact congrArg _ hb
    | next =>
      have hstep : nextIndex d = claimBootIndex d.node.id .next := by rw [nextIndex, hd]
      rw [hstep]
      refine (ensures_claimBootIndex_next d.node.id a).bind ?_
      rintro i b ⟨rfl, hused⟩
      refine ih.bind fun indices c hc => ensures_pure ?_
      rw [hc, hused]
      rfl

theorem ensures_bootOrder (ds : List UnplacedDevice) (h : a.usedIndices = []) :
    Ensures (bootIndices ds) a
      (fun indices _ => indices = bootOrder (ds.map UnplacedDevice.bootRequest) ∧
        (explicitIndices (ds.map UnplacedDevice.bootRequest)).Nodup)
      (fun e _ => e.IsIndexInUse ∧
        ¬(explicitIndices (ds.map UnplacedDevice.bootRequest)).Nodup) := by
  have hexplicit := ensures_explicitIndices (a := a) ds (h ▸ List.nodup_nil)
  rw [h, List.append_nil] at hexplicit
  refine hexplicit.bind ?_
  rintro explicit b ⟨rfl, hnodup, hperm⟩
  refine ((ensures_nextIndices ds).imp_error fun _ _ hfalse => hfalse.elim).bind ?_
  rintro next c rfl
  refine ensures_pure ⟨?_, hperm.nodup_iff.1 hnodup⟩
  rw [nextIndices_perm hperm, bootOrder, bootOrderFrom, List.map_map]
  rfl

end Plan

/-! ## Seated devices -/

theorem mapM_eq_ok {α β ε : Type} {f : α → Except ε β} {xs : List α} {ys : List β}
    (h : List.Forall₂ (fun x y => f x = .ok y) xs ys) : xs.mapM f = .ok ys := by
  induction h with
  | nil => rfl
  | cons hx _ ih =>
    rw [List.mapM_cons, hx, ih]
    rfl

namespace Unordered.Ready

variable {p : Parameters} {u : Unordered} (h : u.Ready p)

include h

theorem usedIndices : u.buses.usedIndices = [] := by
  obtain ⟨family, machineType, config, hseat⟩ := h.seat
  obtain ⟨calls, -, hbuses⟩ := (u.plan.ensures_reached_seat _).ok hseat
  rw [hbuses]
  refine run_induction (I := fun b => b.usedIndices = []) ?_ ?_
    (.start family machineType config) rfl calls
  · rintro ask a owner place b ⟨-, -, -, -, -, rfl⟩ ha
    exact ha
  · rintro part a b - ⟨placement, c, hseat, rfl⟩ ha
    rw [hseat.eq_with]
    cases part <;> exact ha

theorem map_name_disks : u.placed.disks.map Disk.name = p.imageNames := by
  simpa using map_eq_of_forall₂ (h.disks.imp fun _ _ hd => hd.name)

theorem map_name_nics : u.placed.nics.map Nic.name = p.objects "nics" := by
  simpa using map_eq_of_forall₂ (h.nics.imp fun _ _ hn => hn.name)

theorem indexless_others :
    ∀ d ∈ u.placed.memory.map MemoryDevice.device ++ u.placed.devices, d.Indexless := by
  intro d' hd'
  obtain hd' | hd' := List.mem_append.1 hd'
  · obtain ⟨m, hm, rfl⟩ := List.mem_map.1 hd'
    obtain ⟨name, -, hdeclared⟩ := exists_of_forall₂ h.memory m hm
    exact hdeclared.indexless
  · obtain ⟨d, hd, hseated⟩ := exists_of_forall₂ h.seatedAs.devices d' hd'
    obtain ⟨unnamed, -, -, hparts⟩ := h.plan.devices.parts
    exact hseated.indexless (hparts.indexless d hd)

theorem requests : List.Forall₂
    (fun name r => BootRequest.ofParameters (p.scopedTo name) = .ok r) p.bootNames
    (u.plan.bootable.map UnplacedDevice.bootRequest) := by
  rw [Parameters.bootNames, Plan.bootable, List.map_append, List.map_map, List.map_map]
  refine List.rel_append ?_ ?_
  · rw [List.forall₂_map_right_iff]
    exact h.plan.storage.disks.imp fun _ _ hd => hd.device.request
  · rw [List.forall₂_map_right_iff]
    exact h.plan.devices.nics.imp fun _ _ hn => hn.2.request

theorem bootRequests :
    p.bootRequests = .ok (u.plan.bootable.map UnplacedDevice.bootRequest) :=
  mapM_eq_ok h.requests

end Unordered.Ready

/-! ## Documents -/

theorem map_zipWith_eq_zip {α β γ : Type} {f : α → β → α} {g : α → γ × β} {k : α → γ}
    {xs : List α} (h : ∀ x ∈ xs, ∀ i, g (f x i) = (k x, i)) (is : List β) :
    (xs.zipWith f is).map g = (xs.map k).zip is := by
  induction xs generalizing is with
  | nil => rfl
  | cons x xs ih =>
    cases is with
    | nil => rfl
    | cons i is =>
      obtain ⟨hx, hxs⟩ := List.forall_mem_cons.1 h
      rw [List.zipWith_cons_cons, List.map_cons, List.map_cons, List.zip_cons_cons, hx, ih hxs]

theorem zip_append_drop {α β : Type} (xs ys : List α) (is : List β) :
    xs.zip is ++ ys.zip (is.drop xs.length) = (xs ++ ys).zip is := by
  induction xs generalizing is with
  | nil => rfl
  | cons x xs ih =>
    cases is with
    | nil => simp
    | cons i is => simp [ih]

/-- Each disk and network card has the index that is given to it. -/
theorem Unordered.Ready.bootEntries {p : Parameters} {u : Unordered} (h : u.Ready p)
    (indices : List (Option UInt32)) (a : BusAllocator) :
    (u.plan.document u.vmName (u.placed.withIndices indices) a).bootEntries =
      p.bootNames.zip indices := by
  have hlength : u.placed.disks.length = p.imageNames.length := by
    rw [← h.map_name_disks, List.length_map]
  have hdisks : (u.placed.withIndices indices).disks.map (fun d => (d.name, d.device.bootindex?)) =
      p.imageNames.zip indices := by
    rw [← h.map_name_disks]
    refine map_zipWith_eq_zip (fun d hd i => ?_) indices
    obtain ⟨image, -, hdeclared⟩ := exists_of_forall₂ h.disks d hd
    exact Prod.ext rfl (hdeclared.bootable.bootindex?_withIndex i)
  have hnics : (u.placed.withIndices indices).nics.map (fun n => (n.name, n.device.bootindex?)) =
      (p.objects "nics").zip (indices.drop u.placed.disks.length) := by
    rw [← h.map_name_nics]
    refine map_zipWith_eq_zip (fun n hn i => ?_) _
    obtain ⟨name, -, hdeclared⟩ := exists_of_forall₂ h.nics n hn
    exact Prod.ext rfl (hdeclared.bootable.bootindex?_withIndex i)
  rw [hlength] at hnics
  calc (u.plan.document u.vmName (u.placed.withIndices indices) a).bootEntries
      = p.imageNames.zip indices ++
          (p.objects "nics").zip (indices.drop p.imageNames.length) := by
        rw [← hdisks, ← hnics]
        rfl
    _ = p.bootNames.zip indices := zip_append_drop _ _ _

/-- The boot order is settled by the requests of disks and network cards alone. -/
theorem Unordered.Ready.finish {p : Parameters} {u : Unordered} (h : u.Ready p)
    (requests : List BootRequest) (hrequests : p.bootRequests = .ok requests) :
    (∃ e, u.finish = .error e ∧ e.IsIndexInUse ∧ ¬(explicitIndices requests).Nodup) ∨
      ∃ a, u.finish = .ok (u.plan.document u.vmName (u.placed.withIndices (bootOrder requests)) a) ∧
        (explicitIndices requests).Nodup ∧ a.parts = u.buses.parts := by
  have hplan := h.bootRequests
  rw [hrequests] at hplan
  have hrs := Except.ok.inj hplan
  have horder := Plan.ensures_bootOrder u.plan.bootable h.usedIndices
  rw [← hrs] at horder
  rw [Unordered.finish]
  cases hboot : outcome (Plan.bootIndices u.plan.bootable) u.buses with
  | mk r a =>
    cases r with
    | error e => exact .inl ⟨e, rfl, horder.error hboot⟩
    | ok indices =>
      obtain ⟨rfl, hnodup⟩ := horder.ok hboot
      exact .inr ⟨a, rfl, hnodup, (Plan.ensures_bootIndices _).ok hboot⟩

/-- What the requests of disks and network cards make of a guest whose devices are placed: it has no
document exactly when two of them name the same index, and a document gives indices to disks and
network cards, in the order of their declaration, and to nothing else. -/
structure Unordered.Settled (p : Parameters) (requests : List BootRequest) (u : Unordered) :
    Prop where
  length : requests.length = p.bootNames.length
  error : (∃ e, u.finish = .error e) ↔ ¬(explicitIndices requests).Nodup
  inUse : ∀ e, u.finish = .error e → e.IsIndexInUse
  entries : ∀ spec, u.finish = .ok spec → spec.bootEntries = p.bootNames.zip (bootOrder requests)
  others : ∀ spec, u.finish = .ok spec →
    ∀ d ∈ spec.memory.devices.map MemoryDevice.device ++ spec.devices, d.Indexless
  ordered : BootOrdered requests (bootOrder requests)

theorem Unordered.Ready.settled {p : Parameters} {u : Unordered} (h : u.Ready p)
    {requests : List BootRequest} (hrequests : p.bootRequests = .ok requests) :
    u.Settled p requests := by
  have hlength : requests.length = p.bootNames.length := by
    rw [Except.ok.inj (hrequests.symm.trans h.bootRequests), h.requests.length_eq]
  obtain ⟨e, hfail, hinUse, hsame⟩ | ⟨a, hok, hdiff, -⟩ := h.finish requests hrequests
  · refine ⟨hlength, ?_, ?_, ?_, ?_, bootOrdered_bootOrder requests⟩
    · exact ⟨fun _ => hsame, fun _ => ⟨e, hfail⟩⟩
    · intro e' he'
      obtain rfl := Except.error.inj (hfail.symm.trans he')
      exact hinUse
    · exact fun _ hspec => nomatch hfail.symm.trans hspec
    · exact fun _ hspec => nomatch hfail.symm.trans hspec
  · refine ⟨hlength, ?_, ?_, ?_, ?_, bootOrdered_bootOrder requests⟩
    · exact ⟨fun ⟨_, hfail⟩ => (nomatch hok.symm.trans hfail), fun hsame => absurd hdiff hsame⟩
    · exact fun _ hfail => nomatch hok.symm.trans hfail
    · intro spec hspec
      rw [← Except.ok.inj (hok.symm.trans hspec)]
      exact h.bootEntries _ a
    · intro spec hspec
      rw [← Except.ok.inj (hok.symm.trans hspec)]
      exact h.indexless_others

/-- The boot order of every guest is what was asked for. A compilation is what comes before the boot
order, followed by `finish`. When nothing before fails, disks and network cards have made valid
requests; `finish` fails exactly when two of them name the same index, with an error that says so;
otherwise the document gives them, in the order of their declaration, the indices of `bootOrder`,
which are as `BootOrdered` says, and no other device has one. -/
theorem settled_compile {m : Type → Type} [Monad m] [LawfulMonad m] {H I : Type}
    [HostResources H] [Identifiers I] (o : Oracle m) (host : H) (vmName : String) (p : Parameters)
    (ids : I) :
    (compile o host vmName p ids = do
      let (r, supply) ← (seating o vmName p).run.run ⟨.start host, ids⟩
      return (r.bind Unordered.finish, supply.ids)) ∧
    SatisfiesM (fun r => ∀ u, r.1 = .ok u → ∃ requests, p.bootRequests = .ok requests ∧
        u.Settled p requests)
      ((seating o vmName p).run.run ⟨.start host, ids⟩) := by
  refine ⟨compile_eq o host vmName p ids, ?_⟩
  have hfinds : Guarantee.satisfied.Finds o .any := fun _ => SatisfiesM.trivial
  have hready := ready_seating hfinds vmName p ⟨.start host, ids⟩
  refine SatisfiesM.imp hready fun h u hu => ?_
  have hu := h u hu
  exact ⟨_, hu.bootRequests, hu.settled hu.bootRequests⟩

/-- Two images and a network card. The second image asks for the index that the first one would get,
and the network card comes last. -/
theorem settled_compile_image_boot :
    let o : Oracle Id := ⟨fun _ => true, fun _ => true, fun _ => true, fun _ => true, none⟩
    let p : Parameters := .ofList [("images", "a b"), ("nics", "n"), ("image_boot_a", "yes"),
      ("bootindex_b", "0"), ("image_boot_n", "yes")]
    ∃ u spec,
      ((seating o "vm" p).run.run ⟨.start (default : Host), IdSource.counting⟩).run.1 = .ok u ∧
      p.bootRequests = .ok [.next, .explicit 0, .next] ∧
      u.Settled p [.next, .explicit 0, .next] ∧ u.finish = .ok spec ∧
      (compile o (default : Host) "vm" p IdSource.counting).run.1 = .ok spec ∧
      spec.bootEntries = [("a", some 1), ("b", some 0), ("n", some 2)] := by
  intro o p
  have hentries : (compile o (default : Host) "vm" p IdSource.counting).run.1.toOption.map
      InstanceSpec.bootEntries = some [("a", some 1), ("b", some 0), ("n", some 2)] := by
    decide +kernel
  have hrequests : p.bootRequests.toOption.map id = some [.next, .explicit 0, .next] := by
    decide +kernel
  obtain ⟨spec, hspec, hentries⟩ := exists_ok_of_map_toOption hentries
  obtain ⟨requests, hrequests, rfl⟩ := exists_ok_of_map_toOption hrequests
  obtain ⟨hcompile, hseating⟩ := settled_compile o (default : Host) "vm" p IdSource.counting
  have hall := SatisfiesM_Id_eq.1 hseating
  have hrun : (compile o (default : Host) "vm" p IdSource.counting).run.1 =
      ((seating o "vm" p).run.run ⟨.start (default : Host), IdSource.counting⟩).run.1.bind
        Unordered.finish := by
    rw [hcompile]
    rfl
  cases hseated :
      ((seating o "vm" p).run.run ⟨.start (default : Host), IdSource.counting⟩).run.1 with
  | error e =>
    rw [hspec, hseated] at hrun
    exact nomatch hrun
  | ok u =>
    rw [hspec, hseated] at hrun
    obtain ⟨requests, hall, hsettled⟩ := hall u hseated
    obtain rfl := Except.ok.inj (hrequests.symm.trans hall)
    exact ⟨u, spec, rfl, hrequests, hsettled, hrun.symm, hspec, hentries⟩

end GuestSpec
