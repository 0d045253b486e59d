import GuestSpec.Compile
import GuestSpec.Proofs.Bus.Accounting
import GuestSpec.Proofs.Bus.Layout

/-!
# Placing all devices of a guest

All sections of a plan are placed through one allocator. `Sound` collects what holds of its buses in
between, together with the placements that were granted so far. Indices of the boot order change
nothing about the buses.
-/

namespace GuestSpec

open Alloc BusAllocator

/-- What holds of the buses after the given placements were granted. -/
structure BusAllocator.Sound (a : BusAllocator) (granted : List Grant) : Prop where
  grounded : a.Grounded
  exclusive : a.Exclusive
  laidOut : a.LaidOut
  accounted : a.Accounted granted

def DeviceNode.grant? (d : DeviceNode) : Option Grant := d.placement.map fun p => ⟨d.id, p⟩

theorem BusAllocator.Sound.start (family : MachineFamily) (machine : String)
    (config : AllocatorConfig) : (BusAllocator.start family machine config).Sound [] where
  grounded := .start family machine config
  exclusive := .start family machine config
  laidOut := .start family machine config
  accounted := .start family machine config

section Rules

variable {α β : Type} {a : BusAllocator} {granted : List Grant}

theorem BusAllocator.Sound.after (h : a.Sound granted) (call : BusCall) :
    (a.after call).Sound (granted ++ (call.granted a).toList) where
  grounded := h.grounded.after call
  exclusive := h.exclusive.afterAll h.grounded [call]
  laidOut := h.laidOut.afterAll h.grounded [call]
  accounted := h.accounted.effect (call.effect h.grounded)

theorem ensures_after {I : BusAllocator → Prop} (call : BusCall) (h : I (a.after call)) :
    Ensures call.perform a (fun _ b => I b) (fun _ _ => True) := by
  rw [BusAllocator.after] at h
  rw [Ensures]
  cases hx : outcome call.perform a with
  | mk r b =>
    rw [hx] at h
    cases r with
    | error e => trivial
    | ok placement => exact h

/-- A call adds to the granted placements what it returns. -/
theorem ensures_perform (h : a.Sound granted) (call : BusCall) :
    Ensures call.perform a
      (fun r b => b.Sound (granted ++ (r.map fun p => ⟨call.owner, p⟩).toList))
      (fun _ _ => True) := by
  have hafter := h.after call
  rw [BusAllocator.after, BusCall.granted] at hafter
  rw [Ensures]
  cases hx : outcome call.perform a with
  | mk r b =>
    rw [hx] at hafter
    cases r with
    | error e => trivial
    | ok placement => cases placement <;> exact hafter

theorem ensures_mapM {f : α → Alloc β} {I : List β → BusAllocator → Prop}
    {E : CompileError → BusAllocator → Prop}
    (hf : ∀ x ys a, I ys a → Ensures (f x) a (fun y b => I (ys ++ [y]) b) E) (xs : List α)
    (ys : List β) (h : I ys a) : Ensures (xs.mapM f) a (fun zs b => I (ys ++ zs) b) E := by
  induction xs generalizing ys a with
  | nil =>
    rw [List.mapM_nil]
    exact ensures_pure (by rwa [List.append_nil])
  | cons x xs ih =>
    rw [List.mapM_cons]
    refine (hf x ys a h).bind fun y b hy => (ih _ hy).bind fun zs c hzs => ensures_pure ?_
    rwa [List.append_assoc] at hzs

theorem ensures_mapM_same {I : BusAllocator → Prop} {f : α → Alloc β}
    (hf : ∀ x a, I a → Ensures (f x) a (fun _ b => I b) (fun _ _ => True)) (xs : List α) (h : I a) :
    Ensures (xs.mapM f) a (fun _ b => I b) (fun _ _ => True) :=
  ensures_mapM (I := fun _ b => I b) (fun x _ a ha => hf x a ha) xs [] h

/-- What every step adds to the elements that are done holds of all of them in the end. -/
theorem ensures_forM {f : α → Alloc PUnit} {I : List α → BusAllocator → Prop}
    {E : CompileError → BusAllocator → Prop} {xs : List α}
    (hf : ∀ x ∈ xs, ∀ done a, I done a → Ensures (f x) a (fun _ b => I (done ++ [x]) b) E)
    (done : List α) (h : I done a) :
    Ensures (xs.forM f) a (fun _ b => I (done ++ xs) b) E := by
  induction xs generalizing done a with
  | nil => exact ensures_pure (by rwa [List.append_nil])
  | cons x xs ih =>
    obtain ⟨hx, hxs⟩ := List.forall_mem_cons.1 hf
    change Ensures (f x >>= fun _ => xs.forM f) a _ _
    refine (hx done a h).bind fun _ b hb => ?_
    rw [List.append_cons]
    exact ih hxs (done ++ [x]) hb

theorem ensures_forM_same {f : α → Alloc PUnit} {I : BusAllocator → Prop} {xs : List α}
    (hf : ∀ x ∈ xs, ∀ a, I a → Ensures (f x) a (fun _ b => I b) (fun _ _ => True)) (h : I a) :
    Ensures (xs.forM f) a (fun _ b => I b) (fun _ _ => True) :=
  ensures_forM (I := fun _ b => I b) (fun x hx _ => hf x hx) [] h

theorem ensures_mapM_place {f : α → Alloc β} (device : β → DeviceNode)
    (hf : ∀ x {granted a}, Sound a granted → Ensures (f x) a
      (fun y b => b.Sound (granted ++ (device y).grant?.toList)) (fun _ _ => True))
    (xs : List α) (h : a.Sound granted) :
    Ensures (xs.mapM f) a
      (fun ys b => b.Sound (granted ++ (ys.map device).filterMap DeviceNode.grant?))
      (fun _ _ => True) := by
  have hstep : ∀ x ys a,
      a.Sound (granted ++ (ys.map device).filterMap DeviceNode.grant?) →
      Ensures (f x) a
        (fun y b => b.Sound (granted ++ ((ys ++ [y]).map device).filterMap DeviceNode.grant?))
        (fun _ _ => True) := by
    intro x ys a h
    refine (hf x h).imp fun y b hb => ?_
    have hlast : ([y].map device).filterMap DeviceNode.grant? = (device y).grant?.toList := by
      cases hg : (device y).grant? <;> simp [hg]
    rwa [List.map_append, List.filterMap_append, hlast, ← List.append_assoc]
  exact ensures_mapM hstep xs [] (by simpa using h)

end Rules

namespace Plan

variable {a : BusAllocator} {granted : List Grant}

theorem ensures_placeDevice (d : UnplacedDevice) (h : a.Sound granted) :
    Ensures d.place a (fun d' b => b.Sound (granted ++ d'.grant?.toList)) (fun _ _ => True) :=
  (ensures_perform h (.place d.node.id d.request.bus d.request.hint)).bind fun _ _ hb =>
    ensures_pure hb

theorem ensures_placeMemory (d : UnplacedMemoryDevice) (h : a.Sound granted) :
    Ensures (placeMemory d) a (fun d' b => b.Sound (granted ++ d'.device.grant?.toList))
      (fun _ _ => True) :=
  (ensures_placeDevice d.device h).bind fun _ _ hb => ensures_pure hb

theorem ensures_placeDisk (d : UnplacedDisk) (h : a.Sound granted) :
    Ensures (placeDisk d) a (fun d' b => b.Sound (granted ++ d'.device.grant?.toList))
      (fun _ _ => True) :=
  (ensures_placeDevice d.device h).bind fun _ _ hb => ensures_pure hb

theorem ensures_placeNic (n : UnplacedNic) (h : a.Sound granted) :
    Ensures (placeNic n) a (fun n' b => b.Sound (granted ++ n'.device.grant?.toList))
      (fun _ _ => True) :=
  (ensures_placeDevice n.device h).bind fun _ _ hb => ensures_pure hb

theorem ensures_placeUsbController (r : UsbControllerRequest) (h : a.Sound granted) :
    Ensures (placeUsbController r) a (fun _ b => b.Sound granted) (fun _ _ => True) := by
  have hperform := ensures_perform h (.addUsb r.id r.model r.ports r.hint)
  refine hperform.of_bind_pure.imp fun _ b hb => ?_
  simpa using hb

theorem ensures_usbControllers (rs : List UsbControllerRequest) (h : a.Sound granted) :
    Ensures (rs.forM placeUsbController) a (fun _ b => b.Sound granted) (fun _ _ => True) :=
  ensures_forM_same (fun r _ _ ha => ensures_placeUsbController r ha) h

/-! ## The boot order -/

theorem ensures_claimBootIndex (owner : String) (request : BootRequest) :
    Ensures (claimBootIndex owner request) a (fun _ b => b.parts = a.parts) (fun _ _ => True) := by
  apply ensures_get_bind
  cases request with
  | none => exact ensures_pure rfl
  | next => exact ensures_modify_bind (ensures_pure rfl)
  | explicit index =>
    dsimp only
    split
    · exact ensures_throw trivial
    · exact ensures_modify_bind (ensures_pure rfl)

theorem ensures_explicitIndex (d : UnplacedDevice) :
    Ensures (explicitIndex d) a (fun _ b => b.parts = a.parts) (fun _ _ => True) := by
  unfold explicitIndex
  split
  · exact ensures_claimBootIndex _ _
  · exact ensures_pure rfl

theorem ensures_nextIndex (d : UnplacedDevice) :
    Ensures (nextIndex d) a (fun _ b => b.parts = a.parts) (fun _ _ => True) := by
  unfold nextIndex
  split
  · exact ensures_claimBootIndex _ _
  · exact ensures_pure rfl

theorem ensures_mapM_parts {α β : Type} {f : α → Alloc β}
    (hf : ∀ x {a : BusAllocator},
      Ensures (f x) a (fun _ b => b.parts = a.parts) (fun _ _ => True)) (xs : List α) :
    Ensures (xs.mapM f) a (fun _ b => b.parts = a.parts) (fun _ _ => True) :=
  ensures_mapM_same (I := fun b => b.parts = a.parts)
    (fun x _ h => (hf x).imp fun _ _ hb => hb.trans h) xs rfl

theorem ensures_bootIndices (ds : List UnplacedDevice) :
    Ensures (bootIndices ds) a (fun _ b => b.parts = a.parts) (fun _ _ => True) := by
  refine (ensures_mapM_parts (fun d _ => ensures_explicitIndex d) ds).bind fun _ b hb => ?_
  refine (ensures_mapM_parts (fun d _ => ensures_nextIndex d) ds).bind fun _ c hc => ?_
  exact ensures_pure (hc.trans hb)

theorem grant?_withIndex (d : DeviceNode) (i : Option UInt32) :
    (withIndex d i).grant? = d.grant? := by
  cases i with
  | none => rfl
  | some index =>
    rw [withIndex, DeviceNode.setBootindex]
    split <;> rfl

theorem filterMap_zipWith_sublist {α β γ : Type} {f : α → β → α} {g : α → Option γ}
    (h : ∀ x i, g (f x i) = g x) (xs : List α) (is : List β) :
    ((xs.zipWith f is).filterMap g).Sublist (xs.filterMap g) := by
  induction xs generalizing is with
  | nil => exact List.Sublist.refl _
  | cons x xs ih =>
    cases is with
    | nil => exact List.nil_sublist _
    | cons i is =>
      rw [List.zipWith_cons_cons]
      cases hx : g x with
      | none =>
        rw [List.filterMap_cons_none (by rw [h, hx]), List.filterMap_cons_none hx]
        exact ih is
      | some y =>
        rw [List.filterMap_cons_some (by rw [h, hx]), List.filterMap_cons_some hx]
        exact (ih is).cons_cons y

/-- Places all devices. Nothing has an index in the boot order yet. -/
def seat (plan : Plan) : Alloc Placed := do
  plan.devices.usbControllers.forM placeUsbController
  let memory ← plan.memory.devices.mapM placeMemory
  let disks ← plan.storage.disks.mapM placeDisk
  let nics ← plan.devices.nics.mapM placeNic
  let devices ← plan.devices.devices.mapM UnplacedDevice.place
  return ⟨memory, disks, nics, devices⟩

def bootable (plan : Plan) : List UnplacedDevice :=
  plan.storage.disks.map UnplacedDisk.device ++ plan.devices.nics.map UnplacedNic.device

def Placed.withIndices (placed : Placed) (indices : List (Option UInt32)) : Placed :=
  { placed with
    disks := placed.disks.zipWith (fun d i => { d with device := withIndex d.device i }) indices
    nics := placed.nics.zipWith (fun n i => { n with device := withIndex n.device i })
      (indices.drop placed.disks.length) }

theorem place_eq (plan : Plan) :
    plan.place = plan.seat >>= fun placed => do
      return placed.withIndices (← bootIndices plan.bootable) := by
  simp only [place, seat, bind_assoc, pure_bind]
  rfl

/-- The devices of all sections, in the order in which they are placed. -/
def Placed.nodes (placed : Placed) : List DeviceNode :=
  placed.memory.map MemoryDevice.device ++ placed.disks.map Disk.device ++
    placed.nics.map Nic.device ++ placed.devices

theorem ensures_seat (plan : Plan) (h : a.Sound []) :
    Ensures plan.seat a
      (fun placed b => b.Sound (placed.nodes.filterMap DeviceNode.grant?)) (fun _ _ => True) := by
  refine (ensures_usbControllers _ h).bind fun _ a h => ?_
  refine (ensures_mapM_place MemoryDevice.device (fun _ _ _ h => ensures_placeMemory _ h) _ h).bind
    fun memory a h => ?_
  refine (ensures_mapM_place Disk.device (fun _ _ _ h => ensures_placeDisk _ h) _ h).bind
    fun disks a h => ?_
  refine (ensures_mapM_place Nic.device (fun _ _ _ h => ensures_placeNic _ h) _ h).bind
    fun nics a h => ?_
  refine (ensures_mapM_place id (fun _ _ _ h => ensures_placeDevice _ h) _ h).bind
    fun devices a h => ensures_pure ?_
  simpa [Placed.nodes] using h

theorem Placed.grants_withIndices (placed : Placed) (indices : List (Option UInt32)) :
    ((placed.withIndices indices).nodes.filterMap DeviceNode.grant?).Sublist
      (placed.nodes.filterMap DeviceNode.grant?) := by
  simp only [Placed.nodes, Placed.withIndices, List.filterMap_append]
  refine (((List.Sublist.refl _).append ?_).append ?_).append (List.Sublist.refl _)
  · rw [List.filterMap_map, List.filterMap_map]
    exact filterMap_zipWith_sublist (fun d i => grant?_withIndex d.device i) _ _
  · rw [List.filterMap_map, List.filterMap_map]
    exact filterMap_zipWith_sublist (fun n i => grant?_withIndex n.device i) _ _

/-- Placing a plan grants the placements of all its devices. -/
theorem ensures_place (plan : Plan) (h : a.Sound []) :
    Ensures plan.place a
      (fun placed b => ∃ (c : BusAllocator) (granted : List Grant), c.Sound granted ∧
        b.parts = c.parts ∧ (placed.nodes.filterMap DeviceNode.grant?).Sublist granted)
      (fun _ _ => True) := by
  rw [place_eq]
  refine (ensures_seat plan h).bind fun placed a h => ?_
  refine (ensures_bootIndices _).bind fun indices b hb => ensures_pure ?_
  exact ⟨a, _, h, hb, placed.grants_withIndices indices⟩

/-- A plan has a document only if all its devices are placed. -/
theorem exists_outcome_of_assemble {vmName : String} {plan : Plan} {spec : InstanceSpec}
    (h : plan.assemble vmName a = .ok spec) :
    ∃ placed b, outcome plan.place a = (.ok placed, b) ∧
      spec = plan.document vmName placed b := by
  rw [assemble] at h
  change (match outcome plan.place a with
    | (.ok placed, b) => Except.ok (plan.document vmName placed b)
    | (.error e, _) => .error e) = _ at h
  cases hx : outcome plan.place a with
  | mk r b =>
    rw [hx] at h
    cases r with
    | error e => cases h
    | ok placed => exact ⟨placed, b, rfl, (Except.ok.inj h).symm⟩

end Plan

end GuestSpec
