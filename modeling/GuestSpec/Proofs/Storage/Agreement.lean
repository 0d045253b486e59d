import GuestSpec.Proofs.Oracle.Steady
import GuestSpec.Proofs.Storage.Images
import Mathlib.Data.List.Forall2

/-!
# Chains and drive records agree

Whether images are chains of nodes or flat drive records is up to one capability. Planning storage
in one form and in the other comes to the same: the same errors, and otherwise the same objects and
disks with backends that say the same.
-/

namespace GuestSpec

open Storage

/-! ## What agrees -/

/-- Two backends say the same about an image. -/
structure StorageBackend.Alike (a b : StorageBackend) : Prop where
  cache : a.cache? = b.cache?
  readOnly : a.readOnly = b.readOnly
  aio : a.aio? = b.aio?
  copiesOnRead : a.copiesOnRead = b.copiesOnRead
  throttleGroups : a.throttleGroups = b.throttleGroups
  keySecrets : a.keySecrets = b.keySecrets
  format : a.format? = b.format?

def DeviceNode.withoutDrive (d : DeviceNode) : DeviceNode :=
  match d.props with
  | .disk p => { d with props := .disk { p with drive := none } }
  | _ => d

/-- Two images are the same but for the form of their backends. -/
structure UnplacedDisk.Alike (a b : UnplacedDisk) : Prop where
  name : a.name = b.name
  media : a.media = b.media
  request : a.device.request = b.device.request
  node : a.device.node.withoutDrive = b.device.node.withoutDrive
  backend : a.backend.Alike b.backend

structure StoragePlan.Alike (a b : StoragePlan) : Prop where
  objects : a.objects = b.objects
  disks : List.Forall₂ UnplacedDisk.Alike a.disks b.disks

/-- All backends of a plan have one form, apart from drives without a medium. -/
def StoragePlan.HasForm (layered : Bool) (plan : StoragePlan) : Prop :=
  ∀ d ∈ plan.disks, d.backend = .empty ∨ d.backend.isLayered = layered

/-- Two results are alike: both are values in a relation, or both are the same error. -/
inductive AlikeResults {α β : Type} (R : α → β → Prop) :
    Except CompileError α → Except CompileError β → Prop where
  | ok {a : α} {b : β} (h : R a b) : AlikeResults R (.ok a) (.ok b)
  | error (e : CompileError) : AlikeResults R (.error e) (.error e)

/-- Two oracles answer all questions alike except whether there is a certain capability. -/
structure Oracle.AlikeExcept (c : Capability) (u v : Oracle Id) : Prop where
  probe : ∀ d, d ≠ c → u.probe d = v.probe d
  inInterval : u.inInterval = v.inInterval
  hasDevice : u.hasDevice = v.hasDevice
  hasObject : u.hasObject = v.hasObject
  version : u.version = v.version

/-! ## Backends -/

namespace StorageBackend.Alike

theorem refl (b : StorageBackend) : b.Alike b := ⟨rfl, rfl, rfl, rfl, rfl, rfl, rfl⟩

theorem symm {a b : StorageBackend} (h : a.Alike b) : b.Alike a :=
  ⟨h.cache.symm, h.readOnly.symm, h.aio.symm, h.copiesOnRead.symm, h.throttleGroups.symm,
    h.keySecrets.symm, h.format.symm⟩

theorem trans {a b c : StorageBackend} (h : a.Alike b) (h' : b.Alike c) : a.Alike c :=
  ⟨h.cache.trans h'.cache, h.readOnly.trans h'.readOnly, h.aio.trans h'.aio,
    h.copiesOnRead.trans h'.copiesOnRead, h.throttleGroups.trans h'.throttleGroups,
    h.keySecrets.trans h'.keySecrets, h.format.trans h'.format⟩

end StorageBackend.Alike

/-- The chain of an image and its drive record say the same. -/
theorem alike_layeredBackend (image file : String) (locator : Locator) (o : ImageOptions)
    (rawAttach : Bool) {secretId : Option String} (hsecret : o.format = .raw → secretId = none) :
    (layeredBackend image locator o rawAttach secretId).Alike
      (legacyBackend image file locator o secretId) where
  cache := cache?_layeredBackend image locator o rawAttach secretId
  readOnly := readOnly_layeredBackend image locator o rawAttach secretId
  aio := aio?_layeredBackend image locator o rawAttach secretId
  copiesOnRead := copiesOnRead_layeredBackend image locator o rawAttach secretId
  throttleGroups := throttleGroups_layeredBackend image locator o rawAttach secretId
  keySecrets := keySecrets_layeredBackend image locator o rawAttach secretId hsecret
  format := format?_layeredBackend image locator o rawAttach secretId

theorem alike_backend (mode mode' : Mode) (image file : String) (locator : Locator)
    (o : ImageOptions) {secretId : Option String} (hsecret : o.format = .raw → secretId = none) :
    (mode.backend image file locator o secretId).Alike
      (mode'.backend image file locator o secretId) := by
  have hlegacy : ∀ mode : Mode, (mode.backend image file locator o secretId).Alike
      (legacyBackend image file locator o secretId) := by
    intro mode
    unfold Mode.backend
    split
    · exact alike_layeredBackend image file locator o mode.rawAttach hsecret
    · exact .refl _
  exact (hlegacy mode).trans (hlegacy mode').symm

/-! ## Steps -/

namespace AlikeResults

variable {α β γ δ : Type} {R : α → β → Prop} {S : γ → δ → Prop}

theorem bind {x : Build Id α} {y : Build Id β} {f : α → Build Id γ} {g : β → Build Id δ}
    (h : AlikeResults R x.run.run y.run.run)
    (hf : ∀ a b, R a b → AlikeResults S (f a).run.run (g b).run.run) :
    AlikeResults S (x >>= f).run.run (y >>= g).run.run := by
  rw [Guarantee.run_bind, Guarantee.run_bind]
  generalize x.run.run = r at h
  generalize y.run.run = r' at h
  cases h with
  | ok h => exact hf _ _ h
  | error e => exact .error e

theorem bind_same {x : Build Id α} {f : α → Build Id γ} {g : α → Build Id δ}
    (hf : ∀ a, x.run.run = .ok a → AlikeResults S (f a).run.run (g a).run.run) :
    AlikeResults S (x >>= f).run.run (x >>= g).run.run := by
  rw [Guarantee.run_bind, Guarantee.run_bind]
  cases hx : x.run.run with
  | ok a => exact hf a hx
  | error e => exact .error e

theorem mapM {f : α → Build Id γ} {g : α → Build Id δ}
    (h : ∀ a, AlikeResults S (f a).run.run (g a).run.run) (xs : List α) :
    AlikeResults (List.Forall₂ S) (xs.mapM f).run.run (xs.mapM g).run.run := by
  induction xs with
  | nil =>
    rw [List.mapM_nil, List.mapM_nil]
    exact .ok .nil
  | cons x xs ih =>
    rw [List.mapM_cons, List.mapM_cons]
    exact bind (h x) fun a b hab => bind ih fun as bs habs => .ok (.cons hab habs)

end AlikeResults

/-! ## Planning in two forms -/

namespace Storage

variable {m : Type → Type} [Monad m] [LawfulMonad m] {G : Guarantee m} {t : Target m}
  {u : Oracle Id}

section Answers

variable (hu : G.Finds t.oracle u.findings)

include hu

theorem gives_throttleGroups (p : Parameters) :
    G.Gives (throttleGroups p t) (throttleGroups p (t.on u)) := by
  refine Guarantee.gives_mapM (fun group => ?_) _
  refine Guarantee.gives_bind (Guarantee.gives_requireObject hu _) fun _ => ?_
  exact Guarantee.gives_bind (Guarantee.gives_parameters _) fun _ => Guarantee.gives_pure _

theorem gives_imageSecret (image : String) (o : ImageOptions) :
    G.Gives (imageSecret image o t) (imageSecret image o (t.on u)) := by
  unfold imageSecret
  cases o.secret with
  | none => exact Guarantee.gives_pure _
  | some data =>
    dsimp only
    split
    · exact Guarantee.gives_bind (Guarantee.gives_requireObject hu _) fun _ =>
        Guarantee.gives_pure _
    · exact Guarantee.gives_pure _

theorem gives_mediumBackend (image file : String) (o : ImageOptions) (mode : Mode) :
    G.Gives (mediumBackend image file o t mode) (mediumBackend image file o (t.on u) mode) := by
  unfold mediumBackend
  cases classify image file with
  | error e => exact Guarantee.gives_throw _
  | ok locator =>
    dsimp only
    cases o.conflict? locator.data with
    | some reason => exact Guarantee.gives_throw _
    | none =>
      exact Guarantee.gives_bind (gives_imageSecret hu image o) fun _ => Guarantee.gives_pure _

theorem gives_imageBackend (image : String) (media : Media) (p : Parameters) (o : ImageOptions)
    (mode : Mode) :
    G.Gives (imageBackend image media p o t mode) (imageBackend image media p o (t.on u) mode) := by
  refine Guarantee.gives_bind (Guarantee.gives_parameters _) fun file => ?_
  cases file with
  | none => exact Guarantee.gives_pure _
  | some file => exact gives_mediumBackend hu image file o mode

theorem gives_buildImage (image : String) (media : Media) (p : Parameters)
    (groups : List ObjectSpec) (mode : Mode) :
    G.Gives (buildImage image media p t groups mode)
      (buildImage image media p (t.on u) groups mode) := by
  refine Guarantee.gives_bind (Guarantee.gives_parameters _) fun o => ?_
  refine Guarantee.gives_bind (Guarantee.gives_attempt _) fun (driver, bus) => ?_
  refine Guarantee.gives_bind (Guarantee.gives_requireDevice hu driver) fun _ => ?_
  refine Guarantee.gives_bind (gives_imageBackend hu image media p o mode) fun _ => ?_
  refine Guarantee.gives_bind (Guarantee.gives_parameters _) fun removable => ?_
  refine Guarantee.gives_bind (Guarantee.gives_parameters _) fun extra => ?_
  exact Guarantee.gives_bind (Guarantee.gives_parameters _) fun request => Guarantee.gives_pure _

/-- Planning depends on the answers of the oracle only. -/
theorem gives_build (p : Parameters) : G.Gives (build p t) (build p (t.on u)) := by
  refine Guarantee.gives_bind ?_ fun mode => ?_
  · refine Guarantee.gives_bind (Guarantee.gives_probe hu _) fun _ => ?_
    exact Guarantee.gives_bind (Guarantee.gives_probe hu _) fun _ => Guarantee.gives_pure _
  · refine Guarantee.gives_bind (gives_throttleGroups hu p) fun groups => ?_
    refine Guarantee.gives_bind (Guarantee.gives_mapM (fun _ => ?_) _) fun _ =>
      Guarantee.gives_pure _
    exact gives_buildImage hu _ _ _ groups mode

end Answers

section Forms

variable {t : Target Id} {v : Oracle Id} (h : t.oracle.AlikeExcept .blockdev v)

include h

theorem requireDevice_on (name : String) : (t.on v).requireDevice name = t.requireDevice name := by
  rw [Target.requireDevice, Target.requireDevice, Target.on, ← h.hasDevice]

theorem requireObject_on (name : String) : (t.on v).requireObject name = t.requireObject name := by
  rw [Target.requireObject, Target.requireObject, Target.on, ← h.hasObject]

theorem throttleGroups_on (p : Parameters) : throttleGroups p (t.on v) = throttleGroups p t := by
  unfold throttleGroups throttleGroup
  simp only [requireObject_on h]

theorem imageSecret_on (image : String) (o : ImageOptions) :
    imageSecret image o (t.on v) = imageSecret image o t := by
  unfold imageSecret
  simp only [requireObject_on h]

def AlikeBackends (a b : StorageBackend × Option ObjectSpec) : Prop := a.1.Alike b.1 ∧ a.2 = b.2

def AlikeImages (a b : UnplacedDisk × Option ObjectSpec) : Prop := a.1.Alike b.1 ∧ a.2 = b.2

theorem alike_imageBackend (image : String) (media : Media) (p : Parameters) (o : ImageOptions)
    (mode mode' : Mode) :
    AlikeResults AlikeBackends (imageBackend image media p o t mode).run.run
      (imageBackend image media p o (t.on v) mode').run.run := by
  refine AlikeResults.bind_same fun file _ => ?_
  cases file with
  | none => exact .ok ⟨.refl _, rfl⟩
  | some file =>
    change AlikeResults _ (mediumBackend image file o t mode).run.run
      (mediumBackend image file o (t.on v) mode').run.run
    unfold mediumBackend
    cases classify image file with
    | error e => exact .error _
    | ok locator =>
      dsimp only
      cases o.conflict? locator.data with
      | some reason => exact .error _
      | none =>
        dsimp only
        rw [imageSecret_on h]
        refine AlikeResults.bind_same fun secret hsecret => ?_
        have hsecretOf : SecretOf o secret :=
          (holds_imageSecret (G := .plain) (K := .any) (fun _ => trivial) image o secret hsecret).1
        refine .ok ⟨alike_backend mode mode' image file locator o fun hraw => ?_, rfl⟩
        rw [hsecretOf.encrypted hraw, Option.map_none]

theorem alike_buildImage (image : String) (media : Media) (p : Parameters)
    (groups : List ObjectSpec) (mode mode' : Mode) :
    AlikeResults AlikeImages (buildImage image media p t groups mode).run.run
      (buildImage image media p (t.on v) groups mode').run.run := by
  refine AlikeResults.bind_same fun o _ => ?_
  refine AlikeResults.bind_same fun (driver, bus) _ => ?_
  dsimp only
  rw [requireDevice_on h]
  refine AlikeResults.bind_same fun _ _ => ?_
  refine AlikeResults.bind (alike_imageBackend h image media p o mode mode') ?_
  rintro ⟨b, secret⟩ ⟨b', secret'⟩ ⟨hb, rfl⟩
  refine AlikeResults.bind_same fun removable _ => ?_
  refine AlikeResults.bind_same fun extra _ => ?_
  refine AlikeResults.bind_same fun request _ => ?_
  exact .ok ⟨⟨rfl, rfl, rfl, rfl, hb⟩, rfl⟩

omit h in
theorem alike_plan {groups : List ObjectSpec}
    {built built' : List (UnplacedDisk × Option ObjectSpec)}
    (hbuilt : List.Forall₂ AlikeImages built built') :
    StoragePlan.Alike ⟨built.map (·.1), groups ++ built.filterMap (·.2)⟩
      ⟨built'.map (·.1), groups ++ built'.filterMap (·.2)⟩ where
  objects := by
    have hsecrets : built.map (·.2) = built'.map (·.2) := by
      induction hbuilt with
      | nil => rfl
      | cons h _ ih => rw [List.map_cons, List.map_cons, h.2, ih]
    have hobjects := congrArg (List.filterMap id) hsecrets
    rw [List.filterMap_map, List.filterMap_map] at hobjects
    exact congrArg (groups ++ ·) hobjects
  disks := by
    rw [List.forall₂_map_left_iff, List.forall₂_map_right_iff]
    exact hbuilt.imp fun _ _ h => h.1

theorem alike_build (p : Parameters) :
    AlikeResults StoragePlan.Alike (build p t).run.run (build p (t.on v)).run.run := by
  refine AlikeResults.bind (R := fun _ _ => True) (.ok trivial) fun mode mode' _ => ?_
  rw [throttleGroups_on h]
  refine AlikeResults.bind_same fun groups _ => ?_
  have hbuilt := AlikeResults.mapM (fun image : String × Media =>
    alike_buildImage h image.1 image.2 (p.scopedTo image.1) groups mode mode') (images p)
  exact AlikeResults.bind hbuilt fun _ _ hbuilt => .ok (alike_plan hbuilt)

end Forms

end Storage

/-- On hypervisors that differ in nothing but whether images can be chains of nodes, planning
storage gives the same error, or it gives plans with the same objects and disks, each in the form of
its hypervisor. -/
theorem alike_storage_build {σ τ : Type} {o₁ : Oracle (StateM σ)} {o₂ : Oracle (StateM τ)}
    (h₁ : o₁.Steady) (h₂ : o₂.Steady) (family : MachineFamily) (machineType : String)
    (p : Parameters) (s₁ : σ) (s₂ : τ) {r₁ r₂ : Except CompileError StoragePlan} {t₁ : σ} {t₂ : τ}
    (hr₁ : Oracle.runFrom (build p ⟨o₁, family, machineType⟩).run s₁ = (r₁, t₁))
    (hr₂ : Oracle.runFrom (build p ⟨o₂, family, machineType⟩).run s₂ = (r₂, t₂))
    (halike : (o₁.answers t₁).AlikeExcept .blockdev (o₂.answers t₂)) :
    AlikeResults StoragePlan.Alike r₁ r₂ ∧
      (∀ plan, r₁ = .ok plan → plan.HasForm ((o₁.answers t₁).probe .blockdev)) ∧
      (∀ plan, r₂ = .ok plan → plan.HasForm ((o₂.answers t₂).probe .blockdev)) := by
  have hrun : ∀ {σ : Type} {o : Oracle (StateM σ)} (_ : o.Steady) {s t : σ} {r},
      Oracle.runFrom (build p ⟨o, family, machineType⟩).run s = (r, t) →
      r = (build p ⟨o.answers t, family, machineType⟩).run.run := by
    intro σ o ho s t r hr
    exact Oracle.gives_during (gives_build (t := ⟨o, family, machineType⟩) (ho.finds s t) p) hr
  have hform : ∀ {σ : Type} {o : Oracle (StateM σ)} (_ : o.Steady) {s t : σ} {r},
      Oracle.runFrom (build p ⟨o, family, machineType⟩).run s = (r, t) →
      ∀ plan, r = .ok plan → plan.HasForm ((o.answers t).probe .blockdev) := by
    intro σ o ho s t r hr plan hplan d hd
    have hplanned := Oracle.build_during
      (holds_build (t := ⟨o, family, machineType⟩) (ho.finds s t) p) hr plan hplan
    exact (hplanned.disks d hd).layered.imp_right Eq.symm
  refine ⟨?_, hform h₁ hr₁, hform h₂ hr₂⟩
  rw [hrun h₁ hr₁, hrun h₂ hr₂]
  exact Storage.alike_build halike p

/-- A throttled image and an optical drive without a medium, as chains and as drive records. -/
theorem alike_storage_build_throttled :
    let chains : CapabilitySet :=
      ⟨none, [.blockdev], ["ide-cd", "virtio-blk-pci"], ["throttle-group"]⟩
    let records : CapabilitySet := ⟨none, [], ["ide-cd", "virtio-blk-pci"], ["throttle-group"]⟩
    let p : Parameters := .ofList [("images", "a"), ("cdroms", "c"), ("throttle_groups", "g"),
      ("image_throttle_group", "g"), ("image_copy_on_read_a", "yes")]
    let run (c : CapabilitySet) : Except CompileError StoragePlan × Unit :=
      Oracle.runFrom (build p ⟨c.oracle, .q35, "q35"⟩).run ()
    let forms (r : Except CompileError StoragePlan) : Option (List Bool) :=
      r.toOption.map fun plan => plan.disks.map fun d => d.backend.isLayered
    forms (run chains).1 = some [true, false] ∧ forms (run records).1 = some [false, false] ∧
      AlikeResults StoragePlan.Alike (run chains).1 (run records).1 := by
  intro chains records p run forms
  have halike : ((chains.oracle : Oracle (StateM Unit)).answers ()).AlikeExcept .blockdev
      ((records.oracle : Oracle (StateM Unit)).answers ()) := by
    refine ⟨fun c hc => ?_, rfl, rfl, rfl, rfl⟩
    cases c with
    | blockdev => exact absurd rfl hc
    | _ => rfl
  have hpair : ∀ r : Except CompileError StoragePlan × Unit, r = (r.1, ()) := fun _ => rfl
  have hchains : forms (run chains).1 = some [true, false] := by decide +kernel
  have hrecords : forms (run records).1 = some [false, false] := by decide +kernel
  exact ⟨hchains, hrecords,
    (alike_storage_build chains.steady_oracle records.steady_oracle .q35 "q35" p () ()
      (hpair (run chains)) (hpair (run records)) halike).1⟩

end GuestSpec
