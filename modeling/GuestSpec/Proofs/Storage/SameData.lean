import GuestSpec.Proofs.Naming.Devices
import GuestSpec.Proofs.Storage.Agreement

/-!
# What chains and drive records open

The first node of a chain opens what the locator of its image names, without the blanks around it. A
drive record hands the locator on as it was given. They open the same unless there are such blanks.
-/

namespace GuestSpec

open Storage Guarantee

/-- The path or the URL that a node opens, if its data are named by one. -/
def ProtocolNode.opened? : ProtocolNode → Option String
  | file filename _ | hostDevice filename _ => some filename
  | web _ url => some url
  | _ => none

def StorageNodeKind.opened? : StorageNodeKind → Option String
  | protocol node => node.opened?
  | _ => none

def StorageBackend.opened? (b : StorageBackend) : Option String :=
  match b with
  | legacy drive => some drive.file
  | _ => b.layers.head?.bind StorageNodeKind.opened?

theorem StorageBackend.opened?_of_isLayered {b : StorageBackend} (h : b.isLayered = true) :
    b.opened? = b.layers.head?.bind StorageNodeKind.opened? := by
  cases b with
  | layered => rfl
  | _ => cases h

namespace Storage

def givenFormat (image : String) (media : Media) (p : Parameters) :
    Except Parameters.Error ImageFormat :=
  match media with
  | .disk => namedParameter p "image_format" image "qcow2" "an image format"
  | .cdrom | .floppy => .ok .raw

/-- The locator that the parameters give for an image, as it stands there. -/
def givenLocator (p : Parameters) (image : String) (media : Media) :
    Except Parameters.Error (Option String) := do
  imageLocator image media (p.scopedTo image) (← givenFormat image media (p.scopedTo image))

end Storage

structure UnplacedDisk.BackedBy (mode : Mode) (p : Parameters) (image : String) (media : Media)
    (d : UnplacedDisk) : Prop where
  name_eq : d.name = image
  media_eq : d.media = media
  backend : ∃ medium o secret, givenLocator p image media = .ok medium ∧
    mode.Makes image o secret d.backend medium

/-- The same images as chains and as drive records. An image whose locator is a plain path or a
plain URL is opened under one name in both forms exactly when there are no blanks around the
locator. -/
structure StoragePlan.OpensAlike (p : Parameters) (chains records : StoragePlan) : Prop where
  images_chains : chains.disks.map (fun d => (d.name, d.media)) = images p
  images_records : records.disks.map (fun d => (d.name, d.media)) = images p
  disks : List.Forall₂ (fun a b => ∀ file node,
    givenLocator p a.name a.media = .ok (some file) → classify a.name file = .ok (.plain node) →
    node.opened?.isSome → (a.backend.opened? = b.backend.opened? ↔ Text.trim file = file))
    chains.disks records.disks

namespace Storage

/-! ## Locators -/

theorem opened?_ofUrl (url scheme rest : String) :
    attempt.Holds (ofUrl url scheme rest) fun node => ∀ name ∈ node.opened?, name = url := by
  unfold ofUrl
  dsimp only
  split
  · exact attempt.bind attempt_trivial fun _ => attempt.ret fun _ => nofun
  · exact attempt.bind attempt_trivial fun _ => attempt.ret fun _ => nofun
  · refine attempt.bind attempt_trivial fun _ => ?_
    split
    · exact nofun
    · split
      · exact nofun
      · exact attempt.bind attempt_trivial fun _ => attempt.ret fun _ _ => nofun
  · refine attempt.bind attempt_trivial fun _ => ?_
    exact attempt.bind attempt_trivial fun _ => attempt.ret fun _ _ => nofun
  · split
    · exact nofun
    · exact attempt.bind attempt_trivial fun _ => attempt.ret fun _ => nofun
  · split
    · exact nofun
    · split
      · exact nofun
      · exact attempt.ret fun _ h => (Option.some.inj h).symm

theorem opened?_ofLocator (s : String) :
    attempt.Holds (ofLocator s) fun node => ∀ name ∈ node.opened?, name = s := by
  have hreach : ∀ name ∈ (ofPath.reach s).opened?, name = s := by
    intro name h
    unfold ofPath.reach at h
    split at h
    · exact (Option.some.inj h).symm
    · exact (Option.some.inj h).symm
  unfold ofLocator
  split
  · exact attempt.bind attempt_trivial fun _ => attempt.ret fun _ => nofun
  · split
    · exact opened?_ofUrl s _ _
    · unfold ofPath
      split
      · split
        · exact attempt.ret hreach
        · exact nofun
      · exact attempt.ret hreach

/-- A plain locator opens what it says without the blanks around it. -/
theorem opened?_of_classify {image file : String} {node : ProtocolNode}
    (h : classify image file = .ok (.plain node)) :
    ∀ name ∈ node.opened?, name = Text.trim file := by
  obtain ⟨s, hs, hplain⟩ := ofLocator_of_classify h
  obtain rfl := hplain node rfl
  exact opened?_ofLocator _ node hs

/-! ## Backends -/

theorem opened?_withAio (aio : Aio) (node : ProtocolNode) :
    (withAio aio node).opened? = node.opened? := by
  cases node <;> rfl

theorem opened?_layeredBackend (image : String) (node : ProtocolNode) (o : ImageOptions)
    (rawAttach : Bool) (secretId : Option String) :
    (layeredBackend image (.plain node) o rawAttach secretId).opened? = node.opened? := by
  obtain ⟨data, content, copied, h⟩ :=
    layers_layeredBackend image (.plain node) o rawAttach secretId
  rw [StorageBackend.opened?_of_isLayered rfl, h]
  exact opened?_withAio o.aio node

/-- What is opened in the form of a mode: the locator itself, or the locator without the blanks
around it. -/
theorem opened?_backend {image file : String} {node : ProtocolNode} (mode : Mode)
    (o : ImageOptions) (secretId : Option String)
    (hclassify : classify image file = .ok (.plain node)) (hopened : node.opened?.isSome) :
    (mode.backend image file (.plain node) o secretId).opened? =
      some (if mode.layered then Text.trim file else file) := by
  obtain ⟨name, hname⟩ := Option.isSome_iff_exists.1 hopened
  unfold Mode.backend
  split
  · rw [opened?_layeredBackend, hname, opened?_of_classify hclassify name hname]
  · rfl

/-! ## Plans -/

theorem givenFormat_of_ofParameters (image : String) (media : Media) (p : Parameters)
    (groups : List ObjectSpec) : attempt.Holds (ImageOptions.ofParameters image media p groups)
      fun o => givenFormat image media p = .ok o.format := by
  unfold ImageOptions.ofParameters
  cases media
  all_goals
    refine attempt.bind (fun _ h => h) fun format => ?_
    refine attempt.bind attempt_trivial fun cache => ?_
    refine attempt.bind attempt_trivial fun aio => ?_
    refine attempt.bind attempt_trivial fun throttleGroup => ?_
    refine attempt.bind attempt_trivial fun readOnly => ?_
    refine attempt.bind attempt_trivial fun copyOnRead => ?_
    exact attempt.ret fun _ _ _ _ _ h => h

section Planned

variable {m : Type → Type} [Monad m] [LawfulMonad m] {G : Guarantee m} {t : Target m}
  {K : Findings} (hK : G.Finds t.oracle K)

include hK

theorem backed_buildImage (p : Parameters) (image : String) (media : Media)
    (groups : List ObjectSpec) (mode : Mode) :
    G.build.Holds (buildImage image media (p.scopedTo image) t groups mode) fun r =>
      r.1.BackedBy mode p image media := by
  refine G.bind_parameters fun o ho => G.bind_attempt fun (driver, bus) _ => ?_
  refine G.build.bind (holds_requireDevice hK driver) fun _ => ?_
  have hmakes := makes_imageBackend (Q := fun _ => True) trivial
    (G.build.mono (holds_imageSecret hK image o) fun _ _ => trivial) media (p.scopedTo image) mode
  refine G.build.bind hmakes fun (b, secret) => ?_
  refine G.bind_parameters fun removable _ => G.bind_parameters fun extra _ => ?_
  refine G.bind_parameters fun request _ => G.build.ret fun hb _ => ?_
  obtain ⟨-, medium, hmedium, hb⟩ := hb
  have hformat := givenFormat_of_ofParameters image media (p.scopedTo image) groups o ho
  refine ⟨rfl, rfl, medium, o, secret, ?_, hb⟩
  rw [givenLocator, hformat]
  exact hmedium

/-- All images of a guest have the backends of one mode, which is layered when the hypervisor has
nodes. -/
theorem backed_build (p : Parameters) :
    G.build.Holds (build p t) fun plan => ∃ mode, K.allows (.probe .blockdev) mode.layered ∧
      List.Forall₂ (fun image d => d.BackedBy mode p image.1 image.2) (images p) plan.disks := by
  refine G.build.bind (P := fun mode => K.allows (.probe .blockdev) mode.layered) ?_ fun mode => ?_
  · refine G.build.bind (holds_probe hK _) fun layered => ?_
    refine G.build.bind (holds_probe hK _) fun rawAttach => ?_
    exact G.build.ret fun _ hlayered => hlayered
  · refine G.build.bind (holds_throttleGroups hK p) fun groups => ?_
    refine G.build.bind (G.build.mapM_forall₂ (fun image : String × Media =>
      backed_buildImage hK p image.1 image.2 groups mode) _) fun built => ?_
    refine G.build.ret fun hbuilt _ hmode => ⟨mode, hmode, ?_⟩
    rw [List.forall₂_map_right_iff]
    exact hbuilt

end Planned

theorem map_of_backedBy {p : Parameters} {mode : Mode} {disks : List UnplacedDisk}
    (h : List.Forall₂ (fun image d => d.BackedBy mode p image.1 image.2) (images p) disks) :
    disks.map (fun d => (d.name, d.media)) = images p := by
  rw [← List.map_id (images p)]
  exact map_eq_of_forall₂ (h.imp fun _ _ hd => Prod.ext hd.name_eq hd.media_eq)

/-- Two plans with the backends of a layered mode and of one that is not. -/
theorem opensAlike_of_backedBy {p : Parameters} {mode mode' : Mode} (hmode : mode.layered = true)
    (hmode' : mode'.layered = false) {chains records : StoragePlan}
    (h : List.Forall₂ (fun image d => d.BackedBy mode p image.1 image.2) (images p) chains.disks)
    (h' : List.Forall₂ (fun image d => d.BackedBy mode' p image.1 image.2) (images p)
      records.disks) : chains.OpensAlike p records where
  images_chains := map_of_backedBy h
  images_records := map_of_backedBy h'
  disks := by
    refine forall₂_comp (fun a image b ha hb file node hfile hclassify hopened => ?_) h.flip h'
    have hopens : ∀ {mode : Mode} {d : UnplacedDisk}, d.BackedBy mode p image.1 image.2 →
        d.backend.opened? = some (if mode.layered then Text.trim file else file) := by
      intro mode d hd
      obtain ⟨medium, o, secret, hmedium, hbackend⟩ := hd.backend
      rw [ha.name_eq, ha.media_eq, hmedium] at hfile
      rw [ha.name_eq] at hclassify
      obtain rfl := Except.ok.inj hfile
      obtain ⟨locator, hlocator, hb⟩ := hbackend
      obtain rfl := Except.ok.inj (hclassify.symm.trans hlocator)
      rw [hb, opened?_backend mode o _ hclassify hopened]
    rw [hopens ha, hopens hb, if_pos hmode, hmode', Option.some.injEq]
    rfl

end Storage

section Runs

variable {σ τ : Type} {o₁ : Oracle (StateM σ)} {o₂ : Oracle (StateM τ)} {family : MachineFamily}
  {machineType : String} {p : Parameters}

/-- The plan of a run in which the hypervisor can have nodes, and that of a run in which it cannot,
are plans of the same images, and each image with a plain path or a plain URL is opened under one
name in both exactly when there are no blanks around its locator. Nothing else of the hypervisor
matters: when one run fails, so does the other, with the same error. -/
theorem opensAlike_storage_build (h₁ : o₁.Steady) (h₂ : o₂.Steady) {s₁ t₁ : σ} {s₂ t₂ : τ}
    {r₁ r₂ : Except CompileError StoragePlan}
    (hr₁ : Oracle.runFrom (build p ⟨o₁, family, machineType⟩).run s₁ = (r₁, t₁))
    (hr₂ : Oracle.runFrom (build p ⟨o₂, family, machineType⟩).run s₂ = (r₂, t₂))
    (halike : (o₁.answers t₁).AlikeExcept .blockdev (o₂.answers t₂))
    (hchains : (o₁.answers t₁).probe .blockdev = true)
    (hrecords : (o₂.answers t₂).probe .blockdev = false) :
    AlikeResults (StoragePlan.OpensAlike p) r₁ r₂ := by
  have hbacked₁ := Oracle.build_during
    (backed_build (t := ⟨o₁, family, machineType⟩) (h₁.finds s₁ t₁) p) hr₁
  have hbacked₂ := Oracle.build_during
    (backed_build (t := ⟨o₂, family, machineType⟩) (h₂.finds s₂ t₂) p) hr₂
  have halike_run : AlikeResults StoragePlan.Alike r₁ r₂ := by
    rw [Oracle.gives_during (gives_build (t := ⟨o₁, family, machineType⟩) (h₁.finds s₁ t₁) p) hr₁,
      Oracle.gives_during (gives_build (t := ⟨o₂, family, machineType⟩) (h₂.finds s₂ t₂) p) hr₂]
    exact Storage.alike_build halike p
  cases halike_run with
  | error e => exact .error e
  | @ok chains records _ =>
    obtain ⟨mode, hmode, hdisks⟩ := hbacked₁ chains rfl
    obtain ⟨mode', hmode', hdisks'⟩ := hbacked₂ records rfl
    exact .ok (opensAlike_of_backedBy (hmode.symm.trans hchains) (hmode'.symm.trans hrecords)
      hdisks hdisks')

end Runs

/-- A path, a URL of a drive without blanks, and a wrapped image, as chains and as drive records. -/
theorem opensAlike_storage_build_cdrom :
    let chains : CapabilitySet := ⟨none, [.blockdev], ["ide-cd", "virtio-blk-pci"], []⟩
    let records : CapabilitySet := ⟨none, [], ["ide-cd", "virtio-blk-pci"], []⟩
    let p : Parameters := .ofList [("images", "a b"), ("cdroms", "c"),
      ("image_filename_a", "/dev/a "), ("image_filename_b", "blkdebug:faults:/b.qcow2"),
      ("cdrom_c", "http://host/c.iso")]
    let run (c : CapabilitySet) : Except CompileError StoragePlan × Unit :=
      Oracle.runFrom (build p ⟨c.oracle, .i440fx, "pc"⟩).run ()
    let opened (r : Except CompileError StoragePlan) : Option (List (Option String)) :=
      r.toOption.map fun plan => plan.disks.map fun d => d.backend.opened?
    opened (run chains).1 = some [some "/dev/a", some "/b.qcow2", some "http://host/c.iso"] ∧
      opened (run records).1 =
        some [some "/dev/a ", some "blkdebug:faults:/b.qcow2", some "http://host/c.iso"] ∧
      AlikeResults (StoragePlan.OpensAlike p) (run chains).1 (run records).1 := by
  intro chains records p run opened
  have halike : ((chains.oracle : Oracle (StateM Unit)).answers ()).AlikeExcept .blockdev
      ((records.oracle : Oracle (StateM Unit)).answers ()) := by
    refine ⟨fun c hc => ?_, rfl, rfl, rfl, rfl⟩
    cases c with
    | blockdev => exact absurd rfl hc
    | _ => rfl
  have hpair : ∀ r : Except CompileError StoragePlan × Unit, r = (r.1, ()) := fun _ => rfl
  exact ⟨by decide +kernel, by decide +kernel,
    opensAlike_storage_build chains.steady_oracle records.steady_oracle (hpair (run chains))
      (hpair (run records)) halike rfl rfl⟩

/-- A blank before a path is kept in the drive record only. -/
theorem exists_not_same_data_storage_build :
    let chains : CapabilitySet := ⟨none, [.blockdev], ["virtio-blk-pci"], []⟩
    let records : CapabilitySet := ⟨none, [], ["virtio-blk-pci"], []⟩
    let p : Parameters := .ofList [("images", "a"), ("image_filename_a", " /a.qcow2")]
    let run (c : CapabilitySet) : Except CompileError StoragePlan × Unit :=
      Oracle.runFrom (build p ⟨c.oracle, .q35, "q35"⟩).run ()
    ∃ a b, (run chains).1 = .ok a ∧ (run records).1 = .ok b ∧
      ¬ List.Forall₂ (fun a b => ∀ file node,
        givenLocator p a.name a.media = .ok (some file) → classify a.name file = .ok (.plain node) →
        node.opened?.isSome → a.backend.opened? = b.backend.opened?) a.disks b.disks := by
  intro chains records p run
  have hchains : (run chains).1.toOption.map (fun plan => plan.disks.map fun d =>
      (d.name, d.media, d.backend.opened?)) = some [("a", .disk, some "/a.qcow2")] := by
    decide +kernel
  have hrecords : (run records).1.toOption.map (fun plan => plan.disks.map fun d =>
      (d.name, d.media, d.backend.opened?)) = some [("a", .disk, some " /a.qcow2")] := by
    decide +kernel
  have hlocator : givenLocator p "a" .disk = .ok (some " /a.qcow2") := by decide +kernel
  have hclassify : classify "a" " /a.qcow2" = .ok (.plain (.file "/a.qcow2" none)) := by
    decide +kernel
  cases ha : (run chains).1 with
  | error e =>
    rw [ha] at hchains
    cases hchains
  | ok a =>
    cases hb : (run records).1 with
    | error e =>
      rw [hb] at hrecords
      cases hrecords
    | ok b =>
      rw [ha] at hchains
      rw [hb] at hrecords
      refine ⟨a, b, rfl, rfl, fun hsame => ?_⟩
      obtain ⟨d, hd, hchain⟩ := List.map_eq_singleton_iff.1 (Option.some.inj hchains)
      obtain ⟨d', hd', hrecord⟩ := List.map_eq_singleton_iff.1 (Option.some.inj hrecords)
      obtain ⟨hname, hmedia, hchain⟩ : d.name = "a" ∧ d.media = .disk ∧
          d.backend.opened? = some "/a.qcow2" := by simpa using hchain
      obtain ⟨-, -, hrecord⟩ : d'.name = "a" ∧ d'.media = .disk ∧
          d'.backend.opened? = some " /a.qcow2" := by simpa using hrecord
      rw [hd, hd'] at hsame
      obtain ⟨hopened, -⟩ := List.forall₂_cons.1 hsame
      rw [hname, hmedia, hchain, hrecord] at hopened
      exact absurd (hopened _ _ hlocator hclassify rfl) (by decide)

end GuestSpec
