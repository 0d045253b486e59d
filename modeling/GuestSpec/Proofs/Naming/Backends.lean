import GuestSpec.Proofs.Machine.Board
import GuestSpec.Proofs.Machine.Memory
import GuestSpec.Proofs.Naming.Devices
import GuestSpec.Proofs.Storage.Images
import Mathlib

/-!
# Names of images and of memory

The nodes and drives of an image, its secret, and the backends and devices of memory have names
that are made up: a fixed beginning, and the name that a list of objects gives. Throttle groups have
the names that are given to them, and the flash images of firmware have names of their own.
-/

namespace GuestSpec

open Guarantee

/-! ## Block nodes and drives -/

/-- The names of the nodes of a chain, or that of a drive record. -/
def StorageBackend.blockNames : StorageBackend → List String
  | layered nodes _ => nodes.map StorageNode.nodeName
  | legacy drive => [drive.id]
  | empty => []

def blockMarks : List String := ["file_", "blkdebug_", "drive_", "cor_", "throttle_"]

theorem prefixFree_blockMarks : PrefixFree blockMarks := by decide

def blockForms (image : String) : List Form := blockMarks.map fun mark => ⟨mark, image⟩

theorem mark_of_mem_blockForms {image : String} {f : Form} (h : f ∈ blockForms image) :
    f.mark ∈ blockMarks ∧ f.rest = image := by
  obtain ⟨mark, hmark, rfl⟩ := List.mem_map.1 h
  exact ⟨hmark, rfl⟩

theorem nodup_flatMap_blockForms {images : List String} (h : images.Nodup) :
    (images.flatMap blockForms).Nodup := by
  refine List.nodup_flatMap.2 ⟨fun image _ => ?_, h.imp fun hne f hf hg => hne ?_⟩
  · exact (by decide : blockMarks.Nodup).map fun _ _ heq => (Form.mk.inj heq).1
  · rw [← (mark_of_mem_blockForms hf).2, ← (mark_of_mem_blockForms hg).2]

/-- The nodes or the drive of a backend are named after an image. Only a chain has a node that
reaches the data. -/
structure StorageBackend.NamedAfter (image : String) (b : StorageBackend) : Prop where
  forms : ∃ forms : List Form, forms.Sublist (blockForms image) ∧
    b.blockNames = forms.map Form.text
  file : "file_" ++ image ∈ b.blockNames ↔ b.isLayered = true

theorem StorageBackend.exists_blockForms {images : List String} {backends : List StorageBackend}
    (h : List.Forall₂ NamedAfter images backends) : ∃ forms : List Form,
      forms.Sublist (images.flatMap blockForms) ∧
        backends.flatMap blockNames = forms.map Form.text := by
  induction h with
  | nil => exact ⟨[], .slnil, rfl⟩
  | cons hb _ ih =>
    obtain ⟨own, hown, htext⟩ := hb.forms
    obtain ⟨forms, hforms, hrest⟩ := ih
    exact ⟨own ++ forms, hown.append hforms, by
      rw [List.flatMap_cons, List.map_append, htext, hrest]⟩

/-- The nodes and drives of different images have different names. -/
theorem StorageBackend.nodup_blockNames {images : List String} {backends : List StorageBackend}
    (h : List.Forall₂ NamedAfter images backends) (himages : images.Nodup) :
    (backends.flatMap blockNames).Nodup := by
  obtain ⟨forms, hsub, htext⟩ := exists_blockForms h
  rw [htext]
  refine prefixFree_blockMarks.nodup_text (fun f hf => ?_)
    ((nodup_flatMap_blockForms himages).sublist hsub)
  obtain ⟨image, -, hf⟩ := List.mem_flatMap.1 (hsub.subset hf)
  exact (mark_of_mem_blockForms hf).1

namespace Storage

section Chains

variable (image : String) (locator : Locator) (o : ImageOptions) (rawAttach : Bool)
  (secretId : Option String)

def Chain.names (c : Chain) : List String := c.nodes.map StorageNode.nodeName

theorem Chain.names_push (c : Chain) (name : String) (kind : StorageNodeKind) :
    (c.push name kind).names = c.names ++ [name] := List.map_append

theorem Chain.blockNames_backend (c : Chain) : c.backend.blockNames = c.names := rfl

theorem names_locate (c : Chain) (aio : Aio) : ∃ forms : List Form,
    forms.Sublist [⟨"blkdebug_", image⟩] ∧
      (c.locate image aio locator).names =
        c.names ++ (⟨"file_", image⟩ :: forms).map Form.text := by
  cases locator with
  | plain node => exact ⟨[], List.nil_sublist _, c.names_push _ _⟩
  | blkdebug config inner =>
    refine ⟨_, .refl _, ?_⟩
    rw [Chain.locate, Chain.protocol, Chain.names_push, Chain.protocol, Chain.names_push,
      List.append_assoc]
    rfl

theorem names_contentChain : ∃ forms : List Form,
    forms.Sublist [⟨"blkdebug_", image⟩, ⟨"drive_", image⟩] ∧
      (contentChain image locator o rawAttach secretId).names =
        (⟨"file_", image⟩ :: forms).map Form.text := by
  obtain ⟨forms, hsub, hnames⟩ :=
    names_locate image locator (Chain.start o.readOnly o.cache) o.aio
  rw [contentChain]
  split
  · exact ⟨forms, hsub.trans (List.sublist_append_left _ _), hnames⟩
  · refine ⟨forms ++ [⟨"drive_", image⟩], hsub.append (.refl _), ?_⟩
    rw [Chain.format, Chain.names_push, hnames]
    simp [Chain.names, Chain.start, Form.text]

theorem names_copiedChain : ∃ forms : List Form,
    forms.Sublist [⟨"blkdebug_", image⟩, ⟨"drive_", image⟩, ⟨"cor_", image⟩] ∧
      (copiedChain image locator o rawAttach secretId).names =
        (⟨"file_", image⟩ :: forms).map Form.text := by
  obtain ⟨forms, hsub, hnames⟩ := names_contentChain image locator o rawAttach secretId
  rw [copiedChain]
  split
  · refine ⟨forms ++ [⟨"cor_", image⟩], hsub.append (.refl _), ?_⟩
    rw [Chain.copyOnRead, Chain.names_push, hnames]
    simp [Form.text]
  · exact ⟨forms, hsub.trans (List.sublist_append_left [_, _] _), hnames⟩

/-- The nodes of a chain are named after the image, and the lowest one reaches its data. -/
theorem names_layeredBackend : ∃ forms : List Form,
    forms.Sublist [⟨"blkdebug_", image⟩, ⟨"drive_", image⟩, ⟨"cor_", image⟩, ⟨"throttle_", image⟩] ∧
      (layeredBackend image locator o rawAttach secretId).blockNames =
        (⟨"file_", image⟩ :: forms).map Form.text := by
  obtain ⟨forms, hsub, hnames⟩ := names_copiedChain image locator o rawAttach secretId
  rw [layeredBackend_eq]
  cases o.throttleGroup with
  | none => exact ⟨forms, hsub.trans (List.sublist_append_left [_, _, _] _), hnames⟩
  | some group =>
    refine ⟨forms ++ [⟨"throttle_", image⟩], hsub.append (.refl _), ?_⟩
    rw [Option.elim_some, Chain.blockNames_backend, Chain.throttle, Chain.names_push, hnames]
    simp [Form.text]

theorem namedAfter_layeredBackend :
    (layeredBackend image locator o rawAttach secretId).NamedAfter image := by
  obtain ⟨forms, hsub, hnames⟩ := names_layeredBackend image locator o rawAttach secretId
  refine ⟨⟨_, hsub.cons_cons _, hnames⟩, fun _ => rfl, fun _ => ?_⟩
  rw [hnames]
  exact List.mem_cons_self

theorem namedAfter_legacyBackend (file : String) :
    (legacyBackend image file locator o secretId).NamedAfter image := by
  have hne : "file_" ++ image ≠ "drive_" ++ image := by
    intro heq
    have hforms : (⟨"file_", image⟩ : Form) = ⟨"drive_", image⟩ :=
      prefixFree_blockMarks.text_inj (by simp [blockMarks]) (by simp [blockMarks]) heq
    exact absurd (Form.mk.inj hforms).1 (by decide)
  refine ⟨⟨[⟨"drive_", image⟩], ?_, rfl⟩, fun hmem => ?_, fun h => nomatch h⟩
  · exact List.singleton_sublist.2 (List.mem_map_of_mem (by decide))
  · exact absurd (List.mem_singleton.1 hmem) hne

end Chains

theorem namedAfter_empty (image : String) : StorageBackend.empty.NamedAfter image where
  forms := ⟨[], List.nil_sublist _, rfl⟩
  file := ⟨nofun, nofun⟩

end Storage

/-! ## Images -/

structure ObjectSpec.SecretOf (image : String) (o : ObjectSpec) : Prop where
  id : o.id = "sec_" ++ image
  kind : o.kind.isThrottleGroup = false

structure UnplacedDisk.Declared (p : Parameters) (image : String) (d : UnplacedDisk) : Prop where
  name : d.name = image
  device : d.device.Declared p image
  backend : d.backend.NamedAfter image

def Parameters.imageNames (p : Parameters) : List String := (Storage.images p).map Prod.fst

structure StoragePlan.Labelled (p : Parameters) (plan : StoragePlan) : Prop where
  disks : List.Forall₂ (fun image d => d.Declared p image) p.imageNames plan.disks
  groups : (plan.objects.filter fun o => o.kind.isThrottleGroup).map ObjectSpec.id =
    p.objects "throttle_groups"
  secrets : ∃ images : List String, images.Sublist p.imageNames ∧
    (plan.objects.filter fun o => !o.kind.isThrottleGroup).map ObjectSpec.id =
      (formsOf "sec_" images).map Form.text

namespace Storage

variable {m : Type → Type} [Monad m] [LawfulMonad m] {G : Guarantee m} {t : Target m}
  {K : Findings} (hK : G.Finds t.oracle K)

include hK

theorem secretOf_imageSecret (image : String) (o : ImageOptions) :
    G.build.Holds (imageSecret image o t) fun secret => ∀ s ∈ secret, s.SecretOf image := by
  have hnone : ∀ s ∈ (none : Option ObjectSpec), s.SecretOf image := fun _ h => (nomatch h)
  unfold imageSecret
  split
  · split
    · refine G.build.bind (holds_requireObject hK _) fun _ => G.build.ret fun _ s hs => ?_
      obtain rfl := Option.some.inj hs
      exact ⟨rfl, rfl⟩
    · exact G.build.ret hnone
  · exact G.build.ret hnone

theorem namedAfter_imageBackend (image : String) (media : Media) (p : Parameters)
    (o : ImageOptions) (mode : Mode) :
    G.build.Holds (imageBackend image media p o t mode) fun r =>
      r.1.NamedAfter image ∧ ∀ s ∈ r.2, s.SecretOf image := by
  have hmakes := makes_imageBackend (Q := fun secret => ∀ s ∈ secret, s.SecretOf image)
    (fun _ h => (nomatch h)) (secretOf_imageSecret hK image o) media p mode
  refine G.build.mono hmakes fun r ⟨hsecret, medium, _, hb⟩ => ⟨?_, hsecret⟩
  cases medium with
  | none =>
    rw [hb.2]
    exact namedAfter_empty image
  | some file =>
    obtain ⟨locator, -, hb⟩ := hb
    rw [hb, Mode.backend]
    split
    · exact namedAfter_layeredBackend _ _ _ _ _
    · exact namedAfter_legacyBackend _ _ _ _ _

theorem declared_buildImage (p : Parameters) (image : String) (media : Media)
    (groups : List ObjectSpec) (mode : Mode) :
    G.build.Holds (buildImage image media (p.scopedTo image) t groups mode) fun r =>
      r.1.Declared p image ∧ ∀ s ∈ r.2, s.SecretOf image := by
  refine G.bind_parameters fun o _ => G.bind_attempt fun (driver, bus) _ => ?_
  refine G.build.bind (holds_requireDevice hK driver) fun _ => ?_
  refine G.build.bind (namedAfter_imageBackend hK image media _ o mode) fun (b, secret) => ?_
  refine G.bind_parameters fun removable _ => G.bind_parameters fun extra _ => ?_
  refine G.bind_parameters fun request hrequest => G.build.ret fun hb _ => ?_
  refine ⟨⟨rfl, ⟨rfl, ⟨.inl ⟨_, rfl⟩, rfl⟩, boot_of_ofParameters hrequest⟩, hb.1⟩, hb.2⟩

theorem labelled_throttleGroups (p : Parameters) :
    G.build.Holds (throttleGroups p t) fun groups =>
      groups.map ObjectSpec.id = p.objects "throttle_groups" ∧
        ∀ g ∈ groups, g.kind.isThrottleGroup = true := by
  have hgroups : G.build.Holds (throttleGroups p t)
      (List.Forall₂ (fun name g => g.id = name ∧ g.kind.isThrottleGroup = true)
        (p.objects "throttle_groups")) := by
    refine G.build.mapM_forall₂ (fun group => ?_) _
    refine G.build.bind (holds_requireObject hK _) fun _ => ?_
    exact G.bind_parameters fun limits _ => G.build.ret fun _ => ⟨rfl, rfl⟩
  refine G.build.mono hgroups fun groups h => ⟨?_, ?_⟩
  · simpa using map_eq_of_forall₂ (h.imp fun _ _ h => h.1)
  · intro g hg
    obtain ⟨_, -, -, hkind⟩ := exists_of_forall₂ h g hg
    exact hkind

omit hK in
/-- The secrets of some images have the names of those images that have one. -/
theorem exists_secrets {images : List String} {secrets : List (Option ObjectSpec)}
    (h : List.Forall₂ (fun image secret => ∀ s ∈ secret, s.SecretOf image) images secrets) :
    ∃ sub : List String, sub.Sublist images ∧
      (secrets.filterMap id).map ObjectSpec.id = (formsOf "sec_" sub).map Form.text := by
  induction h with
  | nil => exact ⟨[], .refl _, rfl⟩
  | @cons image secret images secrets hs _ ih =>
    obtain ⟨sub, hsub, hids⟩ := ih
    cases secret with
    | none => exact ⟨sub, hsub.cons _, hids⟩
    | some s =>
      refine ⟨image :: sub, hsub.cons_cons _, ?_⟩
      rw [List.filterMap_cons, id, List.map_cons, hids, (hs s rfl).id]
      rfl

/-- The images of a guest have the names that lists of objects give them, and so have its throttle
groups. -/
theorem labelled_build (p : Parameters) :
    G.build.Holds (build p t) fun plan => plan.Labelled p := by
  refine G.build.bind (P := fun _ => True) ?_ fun mode => ?_
  · refine G.build.bind (holds_probe hK _) fun layered => ?_
    exact G.build.bind (holds_probe hK _) fun rawAttach => G.build.ret fun _ _ => trivial
  · refine G.build.bind (labelled_throttleGroups hK p) fun groups => ?_
    refine G.build.bind (G.build.mapM_forall₂ (fun image : String × Media =>
      declared_buildImage hK p image.1 image.2 groups mode) _) fun built => ?_
    refine G.build.ret fun hbuilt ⟨hids, hgroups⟩ _ => ?_
    have hsecrets : List.Forall₂ (fun image (secret : Option ObjectSpec) =>
        ∀ s ∈ secret, s.SecretOf image) p.imageNames (built.map Prod.snd) := by
      rw [Parameters.imageNames, List.forall₂_map_left_iff, List.forall₂_map_right_iff]
      exact hbuilt.imp fun _ _ h => h.2
    have hkinds : ∀ s ∈ built.filterMap Prod.snd, s.kind.isThrottleGroup = false := by
      intro s hs
      obtain ⟨r, hr, hsecret⟩ := List.mem_filterMap.1 hs
      obtain ⟨_, -, -, hof⟩ := exists_of_forall₂ hbuilt r hr
      exact (hof s hsecret).kind
    obtain ⟨images, hsub, hnames⟩ := exists_secrets hsecrets
    refine ⟨?_, ?_, images, hsub, ?_⟩
    · rw [Parameters.imageNames, List.forall₂_map_left_iff, List.forall₂_map_right_iff]
      exact hbuilt.imp fun _ _ h => h.1
    · rw [List.filter_append, List.filter_eq_self.2 hgroups, List.filter_eq_nil_iff.2,
        List.append_nil, hids]
      intro s hs
      rw [hkinds s hs]
      exact Bool.false_ne_true
    · rw [List.filter_append, List.filter_eq_nil_iff.2, List.nil_append, List.filter_eq_self.2,
        ← hnames, List.filterMap_map]
      · rfl
      · intro s hs
        rw [hkinds s hs]
        rfl
      · intro g hg
        rw [hgroups g hg]
        exact Bool.false_ne_true

end Storage

/-! ## Flash images -/

def Firmware.FlashNamed (f : Firmware) : Prop :=
  f.flash = [] ∨ ∃ layered : Bool, f.flash.map (fun i => i.backend.isLayered) = [layered, layered] ∧
    f.flash.flatMap (fun i => i.backend.blockNames) =
      if layered then ["file_ovmf_code", "ovmf_code", "file_ovmf_vars", "ovmf_vars"]
      else ["ovmf_code", "ovmf_vars"]

namespace Board

variable {m : Type → Type} [Monad m] [LawfulMonad m] {G : Guarantee m} {t : Target m}
  {K : Findings} (hK : G.Finds t.oracle K)

include hK

theorem flashNamed_uefi (p : Parameters) : G.build.Holds (uefi p t) Firmware.FlashNamed := by
  refine G.build.bind (holds_probe hK _) fun layered => ?_
  refine G.bind_parameters fun secureBoot _ => G.build.ret fun _ => .inr ⟨layered, ?_, ?_⟩
  · cases layered <;> rfl
  · cases layered <;> rfl

theorem flashNamed_firmware (p : Parameters) :
    G.build.Holds (firmware p t) Firmware.FlashNamed := by
  unfold firmware
  dsimp only
  split
  · exact G.build.ret (.inl rfl)
  · split
    · exact flashNamed_uefi hK p
    · split
      · exact G.except_throw
      · split
        · exact G.build.ret (.inl rfl)
        · exact G.except_throw

end Board

/-! ## Memory -/

def memoryMarks : List String := ["dimm-", "nvdimm-", "virtio_mem-"]

structure UnplacedMemoryDevice.Declared (name : String) (d : UnplacedMemoryDevice) : Prop where
  backend : d.backend.id = "mem-" ++ name
  device : ∃ mark ∈ memoryMarks, d.device.node.id = mark ++ name
  indexless : d.device.node.Indexless

structure MemoryPlan.Labelled (p : Parameters) (plan : MemoryPlan) : Prop where
  machine : ∀ b ∈ plan.memory.backend, b.id = "mem-machine_mem"
  devices : List.Forall₂ UnplacedMemoryDevice.Declared (p.objects "mem_devs") plan.devices

theorem Guarantee.foldlM_forall₂ {α β γ : Type} {m : Type → Type} [Monad m] [LawfulMonad m]
    (G : Guarantee m) {f : β → α → m β} {I : β → List γ} {R : α → γ → Prop}
    (h : ∀ b a, G.Holds (f b a) fun b' => ∃ c, I b' = I b ++ [c] ∧ R a c) (xs : List α)
    (b : β) :
    G.Holds (xs.foldlM f b) fun b' => ∃ cs, I b' = I b ++ cs ∧ List.Forall₂ R xs cs := by
  refine G.mono (G.foldlM_along
    (I := fun done b' => ∃ cs, I b' = I b ++ cs ∧ List.Forall₂ R done cs) (fun done b₁ a => ?_)
    xs [] b) fun b' h' => h' ⟨[], (List.append_nil _).symm, .nil⟩
  refine G.mono (h b₁ a) ?_
  rintro b₂ ⟨c, hc, ha⟩ ⟨cs, hcs, hdone⟩
  exact ⟨cs ++ [c], by rw [hc, hcs, List.append_assoc], List.rel_append hdone (.cons ha .nil)⟩

namespace MemoryPlan

theorem id_deviceBackend (name : String) (p : Parameters) (sizeMib : UInt64) (pmem : Bool) :
    attempt.Holds (deviceBackend name p sizeMib pmem) fun b => b.id = "mem-" ++ name := by
  refine attempt.bind attempt_trivial fun kind => ?_
  refine attempt.bind attempt_trivial fun share => ?_
  exact attempt.bind attempt_trivial fun prealloc => attempt.ret fun _ _ _ => rfl

theorem declared_deviceParts {m : Type → Type} (name : String) (p : Parameters) (t : Target m)
    (sizeMib : UInt64) (pmem : Bool) (slot : UInt32) :
    attempt.Holds (deviceParts name p t sizeMib pmem slot) fun r =>
      r.1.id = "mem-" ++ name ∧ (∃ mark ∈ memoryMarks, r.2.1.id = mark ++ name) ∧
        r.2.1.Indexless := by
  unfold deviceParts
  split
  · refine attempt.bind (attempt_parameters (id_deviceBackend _ _ _ _)) fun backend => ?_
    refine attempt.bind attempt_trivial fun next => attempt.ret fun _ hbackend => ?_
    refine ⟨hbackend, ?_, rfl, rfl⟩
    cases pmem with
    | true => exact ⟨"nvdimm-", by simp [memoryMarks], rfl⟩
    | false => exact ⟨"dimm-", by simp [memoryMarks], rfl⟩
  · split
    · exact fun _ h => nomatch h
    · refine attempt.bind (attempt_parameters (id_deviceBackend _ _ _ _)) fun backend => ?_
      have hnode : attempt.Holds (virtioMem name p t backend)
          fun node => node.id = "virtio_mem-" ++ name ∧ node.Indexless := by
        refine attempt.bind attempt_trivial fun requested => ?_
        refine attempt.bind attempt_trivial fun block => ?_
        refine attempt.bind attempt_trivial fun node => ?_
        refine attempt.bind attempt_trivial fun prealloc => ?_
        exact attempt.bind attempt_trivial fun memslots =>
          attempt.ret fun _ _ _ _ _ => ⟨rfl, rfl, rfl⟩
      refine attempt.bind (attempt_parameters hnode) fun node => attempt.ret fun h hbackend => ?_
      exact ⟨hbackend, ⟨"virtio_mem-", by simp [memoryMarks], h.1⟩, h.2⟩
  · exact fun _ h => nomatch h

variable {m : Type → Type} [Monad m] [LawfulMonad m] {G : Guarantee m} {t : Target m}
  {K : Findings} (hK : G.Finds t.oracle K)

include hK

theorem id_baseMemory (p : Parameters) (sizeMib : UInt64) :
    G.build.Holds (baseMemory p t sizeMib) fun r => ∀ b ∈ r.1, b.id = "mem-machine_mem" := by
  refine G.bind_parameters fun kind _ => ?_
  cases kind with
  | none => exact G.build.ret fun _ h => nomatch h
  | some kind =>
    refine G.bind_parameters fun share _ => G.bind_parameters fun prealloc _ => ?_
    refine G.build.bind (holds_probe hK _) fun b => ?_
    cases b with
    | true =>
      refine G.build.bind (holds_requireObject hK _) fun _ => G.build.ret fun _ _ b hb => ?_
      obtain rfl := Option.some.inj hb
      rfl
    | false =>
      cases kind with
      | memfd _ => exact G.except_throw
      | _ => exact G.build.ret fun _ _ h => nomatch h

theorem declared_addDevice (p : Parameters) (ds : Devices) (name : String) :
    G.build.Holds (addDevice p t ds name) fun ds' =>
      ∃ d, ds'.list = ds.list ++ [d] ∧ d.Declared name := by
  refine G.bind_parameters fun sizeMib _ => ?_
  cases sizeMib with
  | none => exact G.except_throw
  | some sizeMib =>
    refine G.bind_parameters fun pmem _ => ?_
    refine G.bind_attempt fun (backend, node, bus, slots) hparts => ?_
    refine G.build.bind (holds_requireObject hK _) fun _ => ?_
    refine G.build.bind (holds_requireDevice hK _) fun _ => ?_
    refine G.bind_attempt fun totalMib _ => G.build.ret fun _ _ => ⟨_, rfl, ?_⟩
    obtain ⟨hbackend, hid, hnode⟩ := declared_deviceParts _ _ _ _ _ _ _ hparts
    exact ⟨hbackend, hid, hnode⟩

/-- The memory devices of a guest have the names that a list of objects gives them. -/
theorem labelled_build (p : Parameters) (hostMib : UInt64) :
    G.build.Holds (build p t hostMib) fun plan => plan.Labelled p := by
  refine G.bind_attempt fun sizeMib _ => ?_
  refine G.build.bind (id_baseMemory hK p sizeMib) fun (backend, legacy) => ?_
  refine G.build.bind (G.build.foldlM_forall₂ (I := Devices.list)
    (fun ds name => declared_addDevice hK p ds name) _ _) fun ds => ?_
  refine G.bind_attempt fun (maxmem, slots) _ => G.build.ret ?_
  rintro ⟨devices, hlist, hdevices⟩ hbackend
  refine ⟨hbackend, ?_⟩
  rwa [hlist]

end MemoryPlan

end GuestSpec
