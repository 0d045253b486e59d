import GuestSpec.Proofs.Compile.Names
import Mathlib

/-!
# Names that stay apart

Declared names differ from each other, and so do the names that the compilation makes up. What is
left is to compare the first with the second. In each space of names this one comparison says
whether the names of a document are pairwise different.
-/

namespace GuestSpec

open Alloc

section Lists

variable {α : Type} {A B L : List α}

theorem nodup_iff_of_perm (h : L.Perm (A ++ B)) (hA : A.Nodup) :
    L.Nodup ↔ B.Nodup ∧ ∀ a ∈ A, a ∉ B := by
  rw [h.nodup_iff, List.nodup_append']
  exact ⟨fun hboth => hboth.2, fun hboth => ⟨hA, hboth⟩⟩

end Lists

/-! ## Declared names -/

namespace Parameters

variable {p : Parameters}

theorem nodup_guestNames (h : p.declaredNames.Nodup) : p.guestNames.Nodup :=
  h.sublist ((by decide : guestLists.Sublist objectLists).flatMap p.objects)

theorem nodup_objects (h : p.declaredNames.Nodup) {list : String} (hlist : list ∈ objectLists) :
    (p.objects list).Nodup :=
  (List.nodup_flatMap.1 h).1 list hlist

theorem imageNames_eq :
    p.imageNames = ["images", "cdroms", "floppies"].flatMap p.objects := by
  simp [imageNames, Storage.images, Function.comp_def]

theorem nodup_imageNames (h : p.declaredNames.Nodup) : p.imageNames.Nodup := by
  rw [imageNames_eq]
  exact h.sublist
    ((by decide : ["images", "cdroms", "floppies"].Sublist objectLists).flatMap p.objects)

/-- No balloon has an id besides its name. -/
def PlainBalloons (p : Parameters) : Prop :=
  ∀ name ∈ p.objects "balloon", (p.scopedTo name).get? "balloon_dev_devid" = none

instance (p : Parameters) : Decidable p.PlainBalloons :=
  inferInstanceAs (Decidable (∀ name ∈ p.objects "balloon",
    (p.scopedTo name).get? "balloon_dev_devid" = none))

theorem map_balloonId (h : p.PlainBalloons) :
    (p.objects "balloon").map p.balloonId = p.objects "balloon" := by
  refine (List.map_congr_left fun name hname => ?_).trans (List.map_id' _)
  rw [balloonId, getD, h name hname]
  rfl

end Parameters

/-! ## Documents -/

def guestMarks : List String := memoryMarks ++ unnamedMarks ++ BusName.controllerMarks ++ ["usb0"]

def objectMarks : List String := ["sec_", "rng_", "tpm_", "mem-"]

theorem prefixFree_guestMarks : PrefixFree guestMarks := by decide

theorem prefixFree_objectMarks : PrefixFree objectMarks := by decide

namespace InstanceSpec

variable {p : Parameters} {s : InstanceSpec}

theorem ownControllers_of_usbs (husbs : p.objects "usbs" ≠ []) :
    s.ownControllers p = s.controllers.filter fun d => !d.kind.isUsb := by
  simp [ownControllers, List.isEmpty_eq_false_iff.2 husbs]

theorem ownControllers_of_no_usbs (husbs : p.objects "usbs" = []) :
    s.ownControllers p = s.controllers := by
  simp [ownControllers, husbs]

/-- The names of which the ids of memory backends are made. -/
def backendNames (p : Parameters) (s : InstanceSpec) : List String :=
  s.memory.backend.toList.map (fun _ => "machine_mem") ++ p.objects "mem_devs"

/-- The ids of objects and memory backends that are made up, by their beginnings. Some images have
a secret. -/
def objectFamilies (p : Parameters) (s : InstanceSpec) (images : List String) :
    List (String × List String) :=
  [("sec_", images), ("rng_", p.objects "virtio_rngs"), ("tpm_", p.objects "tpms"),
    ("mem-", s.backendNames p)]

theorem nodup_backendNames (hnames : p.declaredNames.Nodup) :
    (s.backendNames p).Nodup ↔
      (s.memory.backend.isSome = true → "machine_mem" ∉ p.objects "mem_devs") := by
  have hdevs : (p.objects "mem_devs").Nodup := Parameters.nodup_objects hnames (by decide)
  unfold backendNames
  cases s.memory.backend with
  | none => simpa using hdevs
  | some b => simpa using fun _ => hdevs

theorem forall₂_namedAfter {images : List String} {disks : List Disk}
    (h : List.Forall₂ Disk.Named images disks) :
    List.Forall₂ StorageBackend.NamedAfter images (disks.map Disk.backend) := by
  rw [List.forall₂_map_right_iff]
  exact h.imp fun _ _ hd => hd.backend

theorem mem_blockNames {image : String} {d : Disk} {f : Form} (hd : Disk.Named image d)
    (hmark : f.mark ∈ blockMarks) (h : f.text ∈ d.backend.blockNames) : f.rest = d.name := by
  obtain ⟨forms, hsub, htext⟩ := hd.backend.forms
  rw [htext, List.mem_map] at h
  obtain ⟨g, hg, heq⟩ := h
  have hform := mark_of_mem_blockForms (hsub.subset hg)
  rw [← prefixFree_blockMarks.text_inj hform.1 hmark heq, hform.2, hd.name]

namespace Labelled

variable (h : s.Labelled p)

include h

/-! ### Devices and controllers -/

theorem perm_devices (hplain : p.PlainBalloons) :
    (s.devices.map DeviceNode.id).Perm
      ((s.devices.filter fun d => d.props.isUnnamed).map DeviceNode.id ++
        (p.objects "serials" ++ p.objects "virtio_rngs" ++ p.objects "tpms" ++
          p.objects "vsocks" ++ p.objects "balloon" ++ p.objects "inputs" ++
          p.objects "usb_devices")) := by
  have hsplit := (List.filter_append_perm (fun d => d.props.isUnnamed) s.devices).symm
  have hids := hsplit.map DeviceNode.id
  rw [List.map_append, h.named, Parameters.deviceIds, Parameters.map_balloonId hplain] at hids
  exact hids

theorem perm_controllers :
    (s.controllers.map Controller.id).Perm
      (p.objects "usbs" ++ (s.ownControllers p).map Controller.id) := by
  by_cases husbs : p.objects "usbs" = []
  · rw [ownControllers_of_no_usbs husbs, husbs, List.nil_append]
  · have hchosen := h.usb.resolve_right fun hnone => husbs hnone.1
    rw [ownControllers_of_usbs husbs, ← hchosen, ← List.map_append]
    exact (List.filter_append_perm (fun d => d.kind.isUsb) s.controllers).symm.map _

theorem madeUp_controllers :
    MadeUp (BusName.controllerMarks ++ ["usb0"]) ((s.ownControllers p).map Controller.id) := by
  have hothers := h.controllers.mono (List.subset_append_left _ ["usb0"])
  by_cases husbs : p.objects "usbs" = []
  · have hsplit := ((List.filter_append_perm (fun d => d.kind.isUsb) s.controllers).symm.map
      Controller.id).trans (.of_eq List.map_append)
    rw [ownControllers_of_no_usbs husbs]
    obtain hnone | ⟨-, hdefault⟩ := h.usb
    · rw [hnone, husbs, List.nil_append] at hsplit
      exact hothers.perm hsplit
    · have husb : MadeUp ["usb0"] ["usb0"] :=
        MadeUp.singleton (f := ⟨"usb0", ""⟩) List.mem_cons_self
      rw [hdefault] at hsplit
      exact (h.controllers.append husb (by decide)).perm (hsplit.trans List.perm_append_comm)
  · rwa [ownControllers_of_usbs husbs]

theorem perm_guestIds (hplain : p.PlainBalloons) :
    s.guestIds.Perm (p.guestNames ++ s.ownGuestIds p) := by
  have hdisks : s.storage.map (fun d => d.device.id) = p.imageNames := by
    rw [map_eq_of_forall₂ (h.disks.imp fun _ _ hd => hd.id), List.map_id']
  have hnics : s.network.map (fun n => n.device.id) = p.objects "nics" := by
    rw [map_eq_of_forall₂ h.nics, List.map_id']
  have hguest : s.guestIds = p.imageNames ++ p.objects "nics" ++
      s.memory.devices.map (fun d => d.device.id) ++ s.devices.map DeviceNode.id ++
      s.controllers.map Controller.id := by
    rw [← hdisks, ← hnics]
    simp [guestIds, allDevices, Function.comp_def]
  refine List.perm_iff_count.2 fun x => ?_
  have hdevices := (h.perm_devices hplain).count_eq x
  have hcontrollers := h.perm_controllers.count_eq x
  simp only [List.count_append] at hdevices hcontrollers
  simp only [hguest, Parameters.guestNames, guestLists, ownGuestIds, Parameters.imageNames_eq,
    List.flatMap_cons, List.flatMap_nil, List.count_append, List.count_nil]
  omega

theorem madeUp_guestIds (hnames : p.declaredNames.Nodup) :
    MadeUp guestMarks (s.ownGuestIds p) := by
  have hmemory : MadeUp memoryMarks (s.memory.devices.map fun d => d.device.id) :=
    .of_forall₂ (h.memory.imp fun _ _ hd => hd.device)
      (Parameters.nodup_objects hnames (by decide))
  exact (hmemory.append h.unnamed (by decide)).append h.madeUp_controllers (by decide)

theorem nodup_guestIds (hnames : p.declaredNames.Nodup) (hplain : p.PlainBalloons) :
    s.guestIds.Nodup ↔ ∀ name ∈ p.guestNames, name ∉ s.ownGuestIds p := by
  have hown := (h.madeUp_guestIds hnames).nodup prefixFree_guestMarks
  rw [nodup_iff_of_perm (h.perm_guestIds hplain) (Parameters.nodup_guestNames hnames)]
  exact and_iff_right hown

/-! ### Objects and memory backends -/

theorem perm_objectIds : s.objectIds.Perm (p.objects "throttle_groups" ++ s.ownObjectIds) := by
  have hsplit := (List.filter_append_perm (fun o => o.kind.isThrottleGroup) s.objects).symm
  have hids := hsplit.map ObjectSpec.id
  rw [List.map_append, h.groups] at hids
  rw [objectIds, ownObjectIds, ← List.append_assoc, ← List.append_assoc]
  exact (hids.append_right _).append_right _

theorem ownObjectIds_eq : ∃ images : List String, images.Sublist p.imageNames ∧
    s.ownObjectIds = (formsOfAll (s.objectFamilies p images)).map Form.text := by
  obtain ⟨images, hsub, hobjects⟩ := h.objects
  have hmemory : s.memory.devices.map (fun d => d.backend.id) =
      (formsOf "mem-" (p.objects "mem_devs")).map Form.text := by
    rw [map_eq_of_forall₂ (h.memory.imp fun _ _ hd => hd.backend), formsOf, List.map_map]
    rfl
  have hmachine : s.memory.backend.toList.map MemoryBackend.id =
      (formsOf "mem-" (s.memory.backend.toList.map fun _ => "machine_mem")).map Form.text := by
    rw [formsOf, List.map_map, List.map_map]
    exact List.map_congr_left fun b hb => h.machine b (Option.mem_toList.1 hb)
  refine ⟨images, hsub, ?_⟩
  rw [ownObjectIds, hobjects, hmemory, hmachine]
  simp [formsOfAll, objectFamilies, backendNames, formsOf]

/-- Made up ids of objects differ, but for a memory device that has the name of the machine. -/
theorem nodup_ownObjectIds (hnames : p.declaredNames.Nodup) :
    s.ownObjectIds.Nodup ↔
      (s.memory.backend.isSome = true → "machine_mem" ∉ p.objects "mem_devs") := by
  obtain ⟨images, hsub, hids⟩ := h.ownObjectIds_eq
  have himages := (Parameters.nodup_imageNames hnames).sublist hsub
  have hrngs : (p.objects "virtio_rngs").Nodup := Parameters.nodup_objects hnames (by decide)
  have htpms : (p.objects "tpms").Nodup := Parameters.nodup_objects hnames (by decide)
  calc s.ownObjectIds.Nodup
      ↔ ((formsOfAll (s.objectFamilies p images)).map Form.text).Nodup := by rw [hids]
    _ ↔ (formsOfAll (s.objectFamilies p images)).Nodup :=
        prefixFree_objectMarks.nodup_text_iff fun f hf => mark_of_mem_formsOfAll hf
    _ ↔ ∀ family ∈ s.objectFamilies p images, family.2.Nodup :=
        nodup_formsOfAll (by decide : objectMarks.Nodup)
    _ ↔ (s.backendNames p).Nodup := by simp [objectFamilies, himages, hrngs, htpms]
    _ ↔ _ := nodup_backendNames hnames

theorem nodup_objectIds (hnames : p.declaredNames.Nodup) :
    s.objectIds.Nodup ↔
      (∀ name ∈ p.objects "throttle_groups", name ∉ s.ownObjectIds) ∧
        (s.memory.backend.isSome = true → "machine_mem" ∉ p.objects "mem_devs") := by
  have hgroups : (p.objects "throttle_groups").Nodup :=
    Parameters.nodup_objects hnames (by decide)
  rw [nodup_iff_of_perm h.perm_objectIds hgroups, h.nodup_ownObjectIds hnames, and_comm]

/-! ### Block nodes and drives -/

theorem nodup_storageNames (hnames : p.declaredNames.Nodup) : s.storageNames.Nodup := by
  have hnodup := StorageBackend.nodup_blockNames (forall₂_namedAfter h.disks)
    (Parameters.nodup_imageNames hnames)
  rwa [List.flatMap_map] at hnodup

theorem file_mem_storageNames {name : String} : "file_" ++ name ∈ s.storageNames ↔
    ∃ d ∈ s.storage, d.backend.isLayered = true ∧ d.name = name := by
  constructor
  · intro hmem
    obtain ⟨d, hd, hnode⟩ := List.mem_flatMap.1 hmem
    obtain ⟨image, -, hnamed⟩ := exists_of_forall₂ h.disks d hd
    have hname : name = d.name :=
      mem_blockNames (f := ⟨"file_", name⟩) hnamed (by simp [blockMarks]) hnode
    subst hname
    rw [hnamed.name] at hnode
    exact ⟨d, hd, hnamed.backend.file.1 hnode, rfl⟩
  · rintro ⟨d, hd, hlayered, rfl⟩
    obtain ⟨image, -, hnamed⟩ := exists_of_forall₂ h.disks d hd
    rw [hnamed.name]
    exact List.mem_flatMap.2 ⟨d, hd, hnamed.backend.file.2 hlayered⟩

theorem ovmf_notMem_storageNames (rest : String) : "ovmf_" ++ rest ∉ s.storageNames := by
  intro hmem
  obtain ⟨forms, hsub, htext⟩ := StorageBackend.exists_blockForms (forall₂_namedAfter h.disks)
  rw [List.flatMap_map] at htext
  rw [storageNames, htext, List.mem_map] at hmem
  obtain ⟨f, hf, heq⟩ := hmem
  obtain ⟨image, -, hf⟩ := List.mem_flatMap.1 (hsub.subset hf)
  have hmarks : PrefixFree ("ovmf_" :: blockMarks) := by decide
  have hform : f = ⟨"ovmf_", rest⟩ := hmarks.text_inj
    (List.mem_cons_of_mem _ (mark_of_mem_blockForms hf).1) List.mem_cons_self heq
  have hmark := (mark_of_mem_blockForms hf).1
  rw [hform] at hmark
  exact absurd hmark (by decide : "ovmf_" ∉ blockMarks)

theorem nodup_flashNames : s.flashNames.Nodup := by
  obtain hnone | ⟨layered, -, hflash⟩ := h.flash
  · rw [flashNames, hnone]
    exact .nil
  · rw [flashNames, hflash]
    cases layered <;> decide

theorem mem_flashNames {a : String} (ha : a ∈ s.flashNames) : (∃ rest, a = "ovmf_" ++ rest) ∨
    ∃ name ∈ ["ovmf_code", "ovmf_vars"], a = "file_" ++ name ∧
      ∃ i ∈ s.firmware.flash, i.backend.isLayered = true := by
  obtain hnone | ⟨layered, hkinds, hflash⟩ := h.flash
  · rw [flashNames, hnone] at ha
    exact nomatch ha
  have hkind : layered ∈ s.firmware.flash.map fun i => i.backend.isLayered := by
    rw [hkinds]
    exact List.mem_cons_self
  obtain ⟨i, hi, rfl⟩ := List.mem_map.1 hkind
  rw [flashNames, hflash] at ha
  split at ha
  case isTrue hlayered =>
    simp only [List.mem_cons, List.not_mem_nil, or_false] at ha
    obtain rfl | rfl | rfl | rfl := ha
    · exact .inr ⟨"ovmf_code", by simp, rfl, i, hi, hlayered⟩
    · exact .inl ⟨"code", rfl⟩
    · exact .inr ⟨"ovmf_vars", by simp, rfl, i, hi, hlayered⟩
    · exact .inl ⟨"vars", rfl⟩
  case isFalse =>
    simp only [List.mem_cons, List.not_mem_nil, or_false] at ha
    obtain rfl | rfl := ha
    · exact .inl ⟨"code", rfl⟩
    · exact .inl ⟨"vars", rfl⟩

theorem file_mem_flashNames {name : String} (hname : name ∈ ["ovmf_code", "ovmf_vars"])
    {i : FlashImage} (hi : i ∈ s.firmware.flash) (hlayered : i.backend.isLayered = true) :
    "file_" ++ name ∈ s.flashNames := by
  obtain hnone | ⟨layered, hkinds, hflash⟩ := h.flash
  · rw [hnone] at hi
    exact nomatch hi
  have hkind : i.backend.isLayered ∈ s.firmware.flash.map fun i => i.backend.isLayered :=
    List.mem_map_of_mem hi
  obtain rfl : layered = true := by simpa [hkinds, hlayered] using hkind
  rw [flashNames, hflash]
  simp only [List.mem_cons, List.not_mem_nil, or_false] at hname
  obtain rfl | rfl := hname <;> decide

/-- Only the nodes that reach the data can clash: those of an image that is called like flash. -/
theorem nodup_blockNames (hnames : p.declaredNames.Nodup) : s.blockNames.Nodup ↔
    ∀ d ∈ s.storage, d.backend.isLayered = true →
      ∀ i ∈ s.firmware.flash, i.backend.isLayered = true →
        d.name ∉ ["ovmf_code", "ovmf_vars"] := by
  rw [blockNames, nodup_iff_of_perm (.refl (s.storageNames ++ s.flashNames))
    (h.nodup_storageNames hnames)]
  constructor
  · rintro ⟨-, hne⟩ d hd hlayered i hi hflash hname
    have hnode := h.file_mem_storageNames.2 ⟨d, hd, hlayered, rfl⟩
    exact hne _ hnode (h.file_mem_flashNames hname hi hflash)
  · refine fun hapart => ⟨h.nodup_flashNames, fun a ha hflash => ?_⟩
    obtain ⟨rest, rfl⟩ | ⟨name, hname, rfl, i, hi, hlayered⟩ := h.mem_flashNames hflash
    · exact h.ovmf_notMem_storageNames rest ha
    · obtain ⟨d, hd, hchain, rfl⟩ := h.file_mem_storageNames.1 ha
      exact hapart d hd hchain i hi hlayered hname

end Labelled

/-! ## Results -/

/-- What keeps the names of a document pairwise different: devices and controllers, block nodes and
drives, objects and memory backends. Made up ids begin in a few fixed ways. -/
structure NamedApart (p : Parameters) (s : InstanceSpec) : Prop where
  guest : s.guestIds.Nodup ↔ ∀ name ∈ p.guestNames, name ∉ s.ownGuestIds p
  blocks : s.blockNames.Nodup ↔ ∀ d ∈ s.storage, d.backend.isLayered = true →
    ∀ i ∈ s.firmware.flash, i.backend.isLayered = true → d.name ∉ ["ovmf_code", "ovmf_vars"]
  objects : s.objectIds.Nodup ↔
    (∀ name ∈ p.objects "throttle_groups", name ∉ s.ownObjectIds) ∧
      (s.memory.backend.isSome = true → "machine_mem" ∉ p.objects "mem_devs")
  guestMarked : ∀ id ∈ s.ownGuestIds p, ∃ f : Form, f.mark ∈ guestMarks ∧ id = f.text
  objectMarked : ∀ id ∈ s.ownObjectIds, ∃ f : Form, f.mark ∈ objectMarks ∧ id = f.text

theorem Labelled.namedApart (h : s.Labelled p) (hnames : p.declaredNames.Nodup)
    (hplain : p.PlainBalloons) : s.NamedApart p where
  guest := h.nodup_guestIds hnames hplain
  blocks := h.nodup_blockNames hnames
  objects := h.nodup_objectIds hnames
  guestMarked := (h.madeUp_guestIds hnames).marked
  objectMarked := by
    obtain ⟨images, -, hids⟩ := h.ownObjectIds_eq
    rw [hids]
    refine List.forall_mem_map.2 fun f hf => ⟨f, mark_of_mem_formsOfAll hf, rfl⟩

end InstanceSpec

/-- When the names in the lists of objects are pairwise different, and no balloon has an id besides
its name, the names of a document are pairwise different exactly as long as no declared name is a
made up one of the same space. -/
theorem namedApart_compile {m : Type → Type} [Monad m] [LawfulMonad m] {H I : Type}
    [HostResources H] [Identifiers I] (o : Oracle m) (host : H) (vmName : String) (p : Parameters)
    (ids : I) (hnames : p.declaredNames.Nodup) (hplain : p.PlainBalloons) :
    SatisfiesM (fun r => ∀ spec, r.1 = .ok spec → spec.NamedApart p)
      (compile o host vmName p ids) := by
  have hfinds : Guarantee.satisfied.Finds o .any := fun _ => SatisfiesM.trivial
  have hready := ready_seating hfinds vmName p ⟨.start host, ids⟩
  rw [compile_eq]
  refine SatisfiesM.bind hready fun r hr => SatisfiesM.pure fun spec hspec => ?_
  cases hseated : r.1 with
  | error e =>
    rw [hseated] at hspec
    cases hspec
  | ok u =>
    rw [hseated] at hspec
    exact ((hr u hseated).labelled hspec).namedApart hnames hplain

/-- A guest with an image, a disc, a throttle group, a source of random numbers, a balloon and a
memory device beside the memory of the machine. -/
theorem namedApart_compile_balloon :
    let o : Oracle Id := ⟨fun _ => true, fun _ => true, fun _ => true, fun _ => true, none⟩
    let p : Parameters := .ofList [("images", "a"), ("cdroms", "cd"), ("throttle_groups", "g"),
      ("virtio_rngs", "r"), ("balloon", "b"), ("firmware", "uefi"), ("mem_devs", "m"),
      ("size_mem", "512"), ("vm_mem_backend", "memory-backend-ram")]
    p.declaredNames.Nodup ∧ p.PlainBalloons ∧
    ∃ spec, (compile o (default : Host) "vm" p IdSource.counting).run.1 = .ok spec ∧
      spec.guestIds = ["a", "cd", "dimm-m", "r", "b", "video0", "pcie-root-port-0",
        "pcie-root-port-1", "pcie-root-port-2"] ∧
      spec.blockNames = ["file_a", "drive_a", "file_ovmf_code", "ovmf_code", "file_ovmf_vars",
        "ovmf_vars"] ∧
      spec.objectIds = ["g", "rng_r", "mem-machine_mem", "mem-m"] ∧ spec.NamedApart p := by
  intro o p
  have hnames : p.declaredNames.Nodup := by decide +kernel
  have hplain : p.PlainBalloons := by decide +kernel
  have hparts : (compile o (default : Host) "vm" p IdSource.counting).run.1.toOption.map
      (fun spec => (spec.guestIds, spec.blockNames, spec.objectIds)) =
      some (["a", "cd", "dimm-m", "r", "b", "video0", "pcie-root-port-0", "pcie-root-port-1",
        "pcie-root-port-2"], ["file_a", "drive_a", "file_ovmf_code", "ovmf_code",
        "file_ovmf_vars", "ovmf_vars"], ["g", "rng_r", "mem-machine_mem", "mem-m"]) := by
    decide +kernel
  obtain ⟨spec, hok, hparts⟩ := exists_ok_of_map_toOption hparts
  obtain ⟨hguest, hrest⟩ := Prod.mk.inj hparts
  obtain ⟨hblocks, hobjects⟩ := Prod.mk.inj hrest
  have hall := SatisfiesM_Id_eq.1
    (namedApart_compile o (default : Host) "vm" p IdSource.counting hnames hplain)
  exact ⟨hnames, hplain, spec, hok, hguest, hblocks, hobjects, hall spec hok⟩

/-- An image that is called like the display, another that is called like flash, a throttle group
that is called like a source of random numbers, and a memory device that is called like the memory
of the machine: all declared names differ, and names clash in all three spaces. -/
theorem exists_clash_of_nodup_declaredNames :
    let o : Oracle Id := ⟨fun _ => true, fun _ => true, fun _ => true, fun _ => true, none⟩
    let p : Parameters := .ofList [("images", "video0 ovmf_code"), ("throttle_groups", "rng_r"),
      ("virtio_rngs", "r"), ("firmware", "uefi"), ("mem_devs", "machine_mem"),
      ("size_mem", "512"), ("vm_mem_backend", "memory-backend-ram")]
    p.declaredNames.Nodup ∧ p.PlainBalloons ∧
    ∃ spec, (compile o (default : Host) "vm" p IdSource.counting).run.1 = .ok spec ∧
      ¬ spec.guestIds.Nodup ∧ ¬ spec.blockNames.Nodup ∧ ¬ spec.objectIds.Nodup := by
  intro o p
  have hnames : p.declaredNames.Nodup := by decide +kernel
  have hplain : p.PlainBalloons := by decide +kernel
  have hparts : (compile o (default : Host) "vm" p IdSource.counting).run.1.toOption.map
      (fun spec => (spec.guestIds, spec.blockNames, spec.objectIds)) =
      some (["video0", "ovmf_code", "dimm-machine_mem", "r", "video0", "pcie-root-port-0",
        "pcie-root-port-1", "pcie-root-port-2"], ["file_video0", "drive_video0", "file_ovmf_code",
        "drive_ovmf_code", "file_ovmf_code", "ovmf_code", "file_ovmf_vars", "ovmf_vars"],
        ["rng_r", "rng_r", "mem-machine_mem", "mem-machine_mem"]) := by decide +kernel
  obtain ⟨spec, hok, hparts⟩ := exists_ok_of_map_toOption hparts
  obtain ⟨hguest, hrest⟩ := Prod.mk.inj hparts
  obtain ⟨hblocks, hobjects⟩ := Prod.mk.inj hrest
  refine ⟨hnames, hplain, spec, hok, ?_, ?_, ?_⟩
  · rw [hguest]
    decide
  · rw [hblocks]
    decide
  · rw [hobjects]
    decide

end GuestSpec
