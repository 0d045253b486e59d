import GuestSpec.Proofs.Device.Parts
import GuestSpec.Proofs.Naming.Forms
import Mathlib

/-!
# Names of devices

A device that a list of objects names has that name as its id, and it asks for the boot order and
for its place what the parameters of this name say. The watchdog, sound cards and the display have
no names of their own: their ids are made up.
-/

namespace GuestSpec

open Guarantee

/-! ## Devices with names -/

def DeviceNode.bootindex? (d : DeviceNode) : Option UInt32 :=
  match d.props with
  | .disk props => props.bootindex
  | .nic props => props.bootindex
  | _ => none

/-- A device that may have an index but has none yet. -/
structure DeviceNode.Bootable (d : DeviceNode) : Prop where
  kind : (∃ props, d.props = .disk props) ∨ ∃ props, d.props = .nic props
  none : d.bootindex? = none

/-- A device without an index, and without further properties that could hold one. -/
structure DeviceNode.Indexless (d : DeviceNode) : Prop where
  none : d.bootindex? = none
  extra : d.extra = .empty

structure UnplacedDevice.Declared (p : Parameters) (name : String) (d : UnplacedDevice) : Prop where
  id : d.node.id = name
  bootable : d.node.Bootable
  request : BootRequest.ofParameters (p.scopedTo name) = .ok d.bootRequest

theorem boot_of_ofParameters {bus : BusRequest} {p : Parameters} {request : DeviceRequest}
    (h : DeviceRequest.ofParameters bus p = .ok request) :
    BootRequest.ofParameters p = .ok request.boot := by
  unfold DeviceRequest.ofParameters at h
  cases hhint : PlacementHint.ofParameters p with
  | error e =>
    rw [hhint] at h
    cases h
  | ok hint =>
    rw [hhint] at h
    cases hboot : BootRequest.ofParameters p with
    | error e =>
      rw [hboot] at h
      cases h
    | ok boot =>
      rw [hboot] at h
      rw [← Except.ok.inj h]

def Parameters.balloonId (p : Parameters) (name : String) : String :=
  (p.scopedTo name).getD "balloon_dev_devid" name

/-- The ids of all devices that lists name, apart from disks, network cards and memory. -/
def Parameters.deviceIds (p : Parameters) : List String :=
  p.objects "serials" ++ p.objects "virtio_rngs" ++ p.objects "tpms" ++ p.objects "vsocks" ++
    (p.objects "balloon").map p.balloonId ++ p.objects "inputs" ++ p.objects "usb_devices"

/-! ## Devices without names -/

def DeviceProps.isUnnamed : DeviceProps → Bool
  | .watchdog _ | .sound _ | .display => true
  | _ => false

def soundMark (model : String) : String :=
  String.ofList (model.toList.map fun c => if c = '-' then '_' else c) ++ "_"

def soundMarks : List String := ["ac97_", "es1370_", "intel_hda_"]

def watchdogForm : Form := ⟨"watchdog0", ""⟩

def displayForm : Form := ⟨"video0", ""⟩

def unnamedMarks : List String := watchdogForm.mark :: displayForm.mark :: soundMarks

def soundForms (cards : List (String × Nat)) : List Form :=
  cards.map fun card => ⟨soundMark card.1, toString card.2⟩

theorem nodup_soundForms (models : List String) : (soundForms models.zipIdx).Nodup := by
  refine List.Nodup.of_map Form.rest ?_
  have hrests : (soundForms models.zipIdx).map Form.rest =
      (List.range' 0 models.length).map toString := by
    rw [soundForms, List.map_map, ← List.zipIdx_map_snd, List.map_map]
    rfl
  rw [hrests]
  exact (List.nodup_range' (h := Nat.one_pos)).map fun _ _ h => Nat.repr_injective h

theorem soundMark_mem_of_soundModel {model : String} {r : String × Option String}
    (h : DevicePlan.soundModel model = .ok r) : soundMark model ∈ soundMarks := by
  unfold DevicePlan.soundModel at h
  split at h
  · decide
  · decide
  · decide
  · cases h

/-- The ids of all devices without names. There is at most one watchdog and one display. -/
def unnamedForms (watchdog : List Form) (models : List String) (display : List Form) : List Form :=
  watchdog ++ soundForms models.zipIdx ++ display

section Unnamed

theorem at_most_one {f : Form} {fs : List Form} (h : fs = [] ∨ fs = [f]) :
    fs.Nodup ∧ ∀ g ∈ fs, g = f := by
  obtain rfl | rfl := h <;> simp

variable {watchdog display : List Form} {models : List String}
  (hwatchdog : watchdog = [] ∨ watchdog = [watchdogForm])
  (hdisplay : display = [] ∨ display = [displayForm])
  (hsounds : ∀ f ∈ soundForms models.zipIdx, f.mark ∈ soundMarks)

include hwatchdog hdisplay hsounds

theorem mark_of_mem_unnamedForms :
    ∀ f ∈ unnamedForms watchdog models display, f.mark ∈ unnamedMarks := by
  intro f hf
  simp only [unnamedForms, List.mem_append] at hf
  obtain (hf | hf) | hf := hf
  · rw [(at_most_one hwatchdog).2 f hf]
    exact List.mem_cons_self
  · exact List.mem_cons_of_mem _ (List.mem_cons_of_mem _ (hsounds f hf))
  · rw [(at_most_one hdisplay).2 f hf]
    exact List.mem_cons_of_mem _ List.mem_cons_self

theorem nodup_unnamedForms : (unnamedForms watchdog models display).Nodup := by
  have hmarks : ∀ mark ∈ soundMarks, watchdogForm.mark ≠ mark ∧ mark ≠ displayForm.mark := by
    decide
  have hnodup : (watchdog ++ soundForms models.zipIdx).Nodup := by
    refine nodup_append_of_mark (at_most_one hwatchdog).1 (nodup_soundForms models) ?_
    intro f hf g hg
    rw [(at_most_one hwatchdog).2 f hf]
    exact (hmarks _ (hsounds g hg)).1
  refine nodup_append_of_mark hnodup (at_most_one hdisplay).1 fun f hf g hg => ?_
  rw [(at_most_one hdisplay).2 g hg]
  obtain hf | hf := List.mem_append.1 hf
  · rw [(at_most_one hwatchdog).2 f hf]
    decide
  · exact (hmarks _ (hsounds f hf)).2

end Unnamed

/-! ## Parts -/

def ObjectKind.isThrottleGroup : ObjectKind → Bool
  | throttleGroup _ => true
  | _ => false

/-- The ids in some parts: those of devices with names, those of devices without, and those of
objects, none of which is a throttle group. The devices have no place in the boot order. -/
structure DeviceParts.Labelled (names : List String) (unnamed objects : List Form)
    (parts : DeviceParts) : Prop where
  named : (parts.devices.filter fun d => !d.node.props.isUnnamed).map (·.node.id) = names
  unnamed : (parts.devices.filter fun d => d.node.props.isUnnamed).map (·.node.id) =
    unnamed.map Form.text
  objects : parts.objects.map ObjectSpec.id = objects.map Form.text
  kinds : ∀ o ∈ parts.objects, o.kind.isThrottleGroup = false
  indexless : ∀ d ∈ parts.devices, d.node.Indexless

namespace DeviceParts.Labelled

variable {a b : DeviceParts} {names names' : List String}
  {unnamed unnamed' objects objects' : List Form}

theorem empty : DeviceParts.empty.Labelled [] [] [] where
  named := rfl
  unnamed := rfl
  objects := rfl
  kinds _ h := nomatch h
  indexless _ h := nomatch h

theorem append (ha : a.Labelled names unnamed objects) (hb : b.Labelled names' unnamed' objects') :
    (a.append b).Labelled (names ++ names') (unnamed ++ unnamed') (objects ++ objects') where
  named := by
    rw [DeviceParts.append, List.filter_append, List.map_append, ha.named, hb.named]
  unnamed := by
    rw [DeviceParts.append, List.filter_append, List.map_append, List.map_append, ha.unnamed,
      hb.unnamed]
  objects := by
    rw [DeviceParts.append, List.map_append, List.map_append, ha.objects, hb.objects]
  kinds o ho := (List.mem_append.1 ho).elim (ha.kinds o) (hb.kinds o)
  indexless d hd := (List.mem_append.1 hd).elim (ha.indexless d) (hb.indexless d)

theorem join_named {id : String → String} {names : List String} {l : List DeviceParts}
    (h : List.Forall₂ (fun name parts => parts.Labelled [id name] [] []) names l) :
    (DeviceParts.join l).Labelled (names.map id) [] [] := by
  induction h with
  | nil => exact empty
  | cons hx _ ih => exact hx.append ih

theorem join_backed {mark : String} {names : List String} {l : List DeviceParts}
    (h : List.Forall₂ (fun name parts => parts.Labelled [name] [] [⟨mark, name⟩]) names l) :
    (DeviceParts.join l).Labelled names [] (formsOf mark names) := by
  induction h with
  | nil => exact empty
  | cons hx _ ih => exact hx.append ih

theorem join_unnamed {α : Type} {form : α → Form} {xs : List α} {l : List DeviceParts}
    (h : List.Forall₂ (fun x parts => parts.Labelled [] [form x] []) xs l) :
    (DeviceParts.join l).Labelled [] (xs.map form) [] := by
  induction h with
  | nil => exact empty
  | cons hx _ ih => exact hx.append ih

theorem ofNamed {d : UnplacedDevice} (h : d.node.props.isUnnamed = false)
    (hd : d.node.Indexless) {os : List ObjectSpec}
    {chardevs : List Chardev} (hos : os.map ObjectSpec.id = objects.map Form.text)
    (hkinds : ∀ o ∈ os, o.kind.isThrottleGroup = false) :
    DeviceParts.Labelled [d.node.id] [] objects ⟨[d], os, chardevs⟩ where
  named := by simp [h]
  unnamed := by simp [h]
  objects := hos
  kinds := hkinds
  indexless e he := List.mem_singleton.1 he ▸ hd

theorem ofUnnamed {d : UnplacedDevice} (h : d.node.props.isUnnamed = true)
    (hd : d.node.Indexless) {f : Form} (hid : d.node.id = f.text) :
    (DeviceParts.ofDevice d).Labelled [] [f] [] where
  named := by simp [DeviceParts.ofDevice, h]
  unnamed := by simp [DeviceParts.ofDevice, h, hid]
  objects := rfl
  kinds := nofun
  indexless e he := List.mem_singleton.1 he ▸ hd

end DeviceParts.Labelled

structure DevicePlan.Labelled (p : Parameters) (plan : DevicePlan) : Prop where
  usbControllers : plan.usbControllers.map UsbControllerRequest.id = p.objects "usbs"
  nics : List.Forall₂ (fun name n => n.name = name ∧ n.device.Declared p name) (p.objects "nics")
    plan.nics
  parts : ∃ unnamed : List Form, unnamed.Nodup ∧ (∀ f ∈ unnamed, f.mark ∈ unnamedMarks) ∧
    DeviceParts.Labelled p.deviceIds unnamed
      (formsOf "rng_" (p.objects "virtio_rngs") ++ formsOf "tpm_" (p.objects "tpms"))
      ⟨plan.devices, plan.objects, plan.chardevs⟩

/-! ## Families -/

theorem Guarantee.mapM_forall₂ {α β : Type} {m : Type → Type} [Monad m] [LawfulMonad m]
    (G : Guarantee m) {f : α → m β} {R : α → β → Prop} (h : ∀ a, G.Holds (f a) (R a))
    (xs : List α) : G.Holds (xs.mapM f) (List.Forall₂ R xs) := by
  induction xs with
  | nil =>
    rw [List.mapM_nil]
    exact G.ret .nil
  | cons x xs ih =>
    rw [List.mapM_cons]
    exact G.bind (h x) fun y => G.bind ih fun ys => G.ret fun hys hy => .cons hy hys

theorem map_eq_of_forall₂ {α β γ : Type} {f : α → γ} {g : β → γ} {xs : List α} {ys : List β}
    (h : List.Forall₂ (fun x y => g y = f x) xs ys) : ys.map g = xs.map f := by
  induction h with
  | nil => rfl
  | cons hx _ ih => rw [List.map_cons, List.map_cons, hx, ih]

theorem forall₂_comp {α β γ : Type} {R : α → β → Prop} {S : β → γ → Prop} {T : α → γ → Prop}
    (hT : ∀ x y z, R x y → S y z → T x z) {xs : List α} {ys : List β} {zs : List γ}
    (h : List.Forall₂ R xs ys) (h' : List.Forall₂ S ys zs) : List.Forall₂ T xs zs := by
  induction h generalizing zs with
  | nil =>
    cases h'
    exact .nil
  | cons hxy _ ih =>
    cases h' with
    | cons hyz h' => exact .cons (hT _ _ _ hxy hyz) (ih h')

theorem exists_of_forall₂ {α β : Type} {R : α → β → Prop} {xs : List α} {ys : List β}
    (h : List.Forall₂ R xs ys) : ∀ y ∈ ys, ∃ x ∈ xs, R x y := by
  induction h with
  | nil => exact fun _ h => (nomatch h)
  | cons hxy _ ih =>
    refine List.forall_mem_cons.2 ⟨⟨_, List.mem_cons_self, hxy⟩, fun y hy => ?_⟩
    obtain ⟨x, hx, hxy⟩ := ih y hy
    exact ⟨x, List.mem_cons_of_mem _ hx, hxy⟩

theorem ObjectKind.not_isThrottleGroup_of_isRng {kind : ObjectKind} (h : kind.isRng = true) :
    kind.isThrottleGroup = false := by
  cases kind <;> first | rfl | cases h

theorem ObjectKind.not_isThrottleGroup_of_isTpm {kind : ObjectKind} (h : kind.isTpm = true) :
    kind.isThrottleGroup = false := by
  cases kind <;> first | rfl | cases h

namespace DevicePlan

variable {m : Type → Type} [Monad m] [LawfulMonad m] {H I : Type} {G : Guarantee m} {t : Target m}
  {K : Findings} (hK : G.Finds t.oracle K)

include hK

theorem labelled_named {node : DeviceNode} (bus : BusRequest) (p : Parameters)
    (h : node.props.isUnnamed = false) (hnode : node.Indexless) :
    (G.compiling H I).Holds (do return .ofDevice (← device t node bus p)) fun parts : DeviceParts =>
      parts.Labelled [node.id] [] [] := by
  refine (G.compiling H I).bind (holds_device hK node bus p) fun d => (G.compiling H I).ret ?_
  rintro ⟨rfl, -⟩
  exact .ofNamed h hnode rfl nofun

theorem labelled_unnamed {node : DeviceNode} (bus : BusRequest) (p : Parameters)
    (h : node.props.isUnnamed = true) (hnode : node.Indexless) {f : Form} (hid : node.id = f.text) :
    (G.compiling H I).Holds (do return .ofDevice (← device t node bus p)) fun parts : DeviceParts =>
      parts.Labelled [] [f] [] := by
  refine (G.compiling H I).bind (holds_device hK node bus p) fun d => (G.compiling H I).ret ?_
  rintro ⟨rfl, -⟩
  exact .ofUnnamed h hnode hid

theorem labelled_serial [HostResources H] (vmName : String) (p : Parameters) (name : String) :
    (G.compiling H I).Holds (serial vmName p t name) fun parts => parts.Labelled [name] [] [] := by
  refine G.state.bind_attempt fun (bus, portName) _ => ?_
  refine (G.compiling H I).bind (holds_channel vmName name _) fun chardev => ?_
  refine (G.compiling H I).bind (holds_device hK _ bus _) fun d => (G.compiling H I).ret ?_
  rintro ⟨hnode, -⟩ -
  have hparts : DeviceParts.Labelled [d.node.id] [] [] ⟨[d], [], [chardev]⟩ :=
    .ofNamed (hnode ▸ rfl) (hnode ▸ ⟨rfl, rfl⟩) rfl nofun
  rwa [hnode] at hparts

theorem labelled_rng [HostResources H] (vmName : String) (p : Parameters) (name : String) :
    (G.compiling H I).Holds (rng vmName p t name) fun parts =>
      parts.Labelled [name] [] [⟨"rng_", name⟩] := by
  refine (G.compiling H I).bind (holds_rngBackend vmName name _) fun (kind, chardevs) => ?_
  refine (G.compiling H I).bind (compiling_lift (holds_requireObject hK _)) fun _ => ?_
  refine G.state.bind_parameters fun maxBytes _ => G.state.bind_parameters fun period _ => ?_
  refine (G.compiling H I).bind (holds_device hK _ _ _) fun d => (G.compiling H I).ret ?_
  rintro ⟨hnode, -⟩ - ⟨hrng, -⟩
  have hparts : DeviceParts.Labelled [d.node.id] [] [⟨"rng_", name⟩]
      ⟨[d], [⟨"rng_" ++ name, kind⟩], chardevs⟩ := by
    refine .ofNamed (hnode ▸ rfl) (hnode ▸ ⟨rfl, rfl⟩) rfl fun o ho => ?_
    obtain rfl := List.mem_singleton.1 ho
    exact ObjectKind.not_isThrottleGroup_of_isRng hrng
  rwa [hnode] at hparts

theorem labelled_tpm [HostResources H] (vmName : String) (p : Parameters) (name : String) :
    (G.compiling H I).Holds (tpm vmName p t name) fun parts =>
      parts.Labelled [name] [] [⟨"tpm_", name⟩] := by
  refine (G.compiling H I).bind (holds_tpmBackend vmName name _) fun (kind, chardevs) => ?_
  cases defaultTpm? t.family with
  | none => exact G.state.except_throw
  | some default =>
    refine (G.compiling H I).bind (holds_device hK _ _ _) fun d => (G.compiling H I).ret ?_
    rintro ⟨hnode, -⟩ ⟨htpm, -⟩
    have hparts : DeviceParts.Labelled [d.node.id] [] [⟨"tpm_", name⟩]
        ⟨[d], [⟨"tpm_" ++ name, kind⟩], chardevs⟩ := by
      refine .ofNamed (hnode ▸ rfl) (hnode ▸ ⟨rfl, rfl⟩) rfl fun o ho => ?_
      obtain rfl := List.mem_singleton.1 ho
      exact ObjectKind.not_isThrottleGroup_of_isTpm htpm
    rwa [hnode] at hparts

theorem labelled_vsock [HostResources H] (p : Parameters) (name : String) :
    (G.compiling H I).Holds (vsock p t name) fun parts => parts.Labelled [name] [] [] := by
  refine G.state.bind_parameters fun explicit _ => ?_
  split
  · exact G.state.except_throw
  · refine (G.compiling H I).bind (P := fun _ => True) ?_ fun cid => ?_
    · exact compiling_leasing fun _ => attempt_trivial
    · exact (G.compiling H I).mono (labelled_named hK _ _ rfl ⟨rfl, rfl⟩) fun _ h _ => h

theorem labelled_balloon (p : Parameters) (name : String) :
    (G.compiling H I).Holds (balloon p t name) fun parts =>
      parts.Labelled [p.balloonId name] [] [] := by
  refine G.state.bind_parameters fun deflate _ => G.state.bind_parameters fun reporting _ => ?_
  exact labelled_named hK _ _ rfl ⟨rfl, rfl⟩

theorem labelled_input (p : Parameters) (name : String) :
    (G.compiling H I).Holds (input p t name) fun parts => parts.Labelled [name] [] [] := by
  unfold input
  dsimp only
  split
  · exact G.state.bind_attempt fun (driver, bus) _ => labelled_named hK bus _ rfl ⟨rfl, rfl⟩
  · exact G.state.except_throw

theorem labelled_usbDevice (p : Parameters) (name : String) :
    (G.compiling H I).Holds (usbDevice p t name) fun parts => parts.Labelled [name] [] [] :=
  labelled_named hK _ _ rfl ⟨rfl, rfl⟩

theorem labelled_watchdog (p : Parameters) :
    (G.compiling H I).Holds (watchdog p t) fun parts =>
      ∃ forms, (forms = [] ∨ forms = [watchdogForm]) ∧ parts.Labelled [] forms [] := by
  refine G.state.bind_parameters fun enabled _ => ?_
  split
  · split
    · exact G.state.except_throw
    · refine G.state.bind_attempt fun bus _ => ?_
      refine (G.compiling H I).mono
        (labelled_unnamed hK bus p rfl ⟨rfl, rfl⟩ (f := watchdogForm) rfl) fun _ h => ?_
      exact ⟨_, .inr rfl, h⟩
  · exact (G.compiling H I).ret ⟨[], .inl rfl, .empty⟩

theorem labelled_display (p : Parameters) :
    (G.compiling H I).Holds (display p t) fun parts =>
      ∃ forms, (forms = [] ∨ forms = [displayForm]) ∧ parts.Labelled [] forms [] := by
  refine G.state.bind_attempt fun driver _ => ?_
  cases driver with
  | none => exact (G.compiling H I).ret ⟨[], .inl rfl, .empty⟩
  | some driver =>
    refine (G.compiling H I).mono
      (labelled_unnamed hK _ p rfl ⟨rfl, rfl⟩ (f := displayForm) rfl) fun _ h => ?_
    exact ⟨_, .inr rfl, h⟩

theorem labelled_soundcard (p : Parameters) (index : Nat) (model : String) :
    (G.compiling H I).Holds (soundcard p t index model) fun parts =>
      soundMark model ∈ soundMarks ∧
        parts.Labelled [] [⟨soundMark model, toString index⟩] [] := by
  refine G.state.bind_attempt fun (driver, codec) hmodel => ?_
  have hmark := soundMark_mem_of_soundModel hmodel
  cases codec with
  | none =>
    refine (G.compiling H I).mono (labelled_unnamed hK _ _ rfl ⟨rfl, rfl⟩ ?_) fun _ h => ⟨hmark, h⟩
    rfl
  | some codec =>
    refine (G.compiling H I).bind (compiling_lift (holds_requireDevice hK _)) fun _ => ?_
    refine (G.compiling H I).mono (labelled_unnamed hK _ _ rfl ⟨rfl, rfl⟩ ?_)
      fun _ h _ => ⟨hmark, h⟩
    rfl

theorem id_usbController (p : Parameters) (id : String) :
    G.build.Holds (usbController p t id) fun r => r.id = id := by
  unfold usbController
  dsimp only
  split
  · exact G.except_throw
  · refine G.build.bind (holds_requireDevice hK _) fun _ => ?_
    refine G.bind_parameters fun maxPorts _ => G.bind_parameters fun hint _ => ?_
    exact G.build.ret fun _ => rfl

theorem declared_nic [Identifiers I] (p : Parameters) (name : String) :
    (G.compiling H I).Holds (nic p t name) fun n => n.name = name ∧ n.device.Declared p name := by
  refine G.state.bind_attempt fun (driver, bus) _ => ?_
  refine (G.compiling H I).bind (compiling_lift (holds_requireDevice hK driver)) fun _ => ?_
  refine G.state.bind_parameters fun queues _ => G.state.bind_attempt fun backend _ => ?_
  dsimp only
  split
  all_goals
    first
    | refine (G.compiling H I).bind compiling_identifier fun mac => ?_
    | refine (G.compiling H I).bind (P := fun _ => True) ((G.compiling H I).ret trivial)
        fun mac => ?_
    refine G.state.bind_attempt fun vectors _ => G.state.bind_parameters fun extra _ => ?_
    refine G.state.bind_parameters fun request hrequest => (G.compiling H I).ret fun _ _ => ?_
    exact ⟨rfl, rfl, ⟨.inr ⟨_, rfl⟩, rfl⟩, boot_of_ofParameters hrequest⟩

/-! ## All devices -/

omit hK in
theorem labelled_parts (p : Parameters) (key : String) {F : String → String}
    {f : String → Compiling H I m DeviceParts}
    (hf : ∀ name, (G.compiling H I).Holds (f name) fun parts => parts.Labelled [F name] [] []) :
    (G.compiling H I).Holds (parts p key f) fun parts =>
      parts.Labelled ((p.objects key).map F) [] [] :=
  (G.compiling H I).bind ((G.compiling H I).mapM_forall₂ hf _)
    fun _ => (G.compiling H I).ret .join_named

omit hK in
theorem labelled_backed (p : Parameters) (key : String) {mark : String}
    {f : String → Compiling H I m DeviceParts}
    (hf : ∀ name, (G.compiling H I).Holds (f name) fun parts =>
      parts.Labelled [name] [] [⟨mark, name⟩]) :
    (G.compiling H I).Holds (parts p key f) fun parts =>
      parts.Labelled (p.objects key) [] (formsOf mark (p.objects key)) :=
  (G.compiling H I).bind ((G.compiling H I).mapM_forall₂ hf _)
    fun _ => (G.compiling H I).ret .join_backed

theorem labelled_soundcards (p : Parameters) :
    (G.compiling H I).Holds (soundcards p t) fun parts =>
      parts.Labelled [] (soundForms (p.objects "soundcards").zipIdx) [] ∧
        ∀ f ∈ soundForms (p.objects "soundcards").zipIdx, f.mark ∈ soundMarks := by
  refine (G.compiling H I).bind ((G.compiling H I).mapM_forall₂
    (fun card : String × Nat => labelled_soundcard hK p card.2 card.1) _) fun l => ?_
  refine (G.compiling H I).ret fun hl => ?_
  obtain ⟨hmarks, hparts⟩ := (List.forall₂_and_left _ _).1 hl
  exact ⟨.join_unnamed hparts, List.forall_mem_map.2 hmarks⟩

/-- The devices of a guest have the names that lists of objects give them, and the others have ids
that differ from each other. -/
theorem labelled_build [HostResources H] [Identifiers I] (vmName : String) (p : Parameters) :
    (G.compiling H I).Holds (build vmName p t) fun plan => plan.Labelled p := by
  refine (G.compiling H I).bind (compiling_lift (G.build.mapM_forall₂ (id_usbController hK p) _))
    fun usbControllers => ?_
  refine (G.compiling H I).bind ((G.compiling H I).mapM_forall₂ (declared_nic hK p) _)
    fun nics => ?_
  refine (G.compiling H I).bind (labelled_parts (F := id) p _ (labelled_serial hK vmName p))
    fun serials => ?_
  refine (G.compiling H I).bind (labelled_backed p _ (labelled_rng hK vmName p)) fun rngs => ?_
  refine (G.compiling H I).bind (labelled_backed p _ (labelled_tpm hK vmName p)) fun tpms => ?_
  refine (G.compiling H I).bind (labelled_parts (F := id) p _ (labelled_vsock hK p))
    fun vsocks => ?_
  refine (G.compiling H I).bind (labelled_parts p _ (labelled_balloon hK p)) fun balloons => ?_
  refine (G.compiling H I).bind (labelled_watchdog hK p) fun watchdog => ?_
  refine (G.compiling H I).bind (labelled_parts (F := id) p _ (labelled_input hK p))
    fun inputs => ?_
  refine (G.compiling H I).bind (labelled_soundcards hK p) fun sounds => ?_
  refine (G.compiling H I).bind (labelled_parts (F := id) p _ (labelled_usbDevice hK p))
    fun usbDevices => ?_
  refine (G.compiling H I).bind (labelled_display hK p) fun display => (G.compiling H I).ret ?_
  rintro ⟨displayForms, hdisplayForms, hdisplay⟩ husbDevices ⟨hsounds, hmarks⟩ hinputs
    ⟨watchdogForms, hwatchdogForms, hwatchdog⟩ hballoons hvsocks htpms hrngs hserials hnics husb
  have hall := hserials.append (hrngs.append (htpms.append (hvsocks.append (hballoons.append
    (hwatchdog.append (hinputs.append (hsounds.append (husbDevices.append
      (hdisplay.append .empty)))))))))
  have hparts : (DeviceParts.join [serials, rngs, tpms, vsocks, balloons, watchdog, inputs, sounds,
      usbDevices, display]).Labelled p.deviceIds
      (unnamedForms watchdogForms (p.objects "soundcards") displayForms)
      (formsOf "rng_" (p.objects "virtio_rngs") ++ formsOf "tpm_" (p.objects "tpms")) := by
    simpa [Parameters.deviceIds, unnamedForms, DeviceParts.join] using hall
  refine ⟨?_, hnics, _, ?_, ?_, hparts⟩
  · simpa using map_eq_of_forall₂ husb
  · exact nodup_unnamedForms hwatchdogForms hdisplayForms hmarks
  · exact mark_of_mem_unnamedForms hwatchdogForms hdisplayForms hmarks

end DevicePlan

end GuestSpec
