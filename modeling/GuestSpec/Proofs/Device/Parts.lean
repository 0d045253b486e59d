import GuestSpec.Device.Plan
import GuestSpec.Proofs.Oracle.Guarantee

/-!
# Planned devices

Every family of devices brings the objects and channels that its devices refer to, and each device
is of a model that the hypervisor has. What holds of the parts of one device holds of all parts
together, since more objects and channels take no reference away.
-/

namespace GuestSpec

open Guarantee

/-! ## What holds of devices -/

def ObjectKind.isRng : ObjectKind → Bool
  | rngRandom _ | rngBuiltin | rngEgd _ => true
  | _ => false

def ObjectKind.isTpm : ObjectKind → Bool
  | tpmEmulator _ | tpmPassthrough _ => true
  | _ => false

def ObjectKind.chardev? : ObjectKind → Option String
  | rngEgd chardev | tpmEmulator chardev => some chardev
  | _ => none

def ObjectSpec.Linked (chardevs : List Chardev) (o : ObjectSpec) : Prop :=
  ∀ chardev, o.kind.chardev? = some chardev → ∃ c ∈ chardevs, c.id = chardev

/-- The objects and channels that a device refers to are there, and of the right kind. -/
structure DeviceNode.Linked (objects : List ObjectSpec) (chardevs : List Chardev)
    (d : DeviceNode) : Prop where
  serial : ∀ chardev name, d.props = .serial chardev name → ∃ c ∈ chardevs, c.id = chardev
  rng : ∀ p, d.props = .rng p → ∃ o ∈ objects, o.id = p.rng ∧ o.kind.isRng = true
  tpm : ∀ tpmdev, d.props = .tpm tpmdev → ∃ o ∈ objects, o.id = tpmdev ∧ o.kind.isTpm = true

/-- The models that a device is made of are possible ones: its driver and, behind a sound card, its
codec. -/
structure DeviceNode.Known (K : Findings) (d : DeviceNode) : Prop where
  driver : K.allows (.hasDevice d.driver) true
  codec : ∀ codec, d.props = .sound (some codec) → K.allows (.hasDevice codec) true

/-- The type of an object is a possible one. Nobody asks for what is behind a trusted platform
module. -/
def ObjectSpec.Known (K : Findings) (o : ObjectSpec) : Prop :=
  o.kind.isTpm = false → K.allows (.hasObject o.kind.typeName) true

/-- What holds of the parts of planned devices when all answers are possible ones. -/
structure DeviceParts.Planned (K : Findings) (parts : DeviceParts) : Prop where
  linked : ∀ d ∈ parts.devices, d.node.Linked parts.objects parts.chardevs
  known : ∀ d ∈ parts.devices, d.node.Known K
  objects : ∀ o ∈ parts.objects, o.Linked parts.chardevs
  types : ∀ o ∈ parts.objects, o.Known K

structure UsbControllerRequest.Planned (K : Findings) (r : UsbControllerRequest) : Prop where
  known : K.allows (.hasDevice r.model) true
  host : (DevicePlan.usbPorts? r.model).isSome = true

structure UnplacedNic.Planned (K : Findings) (n : UnplacedNic) : Prop where
  netdev : ∃ p, n.device.node.props = .nic p ∧ p.netdev = n.netdev.id
  driver : K.allows (.hasDevice n.device.node.driver) true

structure DevicePlan.Planned (K : Findings) (plan : DevicePlan) : Prop where
  usbControllers : ∀ r ∈ plan.usbControllers, r.Planned K
  nics : ∀ n ∈ plan.nics, n.Planned K
  parts : DeviceParts.Planned K ⟨plan.devices, plan.objects, plan.chardevs⟩

theorem ObjectSpec.Linked.mono {o : ObjectSpec} {chardevs more : List Chardev}
    (h : o.Linked chardevs) (hsub : chardevs ⊆ more) : o.Linked more := by
  intro chardev hc
  obtain ⟨c, hmem, hid⟩ := h chardev hc
  exact ⟨c, hsub hmem, hid⟩

theorem DeviceNode.Linked.mono {d : DeviceNode} {objects moreObjects : List ObjectSpec}
    {chardevs more : List Chardev} (h : d.Linked objects chardevs)
    (hobjects : objects ⊆ moreObjects) (hsub : chardevs ⊆ more) : d.Linked moreObjects more where
  serial chardev name hp := by
    obtain ⟨c, hmem, hid⟩ := h.serial chardev name hp
    exact ⟨c, hsub hmem, hid⟩
  rng p hp := by
    obtain ⟨o, hmem, hid⟩ := h.rng p hp
    exact ⟨o, hobjects hmem, hid⟩
  tpm tpmdev hp := by
    obtain ⟨o, hmem, hid⟩ := h.tpm tpmdev hp
    exact ⟨o, hobjects hmem, hid⟩

namespace DeviceParts.Planned

variable {K : Findings} {a b : DeviceParts}

theorem empty : DeviceParts.empty.Planned K where
  linked _ h := nomatch h
  known _ h := nomatch h
  objects _ h := nomatch h
  types _ h := nomatch h

theorem append (ha : a.Planned K) (hb : b.Planned K) : (a.append b).Planned K where
  linked d hd := by
    obtain hd | hd := List.mem_append.1 hd
    · exact (ha.linked d hd).mono (List.subset_append_left _ _) (List.subset_append_left _ _)
    · exact (hb.linked d hd).mono (List.subset_append_right _ _) (List.subset_append_right _ _)
  known d hd := (List.mem_append.1 hd).elim (ha.known d) (hb.known d)
  objects o ho := by
    obtain ho | ho := List.mem_append.1 ho
    · exact (ha.objects o ho).mono (List.subset_append_left _ _)
    · exact (hb.objects o ho).mono (List.subset_append_right _ _)
  types o ho := (List.mem_append.1 ho).elim (ha.types o) (hb.types o)

theorem join {l : List DeviceParts} (h : ∀ parts ∈ l, parts.Planned K) :
    (DeviceParts.join l).Planned K := by
  induction l with
  | nil => exact empty
  | cons parts l ih =>
    obtain ⟨hparts, hl⟩ := List.forall_mem_cons.1 h
    exact hparts.append (ih hl)

theorem single {d : UnplacedDevice} {objects : List ObjectSpec} {chardevs : List Chardev}
    (hlinked : d.node.Linked objects chardevs) (hknown : d.node.Known K)
    (hobjects : ∀ o ∈ objects, o.Linked chardevs ∧ o.Known K) :
    DeviceParts.Planned K ⟨[d], objects, chardevs⟩ where
  linked e he := by
    obtain rfl := List.mem_singleton.1 he
    exact hlinked
  known e he := by
    obtain rfl := List.mem_singleton.1 he
    exact hknown
  objects o ho := (hobjects o ho).1
  types o ho := (hobjects o ho).2

end DeviceParts.Planned

/-- A device of a family that refers to nothing and has no codec. -/
def DeviceProps.isPlain : DeviceProps → Bool
  | .serial .. | .rng _ | .tpm _ | .sound _ => false
  | _ => true

theorem DeviceNode.linked_of_isPlain {d : DeviceNode} (h : d.props.isPlain = true)
    (objects : List ObjectSpec) (chardevs : List Chardev) : d.Linked objects chardevs := by
  constructor
  all_goals
    intros
    simp_all [DeviceProps.isPlain]

theorem DeviceNode.known_of_isPlain {K : Findings} {d : DeviceNode} (h : d.props.isPlain = true)
    (hd : K.allows (.hasDevice d.driver) true) : d.Known K where
  driver := hd
  codec codec hcodec := by
    rw [hcodec] at h
    cases h

theorem DeviceParts.Planned.of_isPlain {K : Findings} {d : UnplacedDevice}
    (hplain : d.node.props.isPlain = true) (hd : K.allows (.hasDevice d.node.driver) true) :
    (DeviceParts.ofDevice d).Planned K :=
  .single (DeviceNode.linked_of_isPlain hplain _ _) (DeviceNode.known_of_isPlain hplain hd) nofun

/-! ## Families -/

namespace DevicePlan

variable {m : Type → Type} [Monad m] [LawfulMonad m] {H I : Type} {G : Guarantee m}
  {t : Target m} {K : Findings}

theorem holds_channel [HostResources H] (vmName owner : String) (p : Parameters) :
    (G.compiling H I).Holds (channel vmName owner p) fun _ => True :=
  compiling_leasing_trivial

variable (hK : G.Finds t.oracle K)

include hK

theorem holds_device (node : DeviceNode) (bus : BusRequest) (p : Parameters) :
    (G.compiling H I).Holds (device t node bus p) fun d =>
      d.node = node ∧ K.allows (.hasDevice node.driver) true := by
  refine (G.compiling H I).bind (compiling_lift (holds_requireDevice hK _)) fun _ => ?_
  exact G.state.bind_parameters fun request _ => (G.compiling H I).ret fun h => ⟨rfl, h⟩

theorem holds_plainDevice {node : DeviceNode} (bus : BusRequest) (p : Parameters)
    (hplain : node.props.isPlain = true) :
    (G.compiling H I).Holds (do return .ofDevice (← device t node bus p)) fun parts : DeviceParts =>
      parts.Planned K := by
  refine (G.compiling H I).bind (holds_device hK node bus p) fun d => (G.compiling H I).ret ?_
  rintro ⟨rfl, hd⟩
  exact .of_isPlain hplain hd

theorem holds_serial [HostResources H] (vmName : String) (p : Parameters) (name : String) :
    (G.compiling H I).Holds (serial vmName p t name) fun parts => parts.Planned K := by
  refine G.state.bind_attempt fun (bus, portName) _ => ?_
  refine (G.compiling H I).bind (holds_channel vmName name _) fun chardev => ?_
  refine (G.compiling H I).bind (holds_device hK _ bus _) fun d => (G.compiling H I).ret ?_
  rintro ⟨hnode, hdriver⟩ -
  refine .single (hnode ▸ ⟨fun id port hp => ?_, nofun, nofun⟩) (hnode ▸ ⟨hdriver, nofun⟩) nofun
  obtain ⟨rfl, -⟩ := DeviceProps.serial.inj hp
  exact ⟨chardev, List.mem_cons_self, rfl⟩

omit hK in
theorem holds_rngBackend [HostResources H] (vmName name : String) (p : Parameters) :
    (G.compiling H I).Holds (rngBackend vmName name p) fun r : ObjectKind × List Chardev =>
      r.1.isRng = true ∧ ObjectSpec.Linked r.2 ⟨name, r.1⟩ := by
  unfold rngBackend
  split
  · exact (G.compiling H I).ret ⟨rfl, nofun⟩
  · exact (G.compiling H I).ret ⟨rfl, nofun⟩
  · refine (G.compiling H I).bind (holds_channel vmName name _) fun chardev =>
      (G.compiling H I).ret fun _ => ?_
    refine ⟨rfl, fun id hid => ⟨chardev, List.mem_cons_self, Option.some.inj hid⟩⟩
  · exact G.state.except_throw

theorem holds_rng [HostResources H] (vmName : String) (p : Parameters) (name : String) :
    (G.compiling H I).Holds (rng vmName p t name) fun parts => parts.Planned K := by
  refine (G.compiling H I).bind (holds_rngBackend vmName name _) fun (kind, chardevs) => ?_
  refine (G.compiling H I).bind (compiling_lift (holds_requireObject hK _)) fun _ => ?_
  refine G.state.bind_parameters fun maxBytes _ => G.state.bind_parameters fun period _ => ?_
  refine (G.compiling H I).bind (holds_device hK _ _ _) fun d => (G.compiling H I).ret ?_
  rintro ⟨hnode, hdriver⟩ hobject ⟨hrng, hlinked⟩
  refine .single (hnode ▸ ⟨nofun, fun q hq => ?_, nofun⟩) (hnode ▸ ⟨hdriver, nofun⟩) fun o ho => ?_
  · obtain rfl := DeviceProps.rng.inj hq
    exact ⟨_, List.mem_cons_self, rfl, hrng⟩
  · obtain rfl := List.mem_singleton.1 ho
    exact ⟨hlinked, fun _ => hobject⟩

omit hK in
theorem holds_tpmBackend [HostResources H] (vmName name : String) (p : Parameters) :
    (G.compiling H I).Holds (tpmBackend vmName name p) fun r : ObjectKind × List Chardev =>
      r.1.isTpm = true ∧ ObjectSpec.Linked r.2 ⟨name, r.1⟩ := by
  unfold tpmBackend
  split
  · refine (G.compiling H I).bind (holds_channel vmName name _) fun chardev =>
      (G.compiling H I).ret fun _ => ?_
    refine ⟨rfl, fun id hid => ⟨chardev, List.mem_cons_self, Option.some.inj hid⟩⟩
  · exact (G.compiling H I).ret ⟨rfl, nofun⟩
  · exact G.state.except_throw

theorem holds_tpm [HostResources H] (vmName : String) (p : Parameters) (name : String) :
    (G.compiling H I).Holds (tpm vmName p t name) fun parts => parts.Planned K := by
  refine (G.compiling H I).bind (holds_tpmBackend vmName name _) fun (kind, chardevs) => ?_
  cases defaultTpm? t.family with
  | none => exact G.state.except_throw
  | some default =>
    refine (G.compiling H I).bind (holds_device hK _ _ _) fun d => (G.compiling H I).ret ?_
    rintro ⟨hnode, hdriver⟩ ⟨htpm, hlinked⟩
    refine .single (hnode ▸ ⟨nofun, nofun, fun q hq => ?_⟩) (hnode ▸ ⟨hdriver, nofun⟩)
      fun o ho => ?_
    · obtain rfl := DeviceProps.tpm.inj hq
      exact ⟨_, List.mem_cons_self, rfl, htpm⟩
    · obtain rfl := List.mem_singleton.1 ho
      refine ⟨hlinked, fun h => ?_⟩
      rw [htpm] at h
      cases h

theorem holds_vsock [HostResources H] (p : Parameters) (name : String) :
    (G.compiling H I).Holds (vsock p t name) fun parts => parts.Planned K := by
  refine G.state.bind_parameters fun explicit _ => ?_
  split
  · exact G.state.except_throw
  · refine (G.compiling H I).bind (P := fun _ => True) ?_ fun cid => ?_
    · exact compiling_leasing fun _ => attempt_trivial
    · exact (G.compiling H I).mono (holds_plainDevice hK _ _ rfl) fun _ h _ => h

theorem holds_balloon (p : Parameters) (name : String) :
    (G.compiling H I).Holds (balloon p t name) fun parts => parts.Planned K := by
  refine G.state.bind_parameters fun deflate _ => G.state.bind_parameters fun reporting _ => ?_
  exact holds_plainDevice hK _ _ rfl

theorem holds_watchdog (p : Parameters) :
    (G.compiling H I).Holds (watchdog p t) fun parts => parts.Planned K := by
  refine G.state.bind_parameters fun enabled _ => ?_
  split
  · split
    · exact G.state.except_throw
    · exact G.state.bind_attempt fun bus _ => holds_plainDevice hK bus p rfl
  · exact (G.compiling H I).ret .empty

theorem holds_input (p : Parameters) (name : String) :
    (G.compiling H I).Holds (input p t name) fun parts => parts.Planned K := by
  unfold input
  dsimp only
  split
  · exact G.state.bind_attempt fun (driver, bus) _ => holds_plainDevice hK bus _ rfl
  · exact G.state.except_throw

theorem holds_usbDevice (p : Parameters) (name : String) :
    (G.compiling H I).Holds (usbDevice p t name) fun parts => parts.Planned K :=
  holds_plainDevice hK _ _ rfl

theorem holds_display (p : Parameters) :
    (G.compiling H I).Holds (display p t) fun parts => parts.Planned K := by
  refine G.state.bind_attempt fun driver _ => ?_
  cases driver with
  | none => exact (G.compiling H I).ret .empty
  | some driver => exact holds_plainDevice hK _ p rfl

theorem holds_soundcard (p : Parameters) (index : Nat) (model : String) :
    (G.compiling H I).Holds (soundcard p t index model) fun parts => parts.Planned K := by
  refine G.state.bind_attempt fun (driver, codec) _ => ?_
  have hcard : ∀ base : String, (G.compiling H I).Holds (do
      return .ofDevice (← device t (.bare base driver (.sound codec)) (.pci .conventional)
        (p.scopedTo model))) fun parts : DeviceParts =>
      (∀ c, codec = some c → K.allows (.hasDevice c) true) → parts.Planned K := by
    intro base
    refine (G.compiling H I).bind (holds_device hK _ _ _) fun d => (G.compiling H I).ret ?_
    rintro ⟨hnode, hdriver⟩ hcodec
    refine .single (hnode ▸ ⟨nofun, nofun, nofun⟩) (hnode ▸ ⟨hdriver, fun c hc => ?_⟩) nofun
    exact hcodec c (DeviceProps.sound.inj hc)
  cases codec with
  | none => exact (G.compiling H I).mono (hcard _) fun _ h => h nofun
  | some codec =>
    refine (G.compiling H I).bind (compiling_lift (holds_requireDevice hK _)) fun _ => ?_
    exact (G.compiling H I).mono (hcard _) fun _ h hc => h fun c hc' => Option.some.inj hc' ▸ hc

theorem holds_usbController (p : Parameters) (id : String) :
    G.build.Holds (usbController p t id) fun r => r.Planned K := by
  unfold usbController
  dsimp only
  split
  · exact G.except_throw
  · next ports hports =>
    refine G.build.bind (holds_requireDevice hK _) fun _ => ?_
    refine G.bind_parameters fun maxPorts _ => G.bind_parameters fun hint _ => ?_
    refine G.build.ret fun h => ?_
    exact ⟨h, by rw [hports, Option.isSome_some]⟩

theorem holds_nic [Identifiers I] (p : Parameters) (name : String) :
    (G.compiling H I).Holds (nic p t name) fun n => n.Planned K := by
  refine G.state.bind_attempt fun (driver, bus) _ => ?_
  refine (G.compiling H I).bind (compiling_lift (holds_requireDevice hK driver)) fun _ => ?_
  refine G.state.bind_parameters fun queues _ => G.state.bind_attempt fun backend _ => ?_
  dsimp only
  -- a card has the address that is given, or one that is made up
  split
  all_goals
    first
    | refine (G.compiling H I).bind compiling_identifier fun mac => ?_
    | refine (G.compiling H I).bind (P := fun _ => True) ((G.compiling H I).ret trivial)
        fun mac => ?_
    refine G.state.bind_attempt fun vectors _ => G.state.bind_parameters fun extra _ => ?_
    refine G.state.bind_parameters fun request _ => (G.compiling H I).ret fun _ h => ?_
    exact ⟨⟨_, rfl, rfl⟩, h⟩

/-! ## All devices -/

omit hK in
theorem holds_parts (p : Parameters) (key : String) {f : String → Compiling H I m DeviceParts}
    (hf : ∀ name, (G.compiling H I).Holds (f name) fun parts => parts.Planned K) :
    (G.compiling H I).Holds (parts p key f) fun parts => parts.Planned K :=
  (G.compiling H I).bind ((G.compiling H I).mapM_all hf _) fun _ => (G.compiling H I).ret .join

theorem holds_soundcards (p : Parameters) :
    (G.compiling H I).Holds (soundcards p t) fun parts => parts.Planned K := by
  refine (G.compiling H I).bind ((G.compiling H I).mapM_all (fun card => ?_) _)
    fun _ => (G.compiling H I).ret .join
  exact holds_soundcard hK p card.2 card.1

/-- All devices of a guest are linked within the plan and made for the hypervisor. -/
theorem holds_build [HostResources H] [Identifiers I] (vmName : String) (p : Parameters) :
    (G.compiling H I).Holds (build vmName p t) fun plan => plan.Planned K := by
  refine (G.compiling H I).bind (compiling_lift (G.build.mapM_all (holds_usbController hK p) _))
    fun usbControllers => ?_
  refine (G.compiling H I).bind ((G.compiling H I).mapM_all (holds_nic hK p) _) fun nics => ?_
  refine (G.compiling H I).bind (holds_parts p _ (holds_serial hK vmName p)) fun serials => ?_
  refine (G.compiling H I).bind (holds_parts p _ (holds_rng hK vmName p)) fun rngs => ?_
  refine (G.compiling H I).bind (holds_parts p _ (holds_tpm hK vmName p)) fun tpms => ?_
  refine (G.compiling H I).bind (holds_parts p _ (holds_vsock hK p)) fun vsocks => ?_
  refine (G.compiling H I).bind (holds_parts p _ (holds_balloon hK p)) fun balloons => ?_
  refine (G.compiling H I).bind (holds_watchdog hK p) fun watchdog => ?_
  refine (G.compiling H I).bind (holds_parts p _ (holds_input hK p)) fun inputs => ?_
  refine (G.compiling H I).bind (holds_soundcards hK p) fun sounds => ?_
  refine (G.compiling H I).bind (holds_parts p _ (holds_usbDevice hK p)) fun usbDevices => ?_
  refine (G.compiling H I).bind (holds_display hK p) fun display => (G.compiling H I).ret ?_
  intro hdisplay husbDevices hsounds hinputs hwatchdog hballoons hvsocks htpms hrngs hserials hnics
    husb
  refine ⟨husb, hnics, .join ?_⟩
  simp [*]

end DevicePlan

namespace Monitor

variable {H : Type} [HostResources H]

/-- A monitor talks through its own channel. -/
theorem chardev_eq_of_build (vmName : String) (p : Parameters) (name : String) :
    (leasing H).Holds (build vmName p name) fun r => r.1.chardev = r.2.id := by
  refine (leasing H).bind (P := fun _ => True) (fun _ => attempt_trivial) fun protocol => ?_
  refine (leasing H).bind (P := fun _ => True) (fun _ => attempt_trivial) fun chardev => ?_
  exact (leasing H).ret fun _ _ => rfl

theorem chardev_eq_of_buildAll (vmName : String) (p : Parameters) :
    (leasing H).Holds (buildAll vmName p) fun l => ∀ r ∈ l, r.1.chardev = r.2.id :=
  (leasing H).mapM_all (chardev_eq_of_build vmName p) _

end Monitor

end GuestSpec
