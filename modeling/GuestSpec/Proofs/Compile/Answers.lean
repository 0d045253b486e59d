import GuestSpec.Proofs.Compile.Planned
import GuestSpec.Proofs.Storage.Agreement

/-!
# A compilation depends on answers only

What a compilation gives is a function of the answers to its questions: it is what the compilation
gives that asks an oracle without effects with the same answers. There is one lemma for each
function of the compiler, with `Gives` for the steps that ask and `Supplies` for those that also
hand something out.
-/

namespace GuestSpec

/-! ## Rules -/

namespace Guarantee

/-- From every supply, a step gives and leaves what another step does that asks an oracle without
effects. -/
def Supplies {m : Type → Type} [Monad m] {α : Type} (G : Guarantee m) (H I : Type)
    (x : Compiling H I m α) (y : Compiling H I Id α) : Prop :=
  ∀ s, G.Holds (x.run.run s) fun r => r = (y.run.run s).run

variable {m : Type → Type} [Monad m] {α β H I : Type} {G : Guarantee m}

theorem run_compiling_bind (y : Compiling H I Id α) (g : α → Compiling H I Id β)
    (s : Supply H I) :
    ((y >>= g).run.run s).run =
      match (y.run.run s).run with
      | (.ok a, s') => ((g a).run.run s').run
      | (.error e, s') => (.error e, s') := by
  change ((ExceptT.bindCont g (y.run.run s).run.1).run (y.run.run s).run.2 : Id _).run = _
  obtain ⟨r, s'⟩ := (y.run.run s).run
  cases r <;> rfl

theorem supplies_pure (a : α) : G.Supplies H I (pure a) (pure a) := fun _ => G.ret rfl

theorem supplies_throw (e : CompileError) :
    G.Supplies H I (throw e : Compiling H I m α) (throw e) :=
  fun _ => G.ret rfl

theorem supplies_attempt (x : Except CompileError α) : G.Supplies H I (liftM x) (liftM x) :=
  fun _ => G.ret rfl

theorem supplies_parameters (x : Except Parameters.Error α) : G.Supplies H I (liftM x) (liftM x) :=
  fun _ => G.ret rfl

theorem supplies_state {x : StateT (Supply H I) m α} {y : StateT (Supply H I) Id α}
    (h : ∀ s, G.Holds (x.run s) fun r => r = (y.run s).run) :
    G.Supplies H I (liftM x) (liftM y) := by
  intro s
  refine G.bind (h s) fun r => G.ret fun hr => ?_
  rw [hr]
  rfl

theorem supplies_get : G.Supplies H I get get :=
  supplies_state (x := get) (y := get) fun _ => G.ret rfl

theorem supplies_set (s : Supply H I) : G.Supplies H I (set s) (set s) :=
  supplies_state (x := set s) (y := set s) fun _ => G.ret rfl

theorem supplies_ite {c : Prop} [Decidable c] {x x' : Compiling H I m α} {y y' : Compiling H I Id α}
    (h : G.Supplies H I x y) (h' : G.Supplies H I x' y') :
    G.Supplies H I (if c then x else x') (if c then y else y') := by
  split
  · exact h
  · exact h'

theorem gives_ite {c : Prop} [Decidable c] {x x' : Build m α} {y y' : Build Id α}
    (h : G.Gives x y) (h' : G.Gives x' y') :
    G.Gives (if c then x else x') (if c then y else y') := by
  split
  · exact h
  · exact h'

theorem supplies_bind {x : Compiling H I m α} {y : Compiling H I Id α} {f : α → Compiling H I m β}
    {g : α → Compiling H I Id β} (hx : G.Supplies H I x y) (hf : ∀ a, G.Supplies H I (f a) (g a)) :
    G.Supplies H I (x >>= f) (y >>= g) := by
  intro s
  refine G.bind (hx s) fun r => ?_
  rw [run_compiling_bind]
  obtain ⟨r, s'⟩ := r
  cases r with
  | error e =>
    refine G.ret fun he => ?_
    rw [← he]
  | ok a =>
    refine G.mono (hf a s') fun r' hr ha => ?_
    rw [← ha]
    exact hr

theorem supplies_lift {x : Build m α} {y : Build Id α} (h : G.Gives x y) :
    G.Supplies H I (liftM x) (liftM y) := by
  intro s
  refine G.bind h fun r => G.ret fun hr => ?_
  rw [hr]
  rfl

theorem supplies_leasing (x : Leasing H α) :
    G.Supplies H I (Compiling.leasing x) (Compiling.leasing x) :=
  supplies_bind supplies_get fun _ => supplies_bind (supplies_attempt _) fun _ =>
    supplies_bind (supplies_set _) fun _ => supplies_pure _

theorem supplies_identifier (x : StateM I α) :
    G.Supplies H I (Compiling.identifier x) (Compiling.identifier x) :=
  supplies_bind supplies_get fun _ => supplies_bind (supplies_set _) fun _ => supplies_pure _

theorem gives_foldlM {f : β → α → Build m β} {g : β → α → Build Id β}
    (h : ∀ b a, G.Gives (f b a) (g b a)) (xs : List α) (b : β) :
    G.Gives (xs.foldlM f b) (xs.foldlM g b) := by
  induction xs generalizing b with
  | nil => exact gives_pure _
  | cons x xs ih =>
    rw [List.foldlM_cons, List.foldlM_cons]
    exact gives_bind (h b x) fun b' => ih b'

variable [LawfulMonad m]

theorem supplies_throw_bind {γ : Type} (e : CompileError) (f : α → Compiling H I m γ)
    (g : β → Compiling H I Id γ) : G.Supplies H I (throw e >>= f) (throw e >>= g) := by
  intro s
  change G.Holds (pure (Except.error e, s) >>= fun r => (ExceptT.bindCont f r.1).run r.2) _
  rw [pure_bind]
  exact G.ret rfl

theorem supplies_mapM {f : α → Compiling H I m β} {g : α → Compiling H I Id β}
    (h : ∀ a, G.Supplies H I (f a) (g a)) (xs : List α) :
    G.Supplies H I (xs.mapM f) (xs.mapM g) := by
  induction xs with
  | nil =>
    rw [List.mapM_nil, List.mapM_nil]
    exact supplies_pure _
  | cons x xs ih =>
    rw [List.mapM_cons, List.mapM_cons]
    exact supplies_bind (h x) fun y => supplies_bind ih fun ys => supplies_pure _

end Guarantee

open Guarantee

/-! ## Boards and memory -/

variable {m : Type → Type} [Monad m] {H I : Type} {G : Guarantee m} {t : Target m}
  {u : Oracle Id} (hu : G.Finds t.oracle u.findings)

namespace Board

include hu

theorem gives_rules (wholeCores : Bool) :
    G.Holds (Topology.Rules.ofOracle t.oracle wholeCores)
      fun r => r = (Topology.Rules.ofOracle u wholeCores : Id _).run := by
  refine G.bind (hu (.probe .smpDies)) fun dies => ?_
  refine G.bind (hu (.probe .smpClusters)) fun clusters => ?_
  refine G.bind (hu (.probe .smpBooks)) fun books => ?_
  refine G.bind (hu (.probe .smpDrawers)) fun drawers => ?_
  refine G.bind (hu (.probe .smpPreferCores)) fun preferCores => ?_
  refine G.ret ?_
  rintro rfl rfl rfl rfl rfl
  rfl

variable [LawfulMonad m]

theorem gives_uefi (p : Parameters) : G.Gives (uefi p t) (uefi p (t.on u)) := by
  refine gives_bind (gives_probe hu _) fun layered => ?_
  exact gives_bind (gives_parameters _) fun secureBoot => gives_pure _

theorem gives_firmware (p : Parameters) : G.Gives (firmware p t) (firmware p (t.on u)) := by
  unfold firmware
  refine gives_ite (gives_pure _) (gives_ite (gives_uefi hu p) ?_)
  exact gives_ite (gives_throw _) (gives_ite (gives_pure _) (gives_throw _))

theorem gives_cpu (p : Parameters) : G.Gives (cpu p t) (cpu p (t.on u)) := by
  refine gives_bind (gives_parameters _) fun request => gives_bind ?_ fun rules => ?_
  · exact G.map_holds (G.mono (gives_rules hu _) fun _ hr => congrArg Except.ok hr)
  · cases Topology.solve request rules with
    | error e => exact gives_throw _
    | ok topology => exact gives_pure _

end Board

namespace MemoryPlan

variable [LawfulMonad m]

include hu

theorem gives_baseMemory (p : Parameters) (sizeMib : UInt64) :
    G.Gives (baseMemory p t sizeMib) (baseMemory p (t.on u) sizeMib) := by
  refine gives_bind (gives_parameters _) fun kind => ?_
  cases kind with
  | none => exact gives_pure _
  | some kind =>
    refine gives_bind (gives_parameters _) fun share => ?_
    refine gives_bind (gives_parameters _) fun prealloc => ?_
    refine gives_bind (gives_probe hu _) fun b => ?_
    cases b with
    | true => exact gives_bind (gives_requireObject hu _) fun _ => gives_pure _
    | false =>
      cases kind with
      | memfd _ => exact gives_throw _
      | _ => exact gives_pure _

theorem gives_addDevice (p : Parameters) (ds : Devices) (name : String) :
    G.Gives (addDevice p t ds name) (addDevice p (t.on u) ds name) := by
  refine gives_bind (gives_parameters _) fun sizeMib => ?_
  cases sizeMib with
  | none => exact gives_throw _
  | some sizeMib =>
    refine gives_bind (gives_parameters _) fun pmem => ?_
    refine gives_bind (gives_attempt _) fun (backend, node, bus, slots) => ?_
    refine gives_bind (gives_requireObject hu _) fun _ => ?_
    refine gives_bind (gives_requireDevice hu _) fun _ => ?_
    exact gives_bind (gives_attempt _) fun totalMib => gives_pure _

theorem gives_build (p : Parameters) (hostMib : UInt64) :
    G.Gives (build p t hostMib) (build p (t.on u) hostMib) := by
  refine gives_bind (gives_attempt _) fun sizeMib => ?_
  refine gives_bind (gives_baseMemory hu p sizeMib) fun (backend, legacy) => ?_
  refine gives_bind (gives_foldlM (fun ds name => gives_addDevice hu p ds name) _ _) fun ds => ?_
  exact gives_bind (gives_attempt _) fun (maxmem, slots) => gives_pure _

end MemoryPlan

/-! ## Devices -/

namespace DevicePlan

theorem supplies_channel [HostResources H] (vmName owner : String) (p : Parameters) :
    G.Supplies H I (channel vmName owner p) (channel vmName owner p) :=
  supplies_leasing _

theorem supplies_rngBackend [HostResources H] (vmName name : String) (p : Parameters) :
    G.Supplies H I (rngBackend vmName name p) (rngBackend vmName name p) := by
  unfold rngBackend
  split
  · exact supplies_pure _
  · exact supplies_pure _
  · exact supplies_bind (supplies_channel _ _ _) fun _ => supplies_pure _
  · exact supplies_throw _

theorem supplies_tpmBackend [HostResources H] (vmName name : String) (p : Parameters) :
    G.Supplies H I (tpmBackend vmName name p) (tpmBackend vmName name p) := by
  unfold tpmBackend
  split
  · exact supplies_bind (supplies_channel _ _ _) fun _ => supplies_pure _
  · exact supplies_pure _
  · exact supplies_throw _

variable [LawfulMonad m]

theorem supplies_parts (p : Parameters) (key : String) {f : String → Compiling H I m DeviceParts}
    {g : String → Compiling H I Id DeviceParts} (h : ∀ name, G.Supplies H I (f name) (g name)) :
    G.Supplies H I (parts p key f) (parts p key g) :=
  supplies_bind (supplies_mapM h _) fun _ => supplies_pure _

include hu

theorem supplies_device (node : DeviceNode) (bus : BusRequest) (p : Parameters) :
    G.Supplies H I (device t node bus p) (device (t.on u) node bus p) := by
  refine supplies_bind (supplies_lift (gives_requireDevice hu _)) fun _ => ?_
  exact supplies_bind (supplies_parameters _) fun request => supplies_pure _

theorem supplies_ofDevice (node : DeviceNode) (bus : BusRequest) (p : Parameters) :
    G.Supplies H I (do return .ofDevice (← device t node bus p))
      (do return DeviceParts.ofDevice (← device (t.on u) node bus p)) :=
  supplies_bind (supplies_device hu node bus p) fun _ => supplies_pure _

theorem gives_usbController (p : Parameters) (id : String) :
    G.Gives (usbController p t id) (usbController p (t.on u) id) := by
  unfold usbController
  dsimp only
  split
  · exact gives_throw _
  · refine gives_bind (gives_requireDevice hu _) fun _ => ?_
    refine gives_bind (gives_parameters _) fun maxPorts => ?_
    exact gives_bind (gives_parameters _) fun hint => gives_pure _

theorem supplies_nic [Identifiers I] (p : Parameters) (name : String) :
    G.Supplies H I (nic p t name) (nic p (t.on u) name) := by
  refine supplies_bind (supplies_attempt _) fun (driver, bus) => ?_
  refine supplies_bind (supplies_lift (gives_requireDevice hu driver)) fun _ => ?_
  refine supplies_bind (supplies_parameters _) fun queues => ?_
  refine supplies_bind (supplies_attempt _) fun backend => ?_
  dsimp only
  cases (p.scopedTo name).get? "nic_mac"
  all_goals
    first
    | refine supplies_bind (supplies_identifier _) fun mac => ?_
    | refine supplies_bind (supplies_pure _) fun mac => ?_
    refine supplies_bind (supplies_attempt _) fun vectors => ?_
    refine supplies_bind (supplies_parameters _) fun extra => ?_
    exact supplies_bind (supplies_parameters _) fun request => supplies_pure _

theorem supplies_serial [HostResources H] (vmName : String) (p : Parameters) (name : String) :
    G.Supplies H I (serial vmName p t name) (serial vmName p (t.on u) name) := by
  refine supplies_bind (supplies_attempt _) fun (bus, portName) => ?_
  refine supplies_bind (supplies_channel _ _ _) fun chardev => ?_
  exact supplies_bind (supplies_device hu _ _ _) fun d => supplies_pure _

theorem supplies_rng [HostResources H] (vmName : String) (p : Parameters) (name : String) :
    G.Supplies H I (rng vmName p t name) (rng vmName p (t.on u) name) := by
  refine supplies_bind (supplies_rngBackend _ _ _) fun (kind, chardevs) => ?_
  refine supplies_bind (supplies_lift (gives_requireObject hu _)) fun _ => ?_
  refine supplies_bind (supplies_parameters _) fun maxBytes => ?_
  refine supplies_bind (supplies_parameters _) fun period => ?_
  exact supplies_bind (supplies_device hu _ _ _) fun d => supplies_pure _

theorem supplies_tpm [HostResources H] (vmName : String) (p : Parameters) (name : String) :
    G.Supplies H I (tpm vmName p t name) (tpm vmName p (t.on u) name) := by
  refine supplies_bind (supplies_tpmBackend _ _ _) fun (kind, chardevs) => ?_
  dsimp only [Target.on]
  cases defaultTpm? t.family with
  | none => exact supplies_throw _
  | some default => exact supplies_bind (supplies_device hu _ _ _) fun d => supplies_pure _

theorem supplies_vsock [HostResources H] (p : Parameters) (name : String) :
    G.Supplies H I (vsock p t name) (vsock p (t.on u) name) := by
  refine supplies_bind (supplies_parameters _) fun explicit => ?_
  cases explicit.filter (· < HostLeases.firstCid) with
  | some cid => exact supplies_throw _
  | none => exact supplies_bind (supplies_leasing _) fun cid => supplies_ofDevice hu _ _ _

theorem supplies_balloon (p : Parameters) (name : String) :
    G.Supplies H I (balloon p t name) (balloon p (t.on u) name) := by
  refine supplies_bind (supplies_parameters _) fun deflate => ?_
  exact supplies_bind (supplies_parameters _) fun reporting => supplies_ofDevice hu _ _ _

theorem supplies_watchdog (p : Parameters) :
    G.Supplies H I (watchdog p t) (watchdog p (t.on u)) := by
  refine supplies_bind (supplies_parameters _) fun enabled => ?_
  cases enabled with
  | false => exact supplies_pure _
  | true =>
    dsimp only [Target.on]
    cases (p.get? "watchdog_device_type").or (defaultWatchdog? t.family) with
    | none => exact supplies_throw _
    | some model =>
      exact supplies_bind (supplies_attempt _) fun bus => supplies_ofDevice hu _ _ _

theorem supplies_input (p : Parameters) (name : String) :
    G.Supplies H I (input p t name) (input p (t.on u) name) := by
  unfold input
  refine supplies_ite ?_ (supplies_throw _)
  exact supplies_bind (supplies_attempt _) fun (driver, bus) => supplies_ofDevice hu _ _ _

theorem supplies_soundcard (p : Parameters) (index : Nat) (model : String) :
    G.Supplies H I (soundcard p t index model) (soundcard p (t.on u) index model) := by
  refine supplies_bind (supplies_attempt _) fun (driver, codec) => ?_
  cases codec with
  | none => exact supplies_ofDevice hu _ _ _
  | some codec =>
    exact supplies_bind (supplies_lift (gives_requireDevice hu _)) fun _ =>
      supplies_ofDevice hu _ _ _

theorem supplies_usbDevice (p : Parameters) (name : String) :
    G.Supplies H I (usbDevice p t name) (usbDevice p (t.on u) name) :=
  supplies_ofDevice hu _ _ _

theorem supplies_display (p : Parameters) : G.Supplies H I (display p t) (display p (t.on u)) := by
  refine supplies_bind (supplies_attempt _) fun driver => ?_
  cases driver with
  | none => exact supplies_pure _
  | some driver => exact supplies_ofDevice hu _ _ _

theorem supplies_soundcards (p : Parameters) :
    G.Supplies H I (soundcards p t) (soundcards p (t.on u)) :=
  supplies_bind
    (supplies_mapM (fun card : String × Nat => supplies_soundcard hu p card.2 card.1) _) fun _ =>
    supplies_pure _

theorem supplies_build [HostResources H] [Identifiers I] (vmName : String) (p : Parameters) :
    G.Supplies H I (build vmName p t) (build vmName p (t.on u)) := by
  refine supplies_bind (supplies_lift (gives_mapM (gives_usbController hu p) _))
    fun usbControllers => ?_
  refine supplies_bind (supplies_mapM (supplies_nic hu p) _) fun nics => ?_
  refine supplies_bind (supplies_parts p _ (supplies_serial hu vmName p)) fun serials => ?_
  refine supplies_bind (supplies_parts p _ (supplies_rng hu vmName p)) fun rngs => ?_
  refine supplies_bind (supplies_parts p _ (supplies_tpm hu vmName p)) fun tpms => ?_
  refine supplies_bind (supplies_parts p _ (supplies_vsock hu p)) fun vsocks => ?_
  refine supplies_bind (supplies_parts p _ (supplies_balloon hu p)) fun balloons => ?_
  refine supplies_bind (supplies_watchdog hu p) fun watchdog => ?_
  refine supplies_bind (supplies_parts p _ (supplies_input hu p)) fun inputs => ?_
  refine supplies_bind (supplies_soundcards hu p) fun sounds => ?_
  refine supplies_bind (supplies_parts p _ (supplies_usbDevice hu p)) fun usbDevices => ?_
  exact supplies_bind (supplies_display hu p) fun display => supplies_pure _

end DevicePlan

/-! ## Compilations -/

theorem Target.ofParameters_on {m : Type → Type} (o : Oracle m) (u : Oracle Id) (p : Parameters) :
    Target.ofParameters u p = (Target.ofParameters o p).map (·.on u) := by
  unfold Target.ofParameters
  dsimp only
  cases machineType? (p.getD "machine_type" "q35") <;> rfl

namespace Plan

theorem supplies_guestUuid [Identifiers I] (p : Parameters) :
    G.Supplies H I (guestUuid p) (guestUuid p) := by
  unfold guestUuid
  cases p.get? "vm_uuid" with
  | none => exact supplies_identifier _
  | some raw =>
    dsimp only
    cases Uuid.ofText? raw with
    | none => exact supplies_throw _
    | some id => exact supplies_pure _

variable [LawfulMonad m]

include hu

theorem gives_allocatorConfig (p : Parameters) :
    G.Gives (allocatorConfig p t) (allocatorConfig p (t.on u)) := by
  refine gives_bind (gives_probe hu _) fun rootPorts => ?_
  refine gives_bind (gives_probe hu _) fun bridge => ?_
  refine gives_bind (gives_parameters _) fun targets => ?_
  exact gives_bind (gives_parameters _) fun luns => gives_pure _

theorem supplies_build [HostResources H] [Identifiers I] (vmName : String) (p : Parameters) :
    G.Supplies H I (build vmName p t) (build vmName p (t.on u)) := by
  refine supplies_bind (supplies_lift (Board.gives_firmware hu p)) fun firmware => ?_
  refine supplies_bind (supplies_attempt _) fun machine => ?_
  refine supplies_bind (supplies_lift (Board.gives_cpu hu p)) fun cpu => ?_
  refine supplies_bind (supplies_leasing _) fun hostMib => ?_
  refine supplies_bind (supplies_lift (MemoryPlan.gives_build hu p _)) fun memory => ?_
  refine supplies_bind (supplies_lift (Storage.gives_build hu p)) fun storage => ?_
  refine supplies_bind (supplies_leasing _) fun monitors => ?_
  refine supplies_bind (DevicePlan.supplies_build hu vmName p) fun devices => ?_
  exact supplies_bind (supplies_guestUuid p) fun uuid => supplies_pure _

end Plan

variable [LawfulMonad m]

variable [HostResources H] [Identifiers I]

omit hu in
theorem supplies_compiling {o : Oracle m} (hu : G.Finds o u.findings) (vmName : String)
    (p : Parameters) : G.Supplies H I (compiling o vmName p) (compiling u vmName p) := by
  unfold compiling
  rw [Target.ofParameters_on o u]
  cases ht : Target.ofParameters o p with
  | error e => exact supplies_throw_bind (.param e) _ _
  | ok t =>
    obtain rfl : t.oracle = o := oracle_of_ofParameters o p t ht
    change G.Supplies H I (pure t >>= _) (pure (t.on u) >>= _)
    rw [pure_bind, pure_bind]
    refine supplies_bind (supplies_lift ?_) fun version => ?_
    · exact G.map_holds (G.mono (hu .version) fun _ hv => congrArg Except.ok hv.symm)
    refine supplies_bind (supplies_lift (Plan.gives_allocatorConfig hu p)) fun config => ?_
    exact supplies_bind (Plan.supplies_build hu vmName p) fun plan => supplies_attempt _

omit hu in
/-- What a compilation gives, and the identifiers that it leaves, are those of the compilation that
asks an oracle with the same answers. -/
theorem gives_compile {o : Oracle m} (hu : G.Finds o u.findings) (host : H) (vmName : String)
    (p : Parameters) (ids : I) :
    G.Holds (compile o host vmName p ids) fun r =>
      r = (compile u host vmName p ids : Id _).run := by
  refine G.bind (supplies_compiling hu vmName p _) fun r => G.ret fun hr => ?_
  rw [hr]
  rfl

end GuestSpec
