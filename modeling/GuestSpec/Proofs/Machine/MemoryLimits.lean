import GuestSpec.Proofs.Machine.MemoryDevices
import GuestSpec.Proofs.Oracle.Steady

/-!
# Limits of memory

The base memory lies between the limits that are given for it. With memory devices the machine has a
slot for every module, and room for the base memory and all devices. Without memory devices nobody
compares a greatest size that is given with the base memory.
-/

namespace GuestSpec

open Guarantee

namespace MemoryPlan

def totalMib (plan : MemoryPlan) : Nat := plan.memory.sizeMib.toNat + sizesOf plan.devices

/-- The greatest size of the memory, if there is one, covers the memory and all devices. -/
def Covered (plan : MemoryPlan) : Prop :=
  ∀ most, plan.memory.maxmemMib = some most → plan.totalMib ≤ most.toNat

structure InBounds (p : Parameters) (sizeMib : UInt64) : Prop where
  minimum : ∃ minimum, p.size? "vm_mem_minimum" = .ok minimum ∧ minimum.getD 512 ≤ sizeMib
  limit : ∃ limit, p.size? "vm_mem_limit" = .ok limit ∧ ∀ most ∈ limit, sizeMib ≤ most

/-- There is a slot for every memory module: the slots that are given, which are enough, or as many
as there are modules, but at least one. -/
def HasSlots (p : Parameters) (modules : Nat) (slots : Option UInt32) : Prop :=
  ∃ given n, p.uint32? "slots_mem" = .ok given ∧ slots = some n ∧ modules ≤ n.toNat ∧
    n.toNat = (given.map UInt32.toNat).getD (max modules 1)

/-- A plan in which sizes, slots and kinds of memory fit together and to the parameters. -/
structure Consistent (p : Parameters) (family : MachineFamily) (plan : MemoryPlan) : Prop where
  size : InBounds p plan.memory.sizeMib
  machine : ∀ b, plan.memory.backend = some b → b.sizeMib = plan.memory.sizeMib
  devices : List.Forall₂ (UnplacedMemoryDevice.MadeFor p family) (p.objects "mem_devs") plan.devices
  modules : slotsOf plan.devices = List.range (slotsOf plan.devices).length
  slots : plan.devices ≠ [] → HasSlots p (slotsOf plan.devices).length plan.memory.slots
  nvdimm : plan.nvdimm = true ↔ ∃ d ∈ plan.devices, isNvdimm d.device.node = true

/-- What is known of the greatest size of the memory: with memory devices it covers them, and
without any it is what is given. -/
structure Capped (p : Parameters) (plan : MemoryPlan) : Prop where
  covered : plan.devices ≠ [] → plan.Covered
  given : plan.devices = [] → p.size? "maxmem_mem" = .ok plan.memory.maxmemMib

/-! ## The size of the base memory -/

theorem attempt_size? (p : Parameters) (key : String) :
    attempt.Holds (liftM (p.size? key) : Except CompileError (Option UInt64)) fun r =>
      p.size? key = .ok r :=
  attempt_parameters fun _ h => h

theorem inBounds_size (p : Parameters) (hostMib : UInt64) :
    attempt.Holds (size p hostMib) (InBounds p) := by
  refine attempt.bind attempt_trivial fun requested => ?_
  refine attempt.bind (attempt_size? p _) fun limit => ?_
  refine attempt.bind (attempt_size? p _) fun minimum => attempt_unless fun hsize => ?_
  refine attempt.ret fun hminimum hlimit _ => ?_
  refine ⟨⟨minimum, hminimum, UInt64.not_lt.1 hsize⟩, limit, hlimit, fun most hmost => ?_⟩
  obtain rfl := Option.mem_def.1 hmost
  dsimp only
  split
  · exact UInt64.le_refl _
  · next h => exact UInt64.not_lt.1 h

/-! ## Limits -/

def limitFor {α : Type} [LT α] [DecidableLT α] (needed default : α) (refusal : α → CompileError) :
    Option α → Except CompileError α
  | some given => if given < needed then throw (refusal given) else pure given
  | none => pure default

section LimitFor

variable {α β : Type} [LT α] [DecidableLT α] (needed default : α) (refusal : α → CompileError)
  (given : Option α)

theorem limitFor_bind (f : α → Except CompileError β) :
    limitFor needed default refusal given >>= f =
      match given with
      | some given => if given < needed then throw (refusal given) >>= f else pure given >>= f
      | none => pure default >>= f := by
  cases given with
  | none => rfl
  | some given => exact apply_ite (· >>= f) _ _ _

theorem enough_limitFor :
    attempt.Holds (limitFor needed default refusal given) fun r =>
      r = given.getD default ∧ ∀ g ∈ given, ¬ g < needed := by
  cases given with
  | none => exact attempt.ret ⟨rfl, fun _ h => nomatch h⟩
  | some given =>
    by_cases hgiven : given < needed
    · simp only [limitFor, if_pos hgiven]
      exact fun _ h => nomatch h
    · simp only [limitFor, if_neg hgiven]
      refine attempt.ret ⟨rfl, fun g hg => ?_⟩
      rwa [← Option.some.inj hg]

end LimitFor

theorem limits_eq (p : Parameters) (sizeMib : UInt64) (ds : Devices) :
    limits p sizeMib ds = (do
      let maxmem ← p.size? "maxmem_mem"
      let slots ← p.uint32? "slots_mem"
      if ds.list.isEmpty then return (maxmem, slots)
      let needed ← addSizes sizeMib ds.totalMib
      let maxmem ← limitFor needed needed (fun g => .limit (.maxMemExceeded needed g)) maxmem
      let slots ← limitFor ds.slots (max ds.slots 1)
        (fun g => .limit (.memorySlotsExhausted ds.slots g)) slots
      return (some maxmem, some slots)) := by
  unfold limits
  refine bind_congr fun maxmem => bind_congr fun slots => ?_
  split
  · rfl
  · refine bind_congr fun needed => ?_
    simp only [limitFor_bind]
    cases maxmem with
    | none => cases slots <;> rfl
    | some maxmem => cases slots <;> rfl

theorem limits_of_eq_nil (p : Parameters) (sizeMib : UInt64) {ds : Devices} (h : ds.list = []) :
    attempt.Holds (limits p sizeMib ds) fun r => p.size? "maxmem_mem" = .ok r.1 := by
  refine attempt.bind (attempt_size? p _) fun maxmem => attempt.bind attempt_trivial fun slots => ?_
  rw [if_pos (List.isEmpty_iff.2 h)]
  exact attempt.ret fun _ h => h

theorem limits_of_ne_nil (p : Parameters) (sizeMib : UInt64) {ds : Devices} (h : ds.list ≠ []) :
    attempt.Holds (limits p sizeMib ds) fun r =>
      (∃ most, r.1 = some most ∧ sizeMib.toNat + ds.totalMib.toNat ≤ most.toNat) ∧
        HasSlots p ds.slots.toNat r.2 := by
  have hgiven : attempt.Holds (liftM (p.uint32? "slots_mem") : Except CompileError (Option UInt32))
      fun r => p.uint32? "slots_mem" = .ok r := attempt_parameters fun _ h => h
  have hmax : (max ds.slots 1).toNat = max ds.slots.toNat 1 :=
    apply_ite UInt32.toNat (ds.slots ≤ 1) 1 ds.slots
  rw [limits_eq]
  refine attempt.bind (attempt_size? p _) fun maxmem => attempt.bind hgiven fun slots => ?_
  rw [if_neg (mt List.isEmpty_iff.1 h)]
  refine attempt.bind (toNat_addSizes _ _) fun needed => ?_
  refine attempt.bind (enough_limitFor _ _ _ _) fun most => ?_
  refine attempt.bind (enough_limitFor _ _ _ _) fun n => attempt.ret ?_
  rintro ⟨rfl, hslots⟩ ⟨rfl, hmaxmem⟩ hneeded hgiven -
  refine ⟨⟨_, rfl, ?_⟩, slots, _, hgiven, rfl, ?_, ?_⟩
  · rw [← hneeded]
    cases maxmem with
    | none => exact Nat.le_refl _
    | some given => exact UInt64.not_lt.1 (hmaxmem given rfl)
  · cases slots with
    | none => exact hmax ▸ Nat.le_max_left _ _
    | some given => exact UInt32.not_lt.1 (hslots given rfl)
  · cases slots with
    | none => exact hmax
    | some given => rfl

/-! ## Plans -/

section Build

variable {m : Type → Type} [Monad m] [LawfulMonad m] {G : Guarantee m} {t : Target m}
  {K : Findings} (hK : G.Finds t.oracle K)

include hK

theorem size_baseMemory (p : Parameters) (sizeMib : UInt64) :
    G.build.Holds (baseMemory p t sizeMib) fun r => ∀ b, r.1 = some b → b.sizeMib = sizeMib := by
  refine G.bind_parameters fun kind _ => ?_
  cases kind with
  | none => exact G.build.ret fun _ h => nomatch h
  | some kind =>
    refine G.bind_parameters fun share _ => G.bind_parameters fun prealloc _ => ?_
    refine G.build.bind (holds_probe hK _) fun b => ?_
    cases b with
    | true =>
      refine G.build.bind (holds_requireObject hK _) fun _ => G.build.ret fun _ _ b hb => ?_
      rw [← Option.some.inj hb]
    | false =>
      cases kind with
      | memfd _ => exact G.except_throw
      | _ => exact G.build.ret fun _ _ h => nomatch h

theorem consistent_build (p : Parameters) (hostMib : UInt64) :
    G.build.Holds (build p t hostMib) fun plan =>
      plan.Consistent p t.family ∧ plan.Capped p := by
  refine G.bind_attempt fun sizeMib hsize => ?_
  refine G.build.bind (size_baseMemory hK p sizeMib) fun (backend, legacy) => ?_
  refine G.build.bind (madeFor_devices hK p) fun ds => ?_
  refine G.bind_attempt fun (maxmem, slots) hlimits => G.build.ret fun hds hbackend => ?_
  have hmodules : (slotsOf ds.list).length = ds.slots.toNat := by
    rw [hds.slots, List.length_range]
  constructor
  · refine ⟨inBounds_size p hostMib _ hsize, hbackend, hds.list, ?_, fun hne => ?_, ?_⟩
    · rw [hmodules]
      exact hds.slots
    · rw [hmodules]
      exact (limits_of_ne_nil p sizeMib hne _ hlimits).2
    · rw [hds.nvdimm, List.any_eq_true]
  · refine ⟨fun hne most hmost => ?_, fun hnil => limits_of_eq_nil p sizeMib hnil _ hlimits⟩
    obtain ⟨most', hmost', hle⟩ := (limits_of_ne_nil p sizeMib hne _ hlimits).1
    obtain rfl : most = most' := Option.some.inj (hmost.symm.trans hmost')
    rwa [totalMib, ← hds.total]

end Build

end MemoryPlan

section Run

variable {σ : Type} {o : Oracle (StateM σ)} {family : MachineFamily} {machineType : String}
  {p : Parameters} {hostMib : UInt64} {s t : σ} {plan : MemoryPlan}

theorem MemoryPlan.consistent_run
    (hrun : Oracle.runFrom (build p ⟨o, family, machineType⟩ hostMib).run s = (.ok plan, t)) :
    plan.Consistent p family ∧ plan.Capped p := by
  -- what a step gives, whatever the state of the hypervisor is
  let G : Guarantee (StateM σ) := Guarantee.plain.state
  have hK : G.Finds o .any := fun _ _ => trivial
  exact consistent_build (t := ⟨o, family, machineType⟩) hK p hostMib s plan
    (congrArg Prod.fst hrun)

/-- The memory of a guest is planned consistently: the base memory lies between its limits, every
device has the size and the kind of backend that its name asks for, memory modules have the slots
from zero on in the order of their declaration, and there are slots for all of them. -/
theorem consistent_memory_build
    (hrun : Oracle.runFrom (MemoryPlan.build p ⟨o, family, machineType⟩ hostMib).run s =
      (.ok plan, t)) :
    plan.Consistent p family :=
  (MemoryPlan.consistent_run hrun).1

/-- The greatest size of the memory covers the base memory and all devices, except that a greatest
size that is given is not looked at when there are no memory devices. -/
theorem covered_memory_build_iff
    (hrun : Oracle.runFrom (MemoryPlan.build p ⟨o, family, machineType⟩ hostMib).run s =
      (.ok plan, t)) :
    plan.Covered ↔ (p.objects "mem_devs" = [] →
      ∀ most, p.size? "maxmem_mem" = .ok (some most) → plan.memory.sizeMib ≤ most) := by
  obtain ⟨hconsistent, hcapped⟩ := MemoryPlan.consistent_run hrun
  have hdevices := hconsistent.devices
  cases hnames : p.objects "mem_devs" with
  | nil =>
    rw [hnames] at hdevices
    have hnil : plan.devices = [] := List.forall₂_nil_left_iff.1 hdevices
    have htotal : plan.totalMib = plan.memory.sizeMib.toNat := by
      rw [MemoryPlan.totalMib, hnil]
      rfl
    have hgiven : ∀ most, p.size? "maxmem_mem" = .ok (some most) ↔
        plan.memory.maxmemMib = some most := by
      intro most
      rw [hcapped.given hnil, Except.ok.injEq]
    unfold MemoryPlan.Covered
    simp only [hgiven, htotal, forall_const]
    rfl
  | cons name names =>
    rw [hnames] at hdevices
    have hne : plan.devices ≠ [] := by
      intro hnil
      rw [hnil] at hdevices
      cases hdevices
    exact iff_of_true (hcapped.covered hne) nofun

end Run

/-- A module, a paravirtual device and a persistent module on a machine without PCI. -/
theorem consistent_memory_build_modules :
    let c : CapabilitySet := ⟨none, [], ["nvdimm", "pc-dimm", "virtio-mem-device"],
      ["memory-backend-file", "memory-backend-ram"]⟩
    let p : Parameters := .ofList [("mem_devs", "a v b"), ("size_mem", "1G"),
      ("mem_devtype_v", "virtio-mem"), ("prealloc_mem", "yes"), ("pmem_b", "yes"),
      ("mem-path_b", "/nvdimm")]
    let run := Oracle.runFrom (MemoryPlan.build p ⟨c.oracle, .microvm, "microvm"⟩ 8192).run ()
    ∃ plan, run = (.ok plan, ()) ∧ MemoryPlan.slotsOf plan.devices = [0, 1] ∧
      plan.nvdimm = true ∧ plan.Consistent p .microvm := by
  intro c p run
  have hparts : run.1.toOption.map (fun plan => (MemoryPlan.slotsOf plan.devices, plan.nvdimm)) =
      some ([0, 1], true) := by decide +kernel
  cases hrun : run.1 with
  | error e =>
    rw [hrun] at hparts
    cases hparts
  | ok plan =>
    rw [hrun] at hparts
    have hpair : run = (.ok plan, ()) := Prod.ext hrun (Subsingleton.elim _ _)
    have hplan := Option.some.inj hparts
    exact ⟨plan, hpair, congrArg Prod.fst hplan, congrArg Prod.snd hplan,
      consistent_memory_build hpair⟩

/-- With a memory module, a greatest size that is given is at least what is needed. -/
theorem covered_memory_build_iff_module :
    let c : CapabilitySet := ⟨none, [], ["pc-dimm"], ["memory-backend-ram"]⟩
    let p : Parameters := .ofList [("mem_devs", "a"), ("size_mem", "1G"), ("maxmem_mem", "2G")]
    let run := Oracle.runFrom (MemoryPlan.build p ⟨c.oracle, .q35, "q35"⟩ 8192).run ()
    ∃ plan, run = (.ok plan, ()) ∧ plan.memory.maxmemMib = some 2048 ∧ plan.totalMib = 2048 ∧
      plan.Covered := by
  intro c p run
  have hparts : run.1.toOption.map (fun plan => (plan.memory.maxmemMib, plan.totalMib)) =
      some (some 2048, 2048) := by decide +kernel
  have hnames : p.objects "mem_devs" ≠ [] := by decide +kernel
  cases hrun : run.1 with
  | error e =>
    rw [hrun] at hparts
    cases hparts
  | ok plan =>
    rw [hrun] at hparts
    have hpair : run = (.ok plan, ()) := Prod.ext hrun (Subsingleton.elim _ _)
    have hplan := Option.some.inj hparts
    exact ⟨plan, hpair, congrArg Prod.fst hplan, congrArg Prod.snd hplan,
      (covered_memory_build_iff hpair).2 fun hnil => absurd hnil hnames⟩

/-- Without memory devices, half of the base memory is taken as the greatest size. -/
theorem exists_not_covered_memory_build :
    let p : Parameters := .ofList [("maxmem_mem", "512")]
    let run := Oracle.runFrom (MemoryPlan.build p
      ⟨(CapabilitySet.oracle ⟨none, [], [], []⟩), .q35, "q35"⟩ 8192).run ()
    ∃ plan, run = (.ok plan, ()) ∧ plan.memory.sizeMib = 1024 ∧
      plan.memory.maxmemMib = some 512 ∧ ¬ plan.Covered := by
  intro p run
  have hparts : run.1.toOption.map (fun plan => (plan.memory.sizeMib, plan.memory.maxmemMib)) =
      some (1024, some 512) := by decide +kernel
  cases hrun : run.1 with
  | error e =>
    rw [hrun] at hparts
    cases hparts
  | ok plan =>
    rw [hrun] at hparts
    have hplan := Option.some.inj hparts
    have hsize : plan.memory.sizeMib = 1024 := congrArg Prod.fst hplan
    have hmaxmem : plan.memory.maxmemMib = some 512 := congrArg Prod.snd hplan
    refine ⟨plan, Prod.ext hrun (Subsingleton.elim _ _), hsize, hmaxmem, fun hcovered => ?_⟩
    have hle : plan.memory.sizeMib.toNat ≤ (512 : UInt64).toNat :=
      Nat.le_trans (Nat.le_add_right _ _) (hcovered 512 hmaxmem)
    rw [hsize] at hle
    exact absurd hle (by decide)

end GuestSpec
