import GuestSpec.Machine.Memory
import GuestSpec.Proofs.Oracle.Guarantee

/-!
# Planned memory

The memory of a machine comes from a backend only where there are such backends, and every memory
device refers to its own backend. Backends and devices are of kinds that the hypervisor has.
-/

namespace GuestSpec

def DeviceProps.memdev? : DeviceProps → Option String
  | dimm p => some p.memdev
  | virtioMem p => some p.memdev
  | _ => none

structure UnplacedMemoryDevice.Planned (K : Findings) (d : UnplacedMemoryDevice) : Prop where
  memdev : d.device.node.props.memdev? = some d.backend.id
  backend : K.allows (.hasObject d.backend.kind.typeName) true
  driver : K.allows (.hasDevice d.device.node.driver) true

structure MemoryPlan.Planned (K : Findings) (plan : MemoryPlan) : Prop where
  machine : ∀ b, plan.memory.backend = some b → K.allows (.probe .machineMemoryBackend) true
  backend : ∀ b, plan.memory.backend = some b → K.allows (.hasObject b.kind.typeName) true
  devices : ∀ d ∈ plan.devices, d.Planned K

namespace MemoryPlan

open Guarantee

theorem memdev?_of_deviceParts {m : Type → Type} (name : String) (p : Parameters) (t : Target m)
    (sizeMib : UInt64) (pmem : Bool) (slot : UInt32) :
    attempt.Holds (deviceParts name p t sizeMib pmem slot)
      fun r => r.2.1.props.memdev? = some r.1.id := by
  unfold deviceParts
  split
  · refine attempt.bind attempt_trivial fun backend => ?_
    exact attempt.bind attempt_trivial fun next => attempt.ret fun _ _ => rfl
  · split
    · exact fun _ h => nomatch h
    · refine attempt.bind attempt_trivial fun backend => ?_
      have hnode : attempt.Holds (virtioMem name p t backend)
          fun node => node.props.memdev? = some backend.id := by
        refine attempt.bind attempt_trivial fun requested => ?_
        refine attempt.bind attempt_trivial fun block => ?_
        refine attempt.bind attempt_trivial fun node => ?_
        refine attempt.bind attempt_trivial fun prealloc => ?_
        exact attempt.bind attempt_trivial fun memslots => attempt.ret fun _ _ _ _ _ => rfl
      exact attempt.bind (attempt_parameters hnode) fun node => attempt.ret fun h _ => h
  · exact fun _ h => nomatch h

variable {m : Type → Type} [Monad m] [LawfulMonad m] {G : Guarantee m} {t : Target m}
  {K : Findings} (hK : G.Finds t.oracle K)

include hK

theorem holds_baseMemory (p : Parameters) (sizeMib : UInt64) :
    G.build.Holds (baseMemory p t sizeMib) fun r => ∀ b, r.1 = some b →
      K.allows (.probe .machineMemoryBackend) true ∧
        K.allows (.hasObject b.kind.typeName) true := by
  refine G.bind_parameters fun kind _ => ?_
  cases kind with
  | none => exact G.build.ret fun _ h => nomatch h
  | some kind =>
    refine G.bind_parameters fun share _ => G.bind_parameters fun prealloc _ => ?_
    refine G.build.bind (holds_probe hK _) fun b => ?_
    cases b with
    | true =>
      refine G.build.bind (holds_requireObject hK _) fun _ => ?_
      refine G.build.ret fun hobject hmachine b hb => ?_
      obtain rfl := Option.some.inj hb
      exact ⟨hmachine, hobject⟩
    | false =>
      -- without backends for the machine there is none
      cases kind with
      | memfd _ => exact G.except_throw
      | _ => exact G.build.ret fun _ _ h => nomatch h

theorem holds_addDevice (p : Parameters) (ds : Devices) (name : String) :
    G.build.Holds (addDevice p t ds name) fun ds' =>
      (∀ d ∈ ds.list, d.Planned K) → ∀ d ∈ ds'.list, d.Planned K := by
  refine G.bind_parameters fun sizeMib _ => ?_
  cases sizeMib with
  | none => exact G.except_throw
  | some sizeMib =>
    refine G.bind_parameters fun pmem _ => ?_
    refine G.bind_attempt fun (backend, node, bus, slots) hparts => ?_
    refine G.build.bind (holds_requireObject hK _) fun _ => ?_
    refine G.build.bind (holds_requireDevice hK _) fun _ => ?_
    refine G.bind_attempt fun totalMib _ => G.build.ret fun hdriver hobject hds d hd => ?_
    obtain hd | hd := List.mem_append.1 hd
    · exact hds d hd
    · obtain rfl := List.mem_singleton.1 hd
      exact ⟨memdev?_of_deviceParts _ _ _ _ _ _ _ hparts, hobject, hdriver⟩

/-- The memory of a guest is made for the hypervisor. -/
theorem holds_build (p : Parameters) (hostMib : UInt64) :
    G.build.Holds (build p t hostMib) fun plan => plan.Planned K := by
  refine G.bind_attempt fun sizeMib _ => ?_
  refine G.build.bind (holds_baseMemory hK p sizeMib) fun (backend, legacy) => ?_
  refine G.build.bind (G.build.foldlM_holds (fun ds name => holds_addDevice hK p ds name) _ _)
    fun ds => ?_
  refine G.bind_attempt fun (maxmem, slots) _ => G.build.ret fun hds hbackend => ?_
  exact ⟨fun b hb => (hbackend b hb).1, fun b hb => (hbackend b hb).2, hds fun _ hd => nomatch hd⟩

end MemoryPlan

end GuestSpec
