import GuestSpec.Proofs.Machine.MemoryLimits
import GuestSpec.Proofs.Oracle.Overflow

/-!
# Overflow in the memory of a guest

Sizes of memory devices are added up in 64 bits and memory modules are counted in 32. Both numbers
follow from the names of the devices alone, so it is known beforehand whether they can be reckoned:
exactly if the sum of all sizes, that of the base memory included, and the number of modules are
in range.
-/

namespace GuestSpec

open Guarantee

namespace Parameters

def pluggedMib (p : Parameters) (name : String) : Nat :=
  match (p.scopedTo name).size? "size_mem" with
  | .ok (some sizeMib) => sizeMib.toNat
  | _ => 0

/-- The memory that is plugged in under a name is a module, which takes a slot. -/
def IsModule (p : Parameters) (name : String) : Prop :=
  (p.scopedTo name).getD "mem_devtype" "dimm" = "dimm"

instance (p : Parameters) : DecidablePred p.IsModule := fun _ => decEq _ _

end Parameters

namespace MemoryPlan

def pluggedMib (p : Parameters) (names : List String) : Nat := (names.map p.pluggedMib).sum

def modules (p : Parameters) (names : List String) : Nat := names.countP p.IsModule

@[simp]
theorem pluggedMib_nil (p : Parameters) : pluggedMib p [] = 0 := rfl

@[simp]
theorem pluggedMib_cons (p : Parameters) (name : String) (names : List String) :
    pluggedMib p (name :: names) = p.pluggedMib name + pluggedMib p names := rfl

@[simp]
theorem modules_nil (p : Parameters) : modules p [] = 0 := rfl

@[simp]
theorem modules_cons (p : Parameters) (name : String) (names : List String) :
    modules p (name :: names) = modules p names + if p.IsModule name then 1 else 0 := by
  simp [modules, List.countP_cons]

/-- Base memory of a certain size and all memory that is plugged in are more than a number of 64
bits can tell, or the modules are more than one of 32 bits can. -/
def Exceeds (p : Parameters) (sizeMib : UInt64) : Prop :=
  UInt64.size ≤ sizeMib.toNat + pluggedMib p (p.objects "mem_devs") ∨
    UInt32.size ≤ modules p (p.objects "mem_devs")

namespace Devices

/-- There is no room for the memory devices of some names in the numbers of those before. -/
def Overfull (p : Parameters) (ds : Devices) (names : List String) : Prop :=
  UInt64.size ≤ ds.totalMib.toNat + pluggedMib p names ∨
    UInt32.size ≤ ds.slots.toNat + modules p names

structure Adds (p : Parameters) (ds : Devices) (names : List String) (ds' : Devices) : Prop where
  count : ds'.list.length = ds.list.length + names.length
  total : ds'.totalMib.toNat = ds.totalMib.toNat + pluggedMib p names
  slots : ds'.slots.toNat = ds.slots.toNat + modules p names

variable {p : Parameters} {ds ds' ds'' : Devices} {name : String} {names : List String}

theorem Overfull.cons (h : ds.Overfull p [name]) : ds.Overfull p (name :: names) := by
  simp only [Overfull, pluggedMib_cons, pluggedMib_nil, modules_cons, modules_nil] at *
  omega

theorem Adds.overfull (h : ds.Adds p [name] ds') (hnames : ds'.Overfull p names) :
    ds.Overfull p (name :: names) := by
  have htotal := h.total
  have hslots := h.slots
  simp only [Overfull, pluggedMib_cons, pluggedMib_nil, modules_cons, modules_nil] at *
  omega

theorem Adds.trans (h : ds.Adds p [name] ds') (h' : ds'.Adds p names ds'') :
    ds.Adds p (name :: names) ds'' where
  count := by
    rw [h'.count, h.count, List.length_singleton, List.length_cons]
    omega
  total := by
    rw [h'.total, h.total, pluggedMib_cons, pluggedMib_cons, pluggedMib_nil]
    omega
  slots := by
    rw [h'.slots, h.slots, modules_cons, modules_cons, modules_nil]
    omega

end Devices

/-! ## One device -/

section Steps

variable {m : Type → Type}

theorem settled_addSizes (a b : UInt64) :
    Settled (UInt64.size ≤ a.toNat + b.toNat) (fun sum => sum.toNat = a.toNat + b.toNat)
      (addSizes a b) := by
  refine ⟨fun h => ?_, toNat_addSizes a b⟩
  unfold addSizes at h
  split at h
  · cases h
  · exact Nat.le_of_not_lt ‹_›

theorem settled_nextSlot (slot : UInt32) :
    Settled (UInt32.size ≤ slot.toNat + 1) (fun next => next.toNat = slot.toNat + 1)
      (nextSlot slot) := by
  refine ⟨fun h => ?_, toNat_nextSlot slot⟩
  unfold nextSlot at h
  split at h
  · cases h
  · exact Nat.le_of_not_lt ‹_›

theorem settled_deviceParts (name : String) (p : Parameters) (t : Target m) (sizeMib : UInt64)
    (pmem : Bool) (slot : UInt32) :
    Settled (UInt32.size ≤ slot.toNat + modules p [name])
      (fun r => r.2.2.2.toNat = slot.toNat + modules p [name])
      (deviceParts name (p.scopedTo name) t sizeMib pmem slot) := by
  unfold deviceParts
  split
  · next h =>
    have hmodules : modules p [name] = 1 := by simp [modules, Parameters.IsModule, h]
    rw [hmodules]
    refine .bind (.parameters _) fun backend _ => .bind (settled_nextSlot slot) fun next hnext => ?_
    exact .ret hnext
  · next h =>
    have hmodules : modules p [name] = 0 := by simp [modules, Parameters.IsModule, h]
    rw [hmodules]
    refine .refused nofun (.bind (.parameters _) fun backend _ => ?_)
    exact .bind (.parameters _) fun node _ => .ret rfl
  · exact .fail nofun

end Steps

variable {m : Type → Type} [Monad m] [LawfulMonad m] {G : Guarantee m} {t : Target m}
  (hG : G.Total)

include hG

theorem settled_addDevice (p : Parameters) (ds : Devices) (name : String) :
    G.Holds (addDevice p t ds name).run
      (Settled (ds.Overfull p [name]) (ds.Adds p [name])) := by
  refine settled_bind_parameters fun sizeMib hsize => ?_
  cases sizeMib with
  | none => exact G.ret (.fail nofun)
  | some sizeMib =>
    have hplugged : pluggedMib p [name] = sizeMib.toNat := by
      simp [pluggedMib, Parameters.pluggedMib, hsize]
    refine settled_bind_parameters fun pmem _ => ?_
    refine settled_bind_attempt ((settled_deviceParts name p t sizeMib pmem ds.slots).mono .inr
      fun _ h => h) fun (backend, node, bus, slots) _ hslots => ?_
    refine settled_bind (overflowsOnly_requireObject hG t _) fun _ => ?_
    refine settled_bind (overflowsOnly_requireDevice hG t _) fun _ => ?_
    refine settled_bind_attempt ((settled_addSizes ds.totalMib sizeMib).mono
      (fun h => .inl (hplugged ▸ h)) fun _ h => h) fun totalMib _ htotal => ?_
    exact G.ret (.ret ⟨by simp, hplugged ▸ htotal, hslots⟩)

/-- All memory devices of a list are added, one after the other, as long as there is room. -/
theorem settled_devices (p : Parameters) (names : List String) (ds : Devices) :
    G.Holds (names.foldlM (addDevice p t) ds).run
      (Settled (ds.Overfull p names) (ds.Adds p names)) := by
  induction names generalizing ds with
  | nil => exact G.ret (.ret ⟨rfl, rfl, rfl⟩)
  | cons name names ih =>
    rw [List.foldlM_cons]
    refine run_bind_holds (settled_addDevice hG p ds name) (fun e h => ?_) fun ds' => ?_
    · exact ⟨fun he => (h.1 (congrArg _ (Except.error.inj he))).cons, fun _ hb => nomatch hb⟩
    · refine G.mono (ih ds') fun r hr h => hr.mono (fun hnames => ?_) fun ds'' hds'' => ?_
      · exact (h.2 ds' rfl).overfull hnames
      · exact (h.2 ds' rfl).trans hds''

/-! ## The whole memory -/

omit hG in
theorem settled_limitFor {α : Type} [LT α] [DecidableLT α] {C : Prop} (needed default : α)
    {refusal : α → CompileError} (hrefusal : ∀ a, refusal a ≠ .overflow) (given : Option α) :
    Settled C (fun _ => True) (limitFor needed default refusal given) := by
  cases given with
  | none => exact .ret trivial
  | some given =>
    dsimp only [limitFor]
    split
    · exact .fail (hrefusal given)
    · exact .ret trivial

omit hG in
theorem settled_limits (p : Parameters) (sizeMib : UInt64) (ds : Devices) :
    Settled (UInt64.size ≤ sizeMib.toNat + ds.totalMib.toNat)
      (fun _ => ds.list ≠ [] → sizeMib.toNat + ds.totalMib.toNat < UInt64.size)
      (limits p sizeMib ds) := by
  rw [limits_eq]
  refine .bind (.parameters _) fun maxmem _ => .bind (.parameters _) fun slots _ => ?_
  split
  · next h => exact .ret fun hne => absurd (List.isEmpty_iff.1 h) hne
  · refine .bind (settled_addSizes sizeMib ds.totalMib) fun needed hneeded => ?_
    refine .bind (settled_limitFor _ _ nofun _) fun _ _ => ?_
    refine .bind (settled_limitFor _ _ nofun _) fun _ _ => ?_
    exact .ret fun _ => hneeded ▸ needed.toNat_lt_size

omit hG in
theorem settled_size {C : Prop} (p : Parameters) (hostMib : UInt64) :
    Settled C (fun _ => True) (size p hostMib) := by
  have hrequested : Settled C (fun _ => True) (requestedSize p hostMib) := by
    unfold requestedSize
    split
    · refine .bind (.parameters _) fun ratio _ => ?_
      dsimp only
      split
      · exact .ret trivial
      · exact .fail nofun
    · exact .bind (.parameters _) fun given _ => .ret trivial
  refine .bind hrequested fun requested _ => .bind (.parameters _) fun limit _ => ?_
  exact .bind (.parameters _) fun minimum _ => .refused nofun (.ret trivial)

theorem overflowsOnly_baseMemory {C : Prop} (p : Parameters) (sizeMib : UInt64) :
    G.OverflowsOnly C (baseMemory p t sizeMib) := by
  refine overflowsOnly_bind (overflowsOnly_parameters _) fun kind => ?_
  cases kind with
  | none => exact overflowsOnly_pure _
  | some kind =>
    refine overflowsOnly_bind (overflowsOnly_parameters _) fun share => ?_
    refine overflowsOnly_bind (overflowsOnly_parameters _) fun prealloc => ?_
    refine overflowsOnly_bind (overflowsOnly_lift hG _) fun b => ?_
    cases b with
    | true =>
      exact overflowsOnly_bind (overflowsOnly_requireObject hG t _) fun _ => overflowsOnly_pure _
    | false =>
      cases kind with
      | memfd _ => exact overflowsOnly_throw nofun
      | _ => exact overflowsOnly_pure _

omit hG in
/-- Devices whose numbers are known are in range, and so is what comes to the base memory. -/
theorem not_exceeds {p : Parameters} {sizeMib : UInt64} {ds : Devices}
    (hadds : Devices.Adds p ⟨[], false, 0, 0⟩ (p.objects "mem_devs") ds)
    (hroom : ds.list ≠ [] → sizeMib.toNat + ds.totalMib.toNat < UInt64.size) :
    ¬ Exceeds p sizeMib := by
  have htotal : ds.totalMib.toNat = pluggedMib p (p.objects "mem_devs") := by
    simpa using hadds.total
  have hslots : ds.slots.toNat = modules p (p.objects "mem_devs") := by simpa using hadds.slots
  rintro (hlarge | hlarge)
  · rw [← htotal] at hlarge
    by_cases hnil : ds.list = []
    · have hcount := hadds.count
      rw [hnil] at hcount
      have hnames : p.objects "mem_devs" = [] :=
        List.length_eq_zero_iff.1 (by simpa using hcount.symm)
      rw [htotal, hnames, pluggedMib_nil] at hlarge
      exact absurd hlarge (Nat.not_le.2 sizeMib.toNat_lt_size)
    · exact absurd hlarge (Nat.not_le.2 (hroom hnil))
  · exact absurd (hslots ▸ hlarge) (Nat.not_le.2 ds.slots.toNat_lt_size)

/-- The numbers of a memory plan are in range unless the parameters exceed it. -/
theorem settled_build (p : Parameters) (hostMib : UInt64) :
    G.Holds (build p t hostMib).run
      (Settled (∃ sizeMib, size p hostMib = .ok sizeMib ∧ Exceeds p sizeMib)
        fun _ => ¬ ∃ sizeMib, size p hostMib = .ok sizeMib ∧ Exceeds p sizeMib) := by
  refine settled_bind_attempt (settled_size p hostMib) fun sizeMib hsize _ => ?_
  have hexceeds : (∃ sizeMib, size p hostMib = .ok sizeMib ∧ Exceeds p sizeMib) ↔
      Exceeds p sizeMib := by simp [hsize]
  rw [hexceeds]
  refine settled_bind (overflowsOnly_baseMemory hG p sizeMib) fun (backend, legacy) => ?_
  refine run_bind_holds (settled_devices hG p _ _) (fun e h => ?_) fun ds => ?_
  · refine ⟨fun he => ?_, fun _ hb => nomatch hb⟩
    refine (h.1 (congrArg _ (Except.error.inj he))).imp (fun hmib => ?_) fun hslots => ?_
    · exact hmib.trans (by simp)
    · simpa using hslots
  · refine G.mono (settled_bind_attempt
      (Q := fun _ => ds.list ≠ [] → sizeMib.toNat + ds.totalMib.toNat < UInt64.size)
      (settled_limits p sizeMib ds) fun _ _ hroom => G.ret (.ret hroom)) fun r hr h => ?_
    have hadds := h.2 ds rfl
    refine hr.mono (fun hlarge => .inl ?_) fun _ => not_exceeds hadds
    simpa [hadds.total] using hlarge

end MemoryPlan

end GuestSpec
