import GuestSpec.Machine.Board
import GuestSpec.Proofs.Storage.Backend
import GuestSpec.Proofs.Oracle.Guarantee
import GuestSpec.Proofs.Topology.Solved

/-!
# Planned boards

The flash images of UEFI firmware are in the form that the hypervisor has for all images, the
machine names them exactly when they are chains of nodes, and the processors have the dimensions
that the hypervisor has.
-/

namespace GuestSpec

def Firmware.flash : Firmware → List FlashImage
  | .uefi code vars _ => [code, vars]
  | _ => []

def Firmware.isLayeredUefi : Firmware → Bool
  | .uefi code vars _ => code.backend.isLayered && vars.backend.isLayered
  | _ => false

/-- A machine names the nodes of its firmware's flash images, which it does exactly when they are
chains of nodes. -/
structure Machine.FlashedWith (f : Firmware) (machine : Machine) : Prop where
  code : ∀ node, machine.pflash0 = some node → ∃ code vars secureBoot,
    f = .uefi code vars secureBoot ∧ code.backend.top? = some node
  vars : ∀ node, machine.pflash1 = some node → ∃ code vars secureBoot,
    f = .uefi code vars secureBoot ∧ vars.backend.top? = some node
  code_isSome : machine.pflash0.isSome = f.isLayeredUefi
  vars_isSome : machine.pflash1.isSome = f.isLayeredUefi

/-- What holds of planned firmware when all answers are possible ones. Its backends name no groups
and no secrets. -/
structure Firmware.Planned (K : Findings) (f : Firmware) : Prop where
  layered : ∀ i ∈ f.flash, K.allows (.probe .blockdev) i.backend.isLayered
  alike : ∀ i ∈ f.flash, ∀ j ∈ f.flash, i.backend.isLayered = j.backend.isLayered
  top : ∀ i ∈ f.flash, i.backend.top?.isSome = true
  throttleGroups : ∀ i ∈ f.flash, i.backend.throttleGroups = []
  keySecrets : ∀ i ∈ f.flash, i.backend.keySecrets = []

/-- The processors have a further dimension exactly when there is one. -/
structure Cpu.Planned (K : Findings) (c : Cpu) : Prop where
  dies : K.allows (.probe .smpDies) c.topology.dies.isSome
  clusters : K.allows (.probe .smpClusters) c.topology.clusters.isSome
  books : K.allows (.probe .smpBooks) c.topology.books.isSome
  drawers : K.allows (.probe .smpDrawers) c.topology.drawers.isSome

namespace Storage

variable {id path : String} {readOnly : Bool} {number : UInt8} {layered : Bool}

theorem isLayered_flashBackend :
    (flashBackend id path readOnly number layered).isLayered = layered := by
  cases layered <;> rfl

theorem top?_flashBackend : (flashBackend id path readOnly number layered).top? = some id := by
  cases layered <;> rfl

theorem throttleGroups_flashBackend :
    (flashBackend id path readOnly number layered).throttleGroups = [] := by
  cases layered <;> rfl

theorem keySecrets_flashBackend :
    (flashBackend id path readOnly number layered).keySecrets = [] := by
  cases layered <;> rfl

end Storage

namespace Board

open Guarantee Storage

theorem planned_of_flashBackend {K : Findings} {f : Firmware} {layered : Bool}
    (h : K.allows (.probe .blockdev) layered)
    (hf : ∀ i ∈ f.flash, ∃ id path readOnly number,
      i.backend = flashBackend id path readOnly number layered) : f.Planned K where
  layered i hi := by
    obtain ⟨_, _, _, _, hb⟩ := hf i hi
    rwa [hb, isLayered_flashBackend]
  alike i hi j hj := by
    obtain ⟨_, _, _, _, hb⟩ := hf i hi
    obtain ⟨_, _, _, _, hb'⟩ := hf j hj
    rw [hb, hb', isLayered_flashBackend, isLayered_flashBackend]
  top i hi := by
    obtain ⟨_, _, _, _, hb⟩ := hf i hi
    rw [hb, top?_flashBackend, Option.isSome_some]
  throttleGroups i hi := by
    obtain ⟨_, _, _, _, hb⟩ := hf i hi
    rw [hb, throttleGroups_flashBackend]
  keySecrets i hi := by
    obtain ⟨_, _, _, _, hb⟩ := hf i hi
    rw [hb, keySecrets_flashBackend]

theorem flashedWith_of_none {f : Firmware} {r : Machine} (hf : f.isLayeredUefi = false)
    (h0 : r.pflash0 = none) (h1 : r.pflash1 = none) : r.FlashedWith f where
  code node hn := nomatch h0.symm.trans hn
  vars node hn := nomatch h1.symm.trans hn
  code_isSome := by rw [h0, hf]; rfl
  vars_isSome := by rw [h1, hf]; rfl

theorem flashedWith_of_flashNodes {K : Findings} {f : Firmware} {r : Machine} (hf : f.Planned K)
    (h : flashNodes f = (r.pflash0, r.pflash1)) : r.FlashedWith f := by
  cases f with
  | uefi code vars secureBoot =>
    have hcode : code ∈ (Firmware.uefi code vars secureBoot).flash := List.mem_cons_self
    have hvars : vars ∈ (Firmware.uefi code vars secureBoot).flash :=
      List.mem_cons_of_mem _ List.mem_cons_self
    have halike := hf.alike code hcode vars hvars
    cases hl : code.backend.isLayered with
    | true =>
      rw [flashNodes, if_pos hl] at h
      obtain ⟨h0, h1⟩ := Prod.mk.inj h
      have huefi : (Firmware.uefi code vars secureBoot).isLayeredUefi = true := by
        rw [Firmware.isLayeredUefi, ← halike, hl, Bool.and_self]
      exact {
        code := fun node hn => ⟨code, vars, secureBoot, rfl, h0.trans hn⟩
        vars := fun node hn => ⟨code, vars, secureBoot, rfl, h1.trans hn⟩
        code_isSome := by rw [← h0, hf.top code hcode, huefi]
        vars_isSome := by rw [← h1, hf.top vars hvars, huefi] }
    | false =>
      rw [flashNodes, if_neg (by simp [hl])] at h
      obtain ⟨h0, h1⟩ := Prod.mk.inj h
      refine flashedWith_of_none ?_ h0.symm h1.symm
      rw [Firmware.isLayeredUefi, hl, Bool.false_and]
  | _ =>
    obtain ⟨h0, h1⟩ := Prod.mk.inj h
    exact flashedWith_of_none rfl h0.symm h1.symm

theorem flashNodes_of_machine {m : Type → Type} (p : Parameters) (t : Target m) (f : Firmware) :
    attempt.Holds (machine p t f) fun r =>
      r.family = t.family ∧ flashNodes f = (r.pflash0, r.pflash1) := by
  refine attempt.bind attempt_trivial fun smm => ?_
  split
  · exact fun _ h => nomatch h
  · exact attempt.bind attempt_trivial fun extra => attempt.ret fun _ _ => ⟨rfl, rfl⟩

variable {m : Type → Type} [Monad m] {G : Guarantee m} {t : Target m} {K : Findings}
  (hK : G.Finds t.oracle K)

include hK

theorem holds_rules (hotplugWholeCores : Bool) :
    G.Holds (Topology.Rules.ofOracle t.oracle hotplugWholeCores) fun r =>
      K.allows (.probe .smpDies) r.dies ∧ K.allows (.probe .smpClusters) r.clusters ∧
        K.allows (.probe .smpBooks) r.books ∧ K.allows (.probe .smpDrawers) r.drawers := by
  refine G.bind (hK (.probe .smpDies)) fun dies => ?_
  refine G.bind (hK (.probe .smpClusters)) fun clusters => ?_
  refine G.bind (hK (.probe .smpBooks)) fun books => ?_
  refine G.bind (hK (.probe .smpDrawers)) fun drawers => ?_
  refine G.bind (hK (.probe .smpPreferCores)) fun preferCores => ?_
  exact G.ret fun _ hdrawers hbooks hclusters hdies => ⟨hdies, hclusters, hbooks, hdrawers⟩

variable [LawfulMonad m]

theorem holds_uefi (p : Parameters) : G.build.Holds (uefi p t) fun f => f.Planned K := by
  refine G.build.bind (holds_probe hK _) fun layered => ?_
  refine G.bind_parameters fun secureBoot _ => G.build.ret fun hlayered => ?_
  refine planned_of_flashBackend hlayered fun i hi => ?_
  obtain rfl | hi := List.mem_cons.1 hi
  · exact ⟨_, _, _, _, rfl⟩
  · obtain rfl := List.mem_singleton.1 hi
    exact ⟨_, _, _, _, rfl⟩

theorem holds_firmware (p : Parameters) : G.build.Holds (firmware p t) fun f => f.Planned K := by
  have hother : ∀ f : Firmware, f.flash = [] → f.Planned K := by
    intro f hf
    constructor
    all_goals
      rw [hf]
      exact fun _ h => nomatch h
  unfold firmware
  dsimp only
  split
  · exact G.build.ret (hother _ rfl)
  · split
    · exact holds_uefi hK p
    · split
      · exact G.except_throw
      · split
        · exact G.build.ret (hother _ rfl)
        · exact G.except_throw

theorem holds_cpu (p : Parameters) : G.build.Holds (cpu p t) fun c => c.Planned K := by
  refine G.bind_parameters fun request hrequest => ?_
  refine G.build.bind (G.except_lift (holds_rules hK _)) fun rules => ?_
  split
  · exact G.except_throw
  · next topology hsolve =>
    refine G.build.ret fun hrules => ?_
    have hsome := Topology.isSome_size?_of_solve
      (Topology.Request.proper_of_ofParameters hrequest) hsolve
    have hdim : ∀ c d, K.allows (.probe c) (rules.allows d) →
        K.allows (.probe c) (topology.size? d).isSome := by
      intro c d h
      rw [hsome d]
      exact h
    exact ⟨hdim _ .dies hrules.1, hdim _ .clusters hrules.2.1, hdim _ .books hrules.2.2.1,
      hdim _ .drawers hrules.2.2.2⟩

end Board

end GuestSpec
