import GuestSpec.Capability.Set
import GuestSpec.Proofs.Version.Order
import GuestSpec.Topology

/-!
# Newer hypervisors

A hypervisor that has all that another one has, and is not older, has all its capabilities: every
interval that shows a capability is open above, and the order of versions is transitive.
-/

namespace GuestSpec

open Version

namespace Capability

variable {c : Capability} {i : Interval}

theorem upper_of_gate (h : c.gate = .version i) : i.upper = none := by
  cases c <;> cases h <;> rfl

end Capability

namespace CapabilitySet

/-- A set has no more than another, and it is not newer. An unknown version is the least. -/
structure AtMost (a b : CapabilitySet) : Prop where
  flags : a.flags ⊆ b.flags
  devices : a.devices ⊆ b.devices
  version : ∀ v, a.version = some v → ∃ w, b.version = some w ∧ (compare v w).isLE

variable {a b : CapabilitySet} {c : Capability}

theorem AtMost.containsKnown (h : a.AtMost b) {i : Interval} (hi : i.upper = none)
    (ha : i.containsKnown a.version = true) : i.containsKnown b.version = true := by
  cases hv : a.version with
  | none =>
    rw [hv] at ha
    cases ha
  | some v =>
    obtain ⟨w, hw, hvw⟩ := h.version v hv
    rw [hv] at ha
    rw [hw]
    exact Interval.contains_mono hi hvw ha

theorem AtMost.derives (h : a.AtMost b) (ha : a.derives c = true) : b.derives c = true := by
  unfold CapabilitySet.derives at ha ⊢
  cases hgate : c.gate with
  | help word =>
    rw [hgate] at ha
    cases ha
  | version i =>
    rw [hgate] at ha
    exact h.containsKnown (Capability.upper_of_gate hgate) ha
  | device name =>
    rw [hgate] at ha
    exact List.contains_iff_mem.2 (h.devices (List.contains_iff_mem.1 ha))

theorem AtMost.has (h : a.AtMost b) (ha : a.has c = true) : b.has c = true := by
  unfold CapabilitySet.has at ha ⊢
  rw [Bool.or_eq_true] at ha ⊢
  refine ha.imp (fun hflag => ?_) h.derives
  exact List.contains_iff_mem.2 (h.flags (List.contains_iff_mem.1 hflag))

/-- No capability is lost when a hypervisor gets more flags and devices or a later version, and with
them the preference of processors for cores stays. -/
theorem probe_of_atMost (h : a.AtMost b) :
    (∀ c, (a.oracle : Oracle Id).probe c = true → (b.oracle : Oracle Id).probe c = true) ∧
      ∀ w w', (Topology.Rules.ofOracle (m := Id) a.oracle w).preferCores = true →
        (Topology.Rules.ofOracle (m := Id) b.oracle w').preferCores = true :=
  ⟨fun _ => h.has, fun _ _ => h.has⟩

/-- A release candidate and a later one. Both come before the release, and both are past the one
that brought the preference for cores. -/
theorem probe_of_atMost_candidates :
    let candidate (build : List String) (pre : List String) (hpre hbuild) : Version :=
      ⟨6, 2, 1, pre, build, hpre, hbuild⟩
    let a : CapabilitySet := ⟨some (candidate ["z"] ["rc", "9"] rfl rfl), [], ["VGA"], []⟩
    let b : CapabilitySet :=
      ⟨some (candidate [] ["rc", "10"] rfl rfl), [.blockdev], ["VGA", "ac97"], []⟩
    a.AtMost b ∧ (b.oracle : Oracle Id).probe .smpPreferCores = true := by
  intro candidate a b
  have h : a.AtMost b := by
    refine ⟨nofun, by decide, fun v hv => ⟨_, rfl, ?_⟩⟩
    rw [← Option.some.inj hv]
    decide +kernel
  have ha : a.has .smpPreferCores = true := by decide +kernel
  exact ⟨h, (probe_of_atMost h).1 .smpPreferCores ha⟩

end CapabilitySet

end GuestSpec
