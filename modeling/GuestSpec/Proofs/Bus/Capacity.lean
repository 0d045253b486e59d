import GuestSpec.Proofs.Bus.Places
import GuestSpec.Proofs.Bus.Slots

/-!
# Capacity

The capacity that is published for a bus is the number of its places. A bus other than a PCI bus
never has more coordinates taken than that. A PCI bus publishes its slots, but up to seven functions
of a slot can be taken, so that more coordinates may be taken than it publishes; each function that
shares a slot has to be made up for by a slot that is vacant.
-/

namespace GuestSpec

open Alloc BusAllocator

/-- No two functions of a PCI slot are taken on any bus. -/
def BusAllocator.Unshared (a : BusAllocator) : Prop := ∀ n ∈ a.buses, n.Unshared

/-- A call that asks for a function of a PCI slot of which another function is taken, and that
nobody stands in the way of. -/
def BusCall.Joins (a : BusAllocator) (call : BusCall) : Prop :=
  ∃ p n, call.asked a.family = some p ∧ a.node? p.bus = some n ∧
    n.shape.contains p.coordinate = true ∧ n.holder? p.coordinate = none ∧
    n.isFree p.coordinate = false

namespace BusAllocator.Unshared

variable {a b : BusAllocator} {part : Part}

theorem start (family : MachineFamily) (machine : String) (config : AllocatorConfig) :
    (BusAllocator.start family machine config).Unshared := by
  have hslots : ∀ family, ∀ n ∈ builtInBuses family, (n.taken.map (·.coordinate.whole)).Nodup := by
    decide
  exact hslots family

theorem granted {ask : Option Placement} {owner : String} {p : Placement} (h : a.Unshared)
    (hg : Granted ask a owner p b)
    (hask : ∀ n, ask = some p → a.node? p.bus = some n →
      n.shape.contains p.coordinate = true → n.holder? p.coordinate = none →
      n.isFree p.coordinate = true) : b.Unshared := by
  obtain ⟨n, hn, hcontains, hholder, hfree, rfl⟩ := hg
  have hfree : n.isFree p.coordinate = true :=
    hfree.elim (fun h => h) fun h => hask n h hn hcontains hholder
  intro m hm
  obtain hm | ⟨k, hk, rfl⟩ := mem_updateFirst hm
  · exact h m hm
  · obtain rfl : n = k := Option.some.inj (hn.symm.trans hk)
    exact (h n (mem_of_node? hn)).claim hfree

theorem install (h : a.Unshared) (placement : Option Placement) :
    (part.install a placement).Unshared := by
  intro n hn
  rw [Part.buses_install] at hn
  obtain hn | hn := List.mem_append.1 hn
  · exact h n hn
  · rw [BusNode.Unshared]
    obtain htaken | htaken := Part.taken_of_mem_nodes hn
    · rw [htaken]
      exact List.nodup_nil
    · rw [htaken]
      exact List.nodup_singleton _

end BusAllocator.Unshared

theorem BusCall.Effect.unshared {a b : BusAllocator} {call : BusCall} {grant : Option Grant}
    (h : call.Effect a b grant) (ha : a.Unshared) (hcall : ¬call.Joins a) : b.Unshared := by
  refine h.preserves_asked (fun _ _ _ _ hg h => h.granted hg nofun)
    (fun _ _ placement h => h.install placement) (fun owner p b hg => ha.granted hg ?_) ha
  intro n hask hn hcontains hholder
  by_contra hfree
  exact hcall ⟨p, n, hask, hn, hcontains, hholder, by simpa using hfree⟩

/-! ## Buses that are not shared -/

namespace BusNode

variable {controllers : List Controller} {n : BusNode}

theorem Published.unshared_of_not_pci (h : n.Published controllers)
    (hinside : ∀ d ∈ n.taken, n.shape.contains d.coordinate = true)
    (hnodup : (n.taken.map Claim.coordinate).Nodup) (hkind : n.bus.kind.isPci = false) :
    n.Unshared := by
  have hwhole : n.taken.map (·.coordinate.whole) = n.taken.map Claim.coordinate := by
    refine List.map_congr_left fun d hd => ?_
    have haccepts := h.accepts (hinside d hd)
    cases hd : d.coordinate with
    | pci addr =>
      rw [hd] at haccepts
      rw [haccepts.1] at hkind
      cases hkind
    | _ => rfl
  rwa [Unshared, hwhole]

/-- A bus has more coordinates taken than it publishes exactly when more functions share a slot than
places are vacant. -/
theorem Published.length_le_capacity_iff (h : n.Published controllers)
    (hinside : ∀ d ∈ n.taken, n.shape.contains d.coordinate = true) :
    n.taken.length ≤ n.bus.capacity.toNat ↔ n.shared ≤ n.vacant.length := by
  have hplaces := n.length_occupied_add_vacant
  have hle := length_occupied_le hinside
  rw [h.capacity, shared]
  omega

theorem Unshared.shared_eq_zero (h : n.Unshared)
    (hinside : ∀ d ∈ n.taken, n.shape.contains d.coordinate = true) : n.shared = 0 :=
  Nat.sub_eq_zero_of_le (h.length_le hinside)

end BusNode

section Run

variable (family : MachineFamily) (machine : String) (config : AllocatorConfig)

theorem unshared_of_not_joins (calls : List BusCall)
    (h : ∀ pre call post, calls = pre ++ call :: post →
      ¬call.Joins ((start family machine config).afterAll pre)) :
    ((start family machine config).afterAll calls).Unshared := by
  induction calls using List.reverseRecOn with
  | nil => exact Unshared.start family machine config
  | append_singleton pre call ih =>
    rw [afterAll_append]
    have hpre := ih fun p c q hq => h p c (q ++ [call]) (by simp [hq])
    exact (call.effect (grounded_run family machine config pre)).unshared hpre (h pre call [] rfl)

/-- What the capacity of a bus bounds. After any calls the coordinates that are taken on a bus are
different, and the places that are occupied and those that are vacant make up its capacity. No more
coordinates are taken than the capacity says exactly as long as no more functions share PCI slots
than places are vacant. On buses other than PCI buses nothing is shared, and on all buses the
capacity is kept as long as nobody asks for a function of a slot of which another function is
taken. -/
theorem length_taken_le_capacity_iff (calls : List BusCall) :
    let s := start family machine config
    (∀ n ∈ (s.afterAll calls).buses, (n.taken.map Claim.coordinate).Nodup ∧
      n.occupied.length + n.vacant.length = n.bus.capacity.toNat ∧
      (n.taken.length ≤ n.bus.capacity.toNat ↔ n.shared ≤ n.vacant.length) ∧
      (n.bus.kind.isPci = false → n.shared = 0)) ∧
    ((∀ pre call post, calls = pre ++ call :: post → ¬call.Joins (s.afterAll pre)) →
      ∀ n ∈ (s.afterAll calls).buses, n.taken.length ≤ n.bus.capacity.toNat) := by
  intro s
  have hlaidOut : (s.afterAll calls).LaidOut := laidOut_run family machine config calls
  have hexclusive : (s.afterAll calls).Exclusive := exclusive_run family machine config calls
  refine ⟨fun n hn => ?_, fun hjoins n hn => ?_⟩
  · have hpublished := hlaidOut.published n hn
    have hinside := hlaidOut.inside n hn
    have hnodup := hexclusive.coordinates n hn
    refine ⟨hnodup, ?_, hpublished.length_le_capacity_iff hinside, fun hkind => ?_⟩
    · rw [hpublished.capacity]
      exact n.length_occupied_add_vacant
    · exact (hpublished.unshared_of_not_pci hinside hnodup hkind).shared_eq_zero hinside
  · have hunshared : (s.afterAll calls).Unshared :=
      unshared_of_not_joins family machine config calls hjoins
    rw [(hlaidOut.published n hn).length_le_capacity_iff (hlaidOut.inside n hn),
      (hunshared n hn).shared_eq_zero (hlaidOut.inside n hn)]
    exact Nat.zero_le _

end Run

/-- A device that asks for a function of a slot nobody uses does not join others, and neither does
one that asks for nothing. -/
theorem length_taken_le_capacity_two :
    let s := start .q35 "q35" ⟨false, false, none, none⟩
    let hint := { PlacementHint.empty with pciAddr := some ⟨2, 1⟩ }
    let calls := [BusCall.place "nic" (.pci .integrated) hint,
      .place "card" (.pci .integrated) .empty]
    (∀ pre call post, calls = pre ++ call :: post → ¬call.Joins (s.afterAll pre)) ∧
      ∀ n ∈ (s.afterAll calls).buses, n.taken.length ≤ n.bus.capacity.toNat := by
  intro s hint calls
  have hjoins : ∀ pre call post, calls = pre ++ call :: post → ¬call.Joins (s.afterAll pre) := by
    intro pre call post h
    obtain _ | ⟨first, _ | ⟨second, pre⟩⟩ := pre
    · obtain ⟨rfl, -⟩ := List.cons.inj h
      rintro ⟨p, n, hask, hn, -, -, hfree⟩
      obtain rfl := Option.some.inj hask
      have hstart : (s.node? "pcie.0").map (·.isFree (.pci ⟨2, 1⟩)) = some true := by
        decide +kernel
      change s.node? "pcie.0" = some n at hn
      rw [hn] at hstart
      cases hfree.symm.trans (Option.some.inj hstart)
    · obtain ⟨-, h⟩ := List.cons.inj h
      obtain ⟨rfl, -⟩ := List.cons.inj h
      rintro ⟨p, n, hask, -⟩
      cases (PlacementHint.asked_empty _).symm.trans hask
    · have hlength := congrArg List.length h
      simp [calls] at hlength
  have h := length_taken_le_capacity_iff .q35 "q35" ⟨false, false, none, none⟩ calls
  exact ⟨hjoins, h.2 hjoins⟩

/-- Four functions of slot 2 are asked for, and devices fill the slots that are left: 33 coordinates
are given out on a bus that publishes 32. -/
theorem exists_capacity_lt_length_taken :
    let hint := fun f => { PlacementHint.empty with pciAddr := some ⟨2, f⟩ }
    let calls := [1, 2, 3, 4].map (fun f => BusCall.place "nic" (.pci .integrated) (hint f)) ++
      List.replicate 29 (.place "card" (.pci .integrated) .empty)
    ∃ n ∈ ((start .q35 "q35" ⟨false, false, none, none⟩).afterAll calls).buses,
      n.bus.capacity.toNat < n.claims.length ∧ n.bus.capacity.toNat < n.taken.length := by
  decide +kernel

end GuestSpec
