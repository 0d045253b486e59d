import GuestSpec.Proofs.Bus.Insertion
import Mathlib.Data.Fintype.Card

/-!
# What the allocator relies on

The root complex is there, the root ports have different slots of it, and a flat chain has a bus.
All steps keep this. So the number of root ports is bounded by the slots of the root bus, and their
chassis numbers always fit.
-/

namespace GuestSpec

open Alloc

/-- The root complex is there, the root ports have different slots of it, and a flat chain has a
bus. -/
structure BusAllocator.Grounded (a : BusAllocator) : Prop where
  root : a.family.isExpress = true →
    ∃ n, a.node? a.family.rootBus = some n ∧ n.shape = .pciBus
  ports : ∃ slots : List (Fin 32), slots.Nodup ∧ slots.length = a.rootPorts ∧
    ∀ s ∈ slots, ∃ n, a.node? a.family.rootBus = some n ∧ n.slotTaken s = true
  chain : a.family.hasPci = true → a.family.isExpress = false → a.pciChain ≠ []

namespace BusAllocator.Grounded

variable {a b : BusAllocator} {part : Part}

theorem start (family : MachineFamily) (machine : String) (config : AllocatorConfig) :
    (BusAllocator.start family machine config).Grounded where
  root h := by
    cases family with
    | q35 => exact ⟨_, rfl, rfl⟩
    | armVirt mmio =>
      cases mmio with
      | false => exact ⟨_, rfl, rfl⟩
      | true => cases h
    | _ => cases h
  ports := ⟨[], List.nodup_nil, rfl, fun _ h => nomatch h⟩
  chain hp he := by
    cases family with
    | i440fx | pseries => exact List.cons_ne_nil _ _
    | armVirt mmio => cases mmio <;> contradiction
    | _ => contradiction

theorem rootPorts_le (h : a.Grounded) : a.rootPorts ≤ 32 := by
  obtain ⟨slots, hnodup, hlength, -⟩ := h.ports
  simpa [hlength] using hnodup.length_le_card

theorem slotTaken_of_prefix {n m : BusNode} {slot : Fin 32} (hr : m.reserved = n.reserved)
    (hc : n.claims <+: m.claims) (h : n.slotTaken slot = true) : m.slotTaken slot = true := by
  rw [BusNode.slotTaken_iff] at h ⊢
  obtain ⟨d, hd, hf⟩ := h
  refine ⟨d, ?_, hf⟩
  rw [BusNode.taken, List.mem_append] at hd ⊢
  exact hd.imp (hr ▸ ·) (hc.subset ·)

theorem slots_of_grows (hg : Grows a b) (hfam : b.family = a.family) {slots : List (Fin 32)}
    (h : ∀ s ∈ slots, ∃ n, a.node? a.family.rootBus = some n ∧ n.slotTaken s = true) :
    ∀ s ∈ slots, ∃ n, b.node? b.family.rootBus = some n ∧ n.slotTaken s = true := by
  intro s hs
  obtain ⟨n, hn, ht⟩ := h s hs
  obtain ⟨m, hm, -, -, hr, hc⟩ := hg _ n hn
  exact ⟨m, hfam ▸ hm, slotTaken_of_prefix hr hc ht⟩

theorem root_of_grows (hg : Grows a b) (hfam : b.family = a.family) (h : a.Grounded)
    (hx : b.family.isExpress = true) :
    ∃ n, b.node? b.family.rootBus = some n ∧ n.shape = .pciBus := by
  obtain ⟨n, hn, hshape⟩ := h.root (hfam ▸ hx)
  obtain ⟨m, hm, -, hshape', -⟩ := hg _ n hn
  exact ⟨m, hfam ▸ hm, hshape'.trans hshape⟩

theorem granted {ask : Option Placement} {owner : String} {p : Placement} (h : a.Grounded)
    (hg : Granted ask a owner p b) : b.Grounded := by
  have hgrows := Grows.granted hg
  obtain ⟨n, -, -, -, -, rfl⟩ := hg
  obtain ⟨slots, hnodup, hlength, hslots⟩ := h.ports
  exact ⟨h.root_of_grows hgrows rfl, ⟨slots, hnodup, hlength, slots_of_grows hgrows rfl hslots⟩,
    h.chain⟩

theorem seated {placement : Option Placement} (h : a.Grounded)
    (hs : Seated part a placement b) : b.Grounded :=
  hs.preserves h.granted h

theorem exists_slot_of_seated {placement : Option Placement} (h : a.Grounded)
    (hx : a.family.isExpress = true) (hs : Seated .rootPort a placement b) :
    ∃ slot n m, a.node? a.family.rootBus = some n ∧ n.slotTaken slot = false ∧
      b.node? b.family.rootBus = some m ∧ m.slotTaken slot = true := by
  cases placement with
  | none => cases hs.1
  | some p =>
    obtain ⟨bus, coordinate⟩ := p
    obtain ⟨-, rfl, n, hn, hc, -, hfree, rfl⟩ := hs
    obtain ⟨k, hk, hshape⟩ := h.root hx
    obtain rfl : n = k := Option.some.inj (hn.symm.trans hk)
    have hfree := hfree.resolve_right nofun
    cases coordinate with
    | pci addr =>
      refine ⟨addr.slot, n, n.claim (.pci addr) (Part.id a .rootPort), hn, ?_, ?_, ?_⟩
      · simpa [BusNode.isFree] using hfree
      · change (a.addClaim _ _ _).node? a.family.rootBus = _
        rw [BusAllocator.node?_addClaim, hn, Option.map_some, if_pos rfl]
      · rw [BusNode.slotTaken_iff, BusNode.taken_claim]
        exact ⟨_, List.mem_append_right _ List.mem_cons_self, addr.function, rfl⟩
    | _ =>
      rw [hshape] at hc
      cases hc

theorem ports_rootPort {placement : Option Placement} (h : a.Grounded)
    (hx : a.family.isExpress = true) (hs : Seated .rootPort a placement b) :
    ∃ slots : List (Fin 32), slots.Nodup ∧ slots.length = b.rootPorts + 1 ∧
      ∀ s ∈ slots, ∃ n, b.node? b.family.rootBus = some n ∧ n.slotTaken s = true := by
  obtain ⟨slot, n, m, hn, hfree, hm, htaken⟩ := h.exists_slot_of_seated hx hs
  obtain ⟨slots, hnodup, hlength, hslots⟩ := h.ports
  have hgrows := Grows.seated hs
  have hnew : slot ∉ slots := by
    intro hmem
    obtain ⟨k, hk, ht⟩ := hslots slot hmem
    rw [Option.some.inj (hk.symm.trans hn), hfree] at ht
    cases ht
  have hb := hs.eq_with
  refine ⟨slot :: slots, hnodup.cons hnew, ?_, ?_⟩
  · rw [List.length_cons, hlength, hb]
  · intro s hmem
    rcases List.mem_cons.1 hmem with rfl | hmem
    · exact ⟨m, hm, htaken⟩
    · exact slots_of_grows hgrows (by rw [hb]) hslots s hmem

theorem inserted (h : a.Grounded) (hdue : part.Admitted a) (hi : Inserted part a b) :
    b.Grounded := by
  have hgrows := Grows.inserted hi
  have hfam := hi.family_eq
  refine ⟨h.root_of_grows hgrows hfam, ?_, ?_⟩
  · obtain ⟨placement, c, hs, rfl⟩ := hi
    have hc := h.seated hs
    have hinst : Grows c (part.install c placement) := Grows.install placement
    by_cases hpart : part = .rootPort
    · subst hpart
      have hx : a.family.isExpress = true := by
        obtain hdue | ⟨_, _, _, _, hne⟩ := hdue
        · exact hdue.1
        · cases hne
      obtain ⟨slots, hnodup, hlength, hslots⟩ := h.ports_rootPort hx hs
      exact ⟨slots, hnodup, hlength, slots_of_grows hinst rfl hslots⟩
    · -- any other part leaves the number of root ports as it is
      obtain ⟨slots, hnodup, hlength, hslots⟩ := hc.ports
      refine ⟨slots, hnodup, ?_, slots_of_grows hinst part.family_install hslots⟩
      rw [hlength]
      cases part <;> first | rfl | exact absurd rfl hpart
  · intro hp hx
    rw [hfam] at hp hx
    have hchain := h.chain hp hx
    obtain ⟨placement, c, hs, rfl⟩ := hi
    rw [hs.eq_with]
    cases part with
    | pciBridge => exact List.append_ne_nil_of_right_ne_nil _ (List.cons_ne_nil _ _)
    | _ => exact hchain

theorem insertions {S : Part → Prop} (h : a.Grounded) (hi : Insertions S a b) : b.Grounded :=
  hi.induction (fun _ _ _ hdue hi ha => ha.inserted (.inl hdue) hi) h

end BusAllocator.Grounded

end GuestSpec
