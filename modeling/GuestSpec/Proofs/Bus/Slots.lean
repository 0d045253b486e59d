import GuestSpec.Proofs.Bus.Accounting
import GuestSpec.Proofs.Bus.Layout

/-!
# PCI slots that are taken as a whole

A device at function 0 of a PCI slot has the whole slot: nobody gets another function of it
afterwards, and the allocator itself gives out whole slots only. The rule breaks in the other order.
A caller who asks for function 0 by its address gets it although another function is taken.
-/

namespace GuestSpec

open Alloc BusAllocator

/-- No slot of which function 0 is taken has another function taken. -/
def BusNode.Whole (n : BusNode) : Prop :=
  ∀ slot f, f ≠ 0 → n.owner? (.pci ⟨slot, 0⟩) ≠ none → n.owner? (.pci ⟨slot, f⟩) = none

instance (n : BusNode) : Decidable n.Whole :=
  inferInstanceAs (Decidable (∀ slot f, f ≠ 0 → n.owner? (.pci ⟨slot, 0⟩) ≠ none →
    n.owner? (.pci ⟨slot, f⟩) = none))

def BusAllocator.Whole (a : BusAllocator) : Prop := ∀ n ∈ a.buses, n.Whole

instance (a : BusAllocator) : Decidable a.Whole :=
  inferInstanceAs (Decidable (∀ n ∈ a.buses, n.Whole))

/-- A call that asks for function 0 of a slot, on a PCI bus that has this slot, when function 0 is
free but another function of the slot is taken. -/
def BusCall.Overtakes (a : BusAllocator) (call : BusCall) : Prop :=
  ∃ bus slot n, call.asked a.family = some ⟨bus, .pci ⟨slot, 0⟩⟩ ∧ a.node? bus = some n ∧
    n.bus.kind.isPci = true ∧ n.shape.contains (.pci ⟨slot, 0⟩) = true ∧
    n.owner? (.pci ⟨slot, 0⟩) = none ∧ n.slotTaken slot = true

theorem MachineFamily.virtioTransport_of_hasPci :
    ∀ family : MachineFamily, family.hasPci = true → family.virtioTransport = .pci := by
  decide

namespace BusNode

variable {n : BusNode} {c : Coordinate} {owner : String}

theorem owner?_claim_eq_none_iff {d : Coordinate} :
    (n.claim c owner).owner? d = none ↔ n.owner? d = none ∧ c ≠ d := by
  rw [owner?_eq_none_iff, owner?_eq_none_iff, taken_claim, List.forall_mem_append,
    List.forall_mem_singleton]

theorem owner?_ne_none_of_slotTaken {slot : Fin 32} (h : n.slotTaken slot = true) :
    ∃ f, n.owner? (.pci ⟨slot, f⟩) ≠ none := by
  obtain ⟨d, hd, f, hf⟩ := slotTaken_iff.1 h
  exact ⟨f, fun hnone => owner?_eq_none_iff.1 hnone d hd hf⟩

theorem slotTaken_of_owner?_ne_none {slot : Fin 32} {f : Fin 8}
    (h : n.owner? (.pci ⟨slot, f⟩) ≠ none) : n.slotTaken slot = true := by
  by_contra hnot
  refine h (owner?_eq_none_iff.2 fun d hd hf => hnot ?_)
  exact slotTaken_iff.2 ⟨d, hd, f, hf⟩

theorem whole_of_zero (h : ∀ d ∈ n.taken, ∃ slot, d.coordinate = .pci ⟨slot, 0⟩) : n.Whole := by
  intro slot f hf _
  rw [owner?_eq_none_iff]
  intro d hd heq
  obtain ⟨slot', hd⟩ := h d hd
  exact hf (PciAddress.mk.inj (Coordinate.pci.inj (heq.symm.trans hd))).2

/-- A claim keeps slots whole unless it takes function 0 of a slot that is taken in part. -/
theorem Whole.claim (h : n.Whole) (hholder : n.holder? c = none)
    (hfree : ∀ slot, c = .pci ⟨slot, 0⟩ → n.slotTaken slot = false) :
    (n.claim c owner).Whole := by
  intro slot f hf hzero
  rw [owner?_claim_eq_none_iff]
  rw [ne_eq, owner?_claim_eq_none_iff, not_and_or, not_not] at hzero
  obtain hzero | rfl := hzero
  · -- function 0 was taken before, so the claim is in another slot
    refine ⟨h slot f hf hzero, ?_⟩
    rintro rfl
    exact hzero ((holder?_eq_none_iff.1 hholder).2 _ rfl)
  · -- the claim takes function 0, so all of the slot was free
    constructor
    · by_contra hne
      have := slotTaken_of_owner?_ne_none hne
      rw [hfree slot rfl] at this
      cases this
    · intro heq
      exact hf (PciAddress.mk.inj (Coordinate.pci.inj heq)).2.symm

end BusNode

theorem Grows.whole_of_node? {a b : BusAllocator} (hab : Grows a b) {bus : BusId} {n : BusNode}
    (hn : a.node? bus = some n) : ∃ m, b.node? bus = some m ∧ (m.Whole → n.Whole) := by
  obtain ⟨m, hm, -, -, hreserved, hclaims⟩ := hab bus n hn
  have hkept : ∀ c, m.owner? c = none → n.owner? c = none := by
    intro c hc
    rw [BusNode.owner?_eq_none_iff] at hc ⊢
    intro d hd
    apply hc d
    rw [BusNode.taken, List.mem_append] at hd ⊢
    exact hd.imp (hreserved ▸ ·) (hclaims.subset ·)
  exact ⟨m, hm, fun h slot f hf hzero => hkept _ (h slot f hf (mt (hkept _) hzero))⟩

namespace BusAllocator.Whole

variable {a b : BusAllocator} {part : Part}

theorem start (family : MachineFamily) (machine : String) (config : AllocatorConfig) :
    (BusAllocator.start family machine config).Whole := by
  change ∀ n ∈ builtInBuses family, n.Whole
  have hzero : ∀ family, ∀ n ∈ builtInBuses family, ∀ c ∈ n.taken,
      ∃ slot, c.coordinate = .pci ⟨slot, 0⟩ := by
    decide
  exact fun n hn => BusNode.whole_of_zero (hzero family n hn)

/-- The only claim that can break the rule is one for function 0 that somebody asked for. -/
theorem granted {ask : Option Placement} {owner : String} {p : Placement} (h : a.Whole)
    (hg : Granted ask a owner p b)
    (hask : ∀ n slot, ask = some p → a.node? p.bus = some n → p.coordinate = .pci ⟨slot, 0⟩ →
      n.shape.contains p.coordinate = true → n.owner? p.coordinate = none →
      n.slotTaken slot = false) : b.Whole := by
  obtain ⟨n, hn, hcontains, hholder, hfree, rfl⟩ := hg
  intro m hm
  obtain hm | ⟨k, hk, rfl⟩ := mem_updateFirst hm
  · exact h m hm
  · obtain rfl : n = k := Option.some.inj (hn.symm.trans hk)
    refine (h n (mem_of_node? hn)).claim hholder fun slot hslot => ?_
    obtain hfree | hask' := hfree
    · simpa [hslot, BusNode.isFree] using hfree
    · exact hask n slot hask' hn hslot hcontains (BusNode.holder?_eq_none_iff.1 hholder).1

theorem granted_none {owner : String} {p : Placement} (h : a.Whole)
    (hg : Granted none a owner p b) : b.Whole :=
  h.granted hg fun _ _ hask => nomatch hask

theorem install (h : a.Whole) (placement : Option Placement) :
    (part.install a placement).Whole := by
  intro n hn
  rw [Part.buses_install] at hn
  obtain hn | hn := List.mem_append.1 hn
  · exact h n hn
  · apply BusNode.whole_of_zero
    obtain htaken | htaken := Part.taken_of_mem_nodes hn
    · rw [htaken]
      exact List.forall_mem_nil _
    · rw [htaken, List.forall_mem_singleton]
      exact ⟨0, rfl⟩

end BusAllocator.Whole

namespace BusCall

variable {a b : BusAllocator} {call : BusCall} {grant : Option Grant}

theorem whole_of_asked {owner : String} {p : Placement} (ha : a.Whole) (hl : a.LaidOut)
    (hcall : ¬call.Overtakes a) (hg : Granted (call.asked a.family) a owner p b) : b.Whole := by
  refine ha.granted hg fun n slot hask hn hslot hcontains howner => ?_
  rw [hslot] at hcontains howner
  by_contra htaken
  have hkind : n.bus.kind.isPci = true :=
    ((hl.published n (mem_of_node? hn)).accepts hcontains).1
  obtain ⟨bus, coordinate⟩ := p
  obtain rfl : coordinate = .pci ⟨slot, 0⟩ := hslot
  exact hcall ⟨bus, slot, n, hask, hn, hkind, hcontains, howner, by simpa using htaken⟩

theorem Effect.whole (h : call.Effect a b grant) (ha : a.Whole) (hl : a.LaidOut)
    (hcall : ¬call.Overtakes a) : b.Whole :=
  h.preserves_asked (fun _ _ _ _ hg h => h.granted_none hg)
    (fun _ _ placement h => h.install placement) (fun _ _ _ hg => whole_of_asked ha hl hcall hg) ha

/-! ## What a call does that asks for a place -/

theorem outcome_bind_congr {α β : Type} {x y : Alloc α} {f : α → Alloc β}
    (h : outcome x a = outcome y a) : outcome (x >>= f) a = outcome (y >>= f) a := by
  rw [outcome_bind, outcome_bind, h]

theorem outcome_placePci {hint : PlacementHint} {owner : String} {kind : PciKind} {bus : BusId}
    {addr : PciAddress} {n : BusNode} (hask : hint.asked a.family = some ⟨bus, .pci addr⟩)
    (hn : a.node? bus = some n) (hkind : n.bus.kind.isPci = true) :
    outcome (placePci owner kind hint) a = outcome (claim owner bus (.pci addr)) a := by
  rw [PlacementHint.asked] at hask
  split at hask
  · rename_i hpci
    obtain ⟨addr', haddr, heq⟩ := Option.map_eq_some_iff.1 hask
    obtain ⟨rfl, hcoordinate⟩ := Placement.mk.inj heq
    obtain rfl := Coordinate.pci.inj hcoordinate
    rw [placePci, outcome_get_bind, if_pos hpci, haddr, if_pos (by simp), placePciAt,
      outcome_get_bind, hn]
    simp only [hkind, if_true]
  · cases hask

theorem outcome_placeVirtio {hint : PlacementHint} {owner : String} {bus : BusId}
    {addr : PciAddress} {n : BusNode} (hask : hint.asked a.family = some ⟨bus, .pci addr⟩)
    (hn : a.node? bus = some n) (hkind : n.bus.kind.isPci = true) :
    outcome (placeVirtio owner hint) a = outcome (claim owner bus (.pci addr)) a := by
  have htransport : a.family.virtioTransport = .pci := by
    have hpci : a.family.hasPci = true := by
      by_contra hpci
      rw [PlacementHint.asked, if_neg hpci] at hask
      cases hask
    exact a.family.virtioTransport_of_hasPci hpci
  rw [placeVirtio, outcome_get_bind, htransport]
  exact outcome_placePci hask hn hkind

/-- A call for a place on a PCI bus claims this place first. What follows only adds to the buses. -/
theorem outcome_asked {bus : BusId} {addr : PciAddress} {n : BusNode}
    (hask : call.asked a.family = some ⟨bus, .pci addr⟩) (hn : a.node? bus = some n)
    (hkind : n.bus.kind.isPci = true) :
    ∃ f : Placement → Alloc (Option Placement),
      outcome call.perform a = outcome (claim call.owner bus (.pci addr) >>= f) a ∧
        ∀ p b, Grows b (outcome (f p) b).2 := by
  cases call with
  | place owner request hint =>
    refine ⟨fun p => pure (some p), ?_, fun p b => .refl b⟩
    cases request with
    | pci kind =>
      rw [perform, Alloc.place, map_eq_pure_bind]
      exact outcome_bind_congr (outcome_placePci hask hn hkind)
    | virtio =>
      rw [perform, Alloc.place, map_eq_pure_bind]
      exact outcome_bind_congr (outcome_placeVirtio hask hn hkind)
    | _ => cases hask
  | addUsb id model ports hint =>
    refine ⟨fun p => do
      addController id model (some p) (.usb model) [⟨id ++ ".0", .usb, .ports ports, []⟩]
      modify fun a => { a with usb := a.usb ++ [(model, id ++ ".0")] }
      return none, ?_, ?_⟩
    · change outcome (addUsbController id model ports hint >>= fun _ => pure none) a = _
      rw [addUsbController, bind_assoc]
      exact outcome_bind_congr (outcome_placePci hask hn hkind)
    · exact fun p b => @Grows.install b (.usb id model ports none) (some p)

/-- Whoever asks for another function of a slot that is taken as a whole is refused. -/
theorem refused_of_owner? {bus : BusId} {addr : PciAddress} {n : BusNode} {holder : String}
    (hask : call.asked a.family = some ⟨bus, .pci addr⟩) (hn : a.node? bus = some n)
    (hkind : n.bus.kind.isPci = true) (hcontains : n.shape.contains (.pci addr) = true)
    (hholder : n.holder? (.pci addr) = some holder) :
    outcome call.perform a =
      (.error (.collision (.inUse call.owner ⟨bus, .pci addr⟩ holder)), a) := by
  obtain ⟨f, hperform, -⟩ := outcome_asked hask hn hkind
  rw [hperform, outcome_bind, outcome_claim, hn]
  simp only [hcontains, hholder, if_true]

/-- A call that overtakes is granted, and then the slot is not whole any more. -/
theorem Overtakes.exists_not_whole (h : call.Overtakes a) :
    ∃ bus n, (a.after call).node? bus = some n ∧ ¬n.Whole := by
  obtain ⟨bus, slot, n, hask, hn, hkind, hcontains, howner, htaken⟩ := h
  obtain ⟨f, hperform, hgrows⟩ := outcome_asked hask hn hkind
  have hholder : n.holder? (.pci ⟨slot, 0⟩) = none := by
    refine BusNode.holder?_eq_none_iff.2 ⟨howner, fun addr haddr => ?_⟩
    obtain rfl := Coordinate.pci.inj haddr
    exact howner
  have hafter : Grows (a.addClaim bus (.pci ⟨slot, 0⟩) call.owner) (a.after call) := by
    rw [after, hperform, outcome_bind, outcome_claim, hn]
    simp only [hcontains, hholder, if_true]
    exact hgrows _ _
  have hclaimed : (a.addClaim bus (.pci ⟨slot, 0⟩) call.owner).node? bus =
      some (n.claim (.pci ⟨slot, 0⟩) call.owner) := by
    rw [node?_addClaim, hn, Option.map_some, if_pos rfl]
  obtain ⟨m, hm, hwhole⟩ := hafter.whole_of_node? hclaimed
  refine ⟨bus, m, hm, fun h => ?_⟩
  -- the function that was taken before is not function 0
  obtain ⟨g, hg⟩ := BusNode.owner?_ne_none_of_slotTaken htaken
  have hne : g ≠ 0 := by
    rintro rfl
    exact hg howner
  have hnone := hwhole h slot g hne (by simp [BusNode.owner?_claim_eq_none_iff])
  exact hg (BusNode.owner?_claim_eq_none_iff.1 hnone).1

end BusCall

section Run

variable (family : MachineFamily) (machine : String) (config : AllocatorConfig)

theorem whole_of_not_overtakes (calls : List BusCall)
    (h : ∀ pre call post, calls = pre ++ call :: post →
      ¬call.Overtakes ((start family machine config).afterAll pre)) :
    ((start family machine config).afterAll calls).Whole := by
  induction calls using List.reverseRecOn with
  | nil => exact Whole.start family machine config
  | append_singleton pre call ih =>
    rw [afterAll_append]
    have hpre := ih fun p c q hq => h p c (q ++ [call]) (by simp [hq])
    exact (call.effect (grounded_run family machine config pre)).whole hpre
      (laidOut_run family machine config pre) (h pre call [] rfl)

/-- When PCI slots that are taken as a whole stay whole: exactly as long as nobody asks for function
0 of a slot of which another function is taken. In the other order the second device is always
refused. -/
theorem whole_iff_not_overtakes (calls : List BusCall) :
    (((start family machine config).afterAll calls).Whole ↔
      ∀ pre call post, calls = pre ++ call :: post →
        ¬call.Overtakes ((start family machine config).afterAll pre)) ∧
    ∀ (call : BusCall) bus slot f n, call.asked family = some ⟨bus, .pci ⟨slot, f⟩⟩ →
      ((start family machine config).afterAll calls).node? bus = some n →
      n.shape.contains (.pci ⟨slot, f⟩) = true → n.owner? (.pci ⟨slot, 0⟩) ≠ none →
      ∃ holder, outcome call.perform ((start family machine config).afterAll calls) =
        (.error (.collision (.inUse call.owner ⟨bus, .pci ⟨slot, f⟩⟩ holder)),
          (start family machine config).afterAll calls) := by
  have hstart := Grounded.start family machine config
  refine ⟨⟨fun hwhole pre call post hsplit hcall => ?_, whole_of_not_overtakes family machine config
    calls⟩, fun call bus slot f n hask hn hcontains howner => ?_⟩
  · subst hsplit
    obtain ⟨bus, n, hn, hnot⟩ := hcall.exists_not_whole
    rw [afterAll_append, afterAll_cons] at hwhole
    have hgrounded := (grounded_run family machine config pre).after call
    obtain ⟨m, hm, hm'⟩ := (grows_afterAll hgrounded post).whole_of_node? hn
    exact hnot (hm' (hwhole m (mem_of_node? hm)))
  · have hkind : n.bus.kind.isPci = true :=
      (((laidOut_run family machine config calls).published n (mem_of_node? hn)).accepts
        hcontains).1
    cases hholder : n.holder? (.pci ⟨slot, f⟩) with
    | none => exact absurd ((BusNode.holder?_eq_none_iff.1 hholder).2 _ rfl) howner
    | some holder =>
      have hfamily : ((start family machine config).afterAll calls).family = family :=
        family_afterAll hstart calls
      rw [← hfamily] at hask
      exact ⟨holder, BusCall.refused_of_owner? hask hn hkind hcontains hholder⟩

end Run

/-- The order in which the rule breaks: both devices get what they ask for. -/
theorem not_whole_of_function_first :
    let hint := fun f => { PlacementHint.empty with pciAddr := some ⟨5, f⟩ }
    let calls := [BusCall.place "a" .virtio (hint 1), .place "b" .virtio (hint 0)]
    let s := start .i440fx "pc" ⟨false, false, none, none⟩
    s.grants calls = [⟨"a", ⟨"pci.0", .pci ⟨5, 1⟩⟩⟩, ⟨"b", ⟨"pci.0", .pci ⟨5, 0⟩⟩⟩] ∧
      ¬(s.afterAll calls).Whole := by
  decide +kernel

end GuestSpec
