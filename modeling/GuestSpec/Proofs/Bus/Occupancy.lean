import GuestSpec.Bus.Allocator

/-!
# What is taken on a bus

Who stands in the way of a claim, what a claim changes on its bus, and what it leaves alone on all
other buses of a guest. A claim goes to the first bus with the given id.
-/

namespace GuestSpec

/-- What is said of all machine families is checked one family at a time. -/
instance {p : MachineFamily → Prop} [DecidablePred p] : Decidable (∀ family, p family) :=
  decidable_of_iff (p .i440fx ∧ p .q35 ∧ p .microvm ∧ p (.armVirt false) ∧ p (.armVirt true) ∧
      p .pseries ∧ p .s390Ccw) <| by
    constructor
    · rintro ⟨hi440fx, hq35, hmicrovm, hpci, hmmio, hpseries, hs390⟩ family
      cases family with
      | armVirt mmio => cases mmio <;> assumption
      | _ => assumption
    · intro h
      exact ⟨h _, h _, h _, h _, h _, h _, h _⟩

theorem Space.of_first?_eq_some {s : Space} {p : Coordinate → Bool} {c : Coordinate}
    (h : s.first? p = some c) : p c = true := by
  obtain ⟨i, -, -, hi, -⟩ := firstFrom?_eq_some h
  by_cases hp : p (s.coordinate i) = true
  · rw [if_pos hp] at hi
    exact Option.some.inj hi ▸ hp
  · rw [if_neg hp] at hi
    cases hi

namespace BusNode

variable {n : BusNode} {c : Coordinate} {owner : String}

@[simp] theorem bus_claim : (n.claim c owner).bus = n.bus := rfl

@[simp] theorem shape_claim : (n.claim c owner).shape = n.shape := rfl

@[simp] theorem reserved_claim : (n.claim c owner).reserved = n.reserved := rfl

@[simp] theorem claims_claim : (n.claim c owner).claims = n.claims ++ [⟨c, owner⟩] := rfl

@[simp] theorem taken_claim : (n.claim c owner).taken = n.taken ++ [⟨c, owner⟩] := by
  simp [taken]

theorem owner?_eq_none_iff : n.owner? c = none ↔ ∀ d ∈ n.taken, d.coordinate ≠ c := by
  simp [owner?]

theorem slotTaken_iff {slot : Fin 32} :
    n.slotTaken slot = true ↔ ∃ d ∈ n.taken, ∃ f, d.coordinate = .pci ⟨slot, f⟩ := by
  unfold slotTaken
  rw [List.any_eq_true]
  refine exists_congr fun d => and_congr_right fun _ => ?_
  cases hd : d.coordinate with
  | pci addr =>
    obtain ⟨s, f⟩ := addr
    simp [inSlot]
  | _ => simp [inSlot]

/-- Nobody stands in the way of a claim exactly when the coordinate is not taken and, on a PCI bus,
function 0 of the slot is not taken either. -/
theorem holder?_eq_none_iff : n.holder? c = none ↔
    n.owner? c = none ∧ ∀ addr, c = .pci addr → n.owner? (.pci ⟨addr.slot, 0⟩) = none := by
  unfold holder?
  cases ho : n.owner? c with
  | some holder => simp
  | none =>
    cases c with
    | pci addr =>
      obtain ⟨s, f⟩ := addr
      by_cases hf : f = 0
      · subst hf
        simp [ho]
      · simp [hf]
    | _ => simp

theorem isFree_of_holder?_eq_none (h : n.holder? c = none) (hc : ∀ addr, c ≠ .pci addr) :
    n.isFree c = true := by
  have ho := (holder?_eq_none_iff.1 h).1
  cases c with
  | pci addr => exact absurd rfl (hc addr)
  | _ => simp [isFree, ho]

theorem slotTaken_of_mem_freeSlots {slot : Fin 32} (h : slot ∈ n.freeSlots) :
    n.slotTaken slot = false := by
  unfold freeSlots at h
  split at h
  · have h := (List.mem_filter.1 h).2
    simp only [Bool.and_eq_true, Bool.not_eq_true'] at h
    exact h.2
  · cases h

end BusNode

namespace BusAllocator

variable {a : BusAllocator} {bus : BusId} {c : Coordinate} {owner : String}

theorem addClaim_eq (a : BusAllocator) (bus : BusId) (c : Coordinate) (owner : String) :
    a.addClaim bus c owner = { a with buses := updateFirst bus (·.claim c owner) a.buses } := rfl

theorem updateFirst_append {f : BusNode → BusNode} {l r : List BusNode} {n : BusNode}
    (hl : ∀ m ∈ l, m.bus.id ≠ bus) (hn : n.bus.id = bus) :
    updateFirst bus f (l ++ n :: r) = l ++ f n :: r := by
  induction l with
  | nil => simp [updateFirst, hn]
  | cons m l ih =>
    have hm : m.bus.id ≠ bus := hl m List.mem_cons_self
    simp [updateFirst, hm, ih fun k hk => hl k (List.mem_cons_of_mem _ hk)]

theorem split_of_node? {n : BusNode} (h : a.node? bus = some n) :
    ∃ l r, a.buses = l ++ n :: r ∧ n.bus.id = bus ∧ ∀ m ∈ l, m.bus.id ≠ bus := by
  obtain ⟨hn, l, r, hs, hl⟩ := List.find?_eq_some_iff_append.1 h
  refine ⟨l, r, hs, by simpa using hn, fun m hm => ?_⟩
  simpa using hl m hm

theorem mem_of_node? {n : BusNode} (h : a.node? bus = some n) : n ∈ a.buses :=
  List.mem_of_find?_eq_some h

theorem id_of_node? {n : BusNode} (h : a.node? bus = some n) : n.bus.id = bus := by
  simpa using List.find?_some h

theorem map_updateFirst {β : Type} {f : BusNode → BusNode} {g : BusNode → β}
    (hg : ∀ n, g (f n) = g n) (ns : List BusNode) :
    (updateFirst bus f ns).map g = ns.map g := by
  induction ns with
  | nil => rfl
  | cons n ns ih =>
    by_cases h : n.bus.id = bus
    · simp [updateFirst, h, hg]
    · simp [updateFirst, h, ih]

@[simp] theorem map_bus_addClaim :
    (a.addClaim bus c owner).buses.map BusNode.bus = a.buses.map BusNode.bus :=
  map_updateFirst (f := (·.claim c owner)) (fun _ => rfl) a.buses

theorem mem_updateFirst {f : BusNode → BusNode} {m : BusNode} {ns : List BusNode}
    (hm : m ∈ updateFirst bus f ns) :
    m ∈ ns ∨ ∃ n, ns.find? (·.bus.id == bus) = some n ∧ m = f n := by
  induction ns with
  | nil => cases hm
  | cons n ns ih =>
    by_cases h : n.bus.id = bus
    · rw [updateFirst, if_pos (by simpa using h)] at hm
      obtain rfl | hm := List.mem_cons.1 hm
      · exact .inr ⟨n, by simp [h], rfl⟩
      · exact .inl (List.mem_cons_of_mem _ hm)
    · rw [updateFirst, if_neg (by simpa using h)] at hm
      obtain rfl | hm := List.mem_cons.1 hm
      · exact .inl List.mem_cons_self
      · refine (ih hm).imp (List.mem_cons_of_mem _) fun ⟨k, hk, he⟩ => ⟨k, ?_, he⟩
        simpa [h] using hk

theorem find?_updateFirst {f : BusNode → BusNode} (hf : ∀ n, (f n).bus = n.bus) (id : BusId)
    (ns : List BusNode) :
    (updateFirst bus f ns).find? (·.bus.id == id) =
      (ns.find? (·.bus.id == id)).map fun n => if id = bus then f n else n := by
  induction ns with
  | nil => rfl
  | cons n ns ih =>
    by_cases h : n.bus.id = bus
    · by_cases hid : n.bus.id = id
      · have : id = bus := hid.symm.trans h
        simp [updateFirst, h, hf, this]
      · have : id ≠ bus := fun hb => hid (h.trans hb.symm)
        simp [updateFirst, h, hf, this, Ne.symm this]
    · by_cases hid : n.bus.id = id
      · have : id ≠ bus := fun hb => h (hid.trans hb)
        simp [updateFirst, hid, this]
      · simp [updateFirst, h, hid, ih]

theorem node?_addClaim (id : BusId) :
    (a.addClaim bus c owner).node? id =
      (a.node? id).map fun n => if id = bus then n.claim c owner else n :=
  find?_updateFirst (f := (·.claim c owner)) (fun _ => rfl) id a.buses

end BusAllocator

end GuestSpec
