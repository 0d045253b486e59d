import GuestSpec.Proofs.Bus.Outcome
import Mathlib.Data.Fin.Basic

/-!
# Room on a bus

A bus is full when all its coordinates are taken; a PCI slot is taken as soon as one of its
functions is. The search for a free coordinate passes over every coordinate of the bus, and what it
finds can be claimed. So a claim of the next free coordinate fails exactly on a full bus.
-/

namespace GuestSpec

/-- The coordinate under which one is searched for. Function 0 stands for a PCI slot. -/
def Coordinate.whole : Coordinate → Coordinate
  | pci addr => pci ⟨addr.slot, 0⟩
  | c => c

/-- Whether all coordinates of a bus are taken, PCI slots by any of their functions. -/
def BusNode.Full (n : BusNode) : Prop :=
  ∀ c, n.shape.contains c = true → ∃ d ∈ n.taken, d.coordinate.whole = c.whole

namespace Shape

variable {s : Shape} {c : Coordinate}

theorem contains_coordinate {i : Nat} (h : i < s.space.size) :
    s.contains (s.space.coordinate i) = true := by
  cases s with
  | pci slots =>
    have hi : i < slots.val := h
    have hmod : i % 32 = i := Nat.mod_eq_of_lt (by omega)
    simp [space, contains, hmod, hi]
  | ccw =>
    have hi : i < 0xFFFF := h
    simp only [space, contains, decide_eq_true_eq, UInt16.le_iff_toNat_le, UInt16.toNat_ofNat']
    rw [Nat.mod_eq_of_lt (by omega)]
    exact Nat.le_of_lt_succ hi
  | mmio count | units count =>
    have hi : i < count.toNat := h
    have hcount := count.toNat_lt
    simp only [space, contains, decide_eq_true_eq, UInt8.lt_iff_toNat_lt, UInt8.toNat_ofNat']
    rw [Nat.mod_eq_of_lt (by omega)]
    exact hi
  | ports count =>
    have hi : i < count.toNat := h
    have hcount := count.toNat_lt
    simp only [space, contains, Bool.and_eq_true, decide_eq_true_eq, UInt8.le_iff_toNat_le,
      UInt8.toNat_ofNat']
    rw [Nat.mod_eq_of_lt (by omega)]
    exact ⟨Nat.le_add_left 1 i, hi⟩
  | scsi targets luns =>
    have hi : i < targets.toNat * luns.toNat := h
    have htargets := targets.toNat_lt
    have hluns := luns.toNat_lt
    have hpos : 0 < targets.toNat := Nat.pos_of_mul_pos_right (Nat.zero_lt_of_lt hi)
    have hmod : i % targets.toNat < targets.toNat := Nat.mod_lt _ hpos
    have hdiv : i / targets.toNat < luns.toNat := Nat.div_lt_of_lt_mul hi
    simp only [space, contains, Bool.and_eq_true, decide_eq_true_eq, UInt16.lt_iff_toNat_lt,
      UInt16.toNat_ofNat', Nat.mod_eq_of_lt (Nat.lt_trans hmod htargets),
      Nat.mod_eq_of_lt (Nat.lt_trans hdiv hluns)]
    exact ⟨hmod, hdiv⟩

theorem exists_coordinate (h : s.contains c = true) :
    ∃ i < s.space.size, s.space.coordinate i = c.whole := by
  cases s with
  | pci slots =>
    cases c with
    | pci addr =>
      have hslot : addr.slot.val < slots.val := by simpa [contains] using h
      refine ⟨addr.slot, hslot, ?_⟩
      simp [space, Coordinate.whole]
    | _ => cases h
  | ccw =>
    cases c with
    | ccw devno =>
      have hdevno : devno.toNat ≤ 0xFFFE := by
        simpa [contains, UInt16.le_iff_toNat_le] using h
      exact ⟨devno.toNat, Nat.lt_succ_of_le hdevno, by simp [space, Coordinate.whole]⟩
    | _ => cases h
  | mmio count =>
    cases c with
    | mmio transport =>
      have hlt : transport.toNat < count.toNat := by
        simpa [contains, UInt8.lt_iff_toNat_lt] using h
      exact ⟨transport.toNat, hlt, by simp [space, Coordinate.whole]⟩
    | _ => cases h
  | units count =>
    cases c with
    | unit number =>
      have hlt : number.toNat < count.toNat := by
        simpa [contains, UInt8.lt_iff_toNat_lt] using h
      exact ⟨number.toNat, hlt, by simp [space, Coordinate.whole]⟩
    | _ => cases h
  | ports count =>
    cases c with
    | port number =>
      have hrange : 1 ≤ number.toNat ∧ number.toNat ≤ count.toNat := by
        simpa [contains, UInt8.le_iff_toNat_le] using h
      refine ⟨number.toNat - 1, Nat.sub_one_lt_of_le hrange.1 hrange.2, ?_⟩
      simp only [space, Coordinate.whole, Nat.sub_add_cancel hrange.1, UInt8.ofNat_toNat]
    | _ => cases h
  | scsi targets luns =>
    cases c with
    | scsi target lun =>
      have hlt : target.toNat < targets.toNat ∧ lun.toNat < luns.toNat := by
        simpa [contains, UInt16.lt_iff_toNat_lt] using h
      have hpos : 0 < targets.toNat := Nat.zero_lt_of_lt hlt.1
      refine ⟨target.toNat + targets.toNat * lun.toNat, ?_, ?_⟩
      · calc target.toNat + targets.toNat * lun.toNat
          _ < targets.toNat * (lun.toNat + 1) := by rw [Nat.mul_succ]; omega
          _ ≤ targets.toNat * luns.toNat := Nat.mul_le_mul_left _ hlt.2
      · simp [space, Coordinate.whole, Nat.add_mul_mod_self_left, Nat.mod_eq_of_lt hlt.1,
          Nat.add_mul_div_left _ _ hpos, Nat.div_eq_of_lt hlt.1]
    | _ => cases h

end Shape

namespace BusNode

variable {n : BusNode} {c : Coordinate}

theorem isFree_eq_false_iff :
    n.isFree c = false ↔ ∃ d ∈ n.taken, d.coordinate.whole = c.whole := by
  cases c with
  | pci addr =>
    rw [isFree, Bool.not_eq_false', slotTaken_iff]
    refine exists_congr fun d => and_congr_right fun _ => ?_
    obtain ⟨slot, f⟩ := addr
    cases hd : d.coordinate with
    | pci taken =>
      obtain ⟨slot', f'⟩ := taken
      simp [Coordinate.whole]
    | _ => simp [Coordinate.whole]
  | _ =>
    simp only [isFree, Option.isNone_eq_false_iff, Option.isSome_iff_ne_none, ne_eq,
      owner?_eq_none_iff, not_forall, exists_prop, not_not]
    refine exists_congr fun d => ?_
    cases hd : d.coordinate <;> simp [Coordinate.whole]

@[simp] theorem isFree_whole : n.isFree c.whole = n.isFree c := by
  cases c <;> rfl

theorem full_iff_isFree : n.Full ↔ ∀ c, n.shape.contains c = true → n.isFree c = false :=
  forall_congr' fun _ => imp_congr_right fun _ => isFree_eq_false_iff.symm

theorem contains_of_firstFree? (h : n.firstFree? = some c) : n.shape.contains c = true := by
  obtain ⟨i, -, hi, hc, -⟩ := firstFrom?_eq_some h
  split at hc
  · rw [← Option.some.inj hc]
    exact Shape.contains_coordinate (by simpa using hi)
  · cases hc

theorem isFree_of_firstFree? (h : n.firstFree? = some c) : n.isFree c = true :=
  Space.of_first?_eq_some h

theorem firstFree?_eq_none_iff : n.firstFree? = none ↔ n.Full := by
  rw [firstFree?, Space.first?, firstFrom?_eq_none_iff, full_iff_isFree]
  constructor
  · intro hnone c hc
    obtain ⟨i, hi, hcoordinate⟩ := Shape.exists_coordinate hc
    have hnone := hnone i (Nat.zero_le i) (by omega)
    rw [hcoordinate, isFree_whole] at hnone
    cases hfree : n.isFree c with
    | false => rfl
    | true =>
      rw [hfree] at hnone
      cases hnone
  · intro hfull i _ hi
    rw [if_neg]
    rw [hfull _ (Shape.contains_coordinate (by omega))]
    exact Bool.false_ne_true

theorem holder?_eq_none_of_isFree (h : n.isFree c = true) : n.holder? c = none := by
  have hnone : ∀ d ∈ n.taken, d.coordinate.whole ≠ c.whole := by
    intro d hd heq
    rw [isFree_eq_false_iff.2 ⟨d, hd, heq⟩] at h
    cases h
  rw [holder?_eq_none_iff, owner?_eq_none_iff]
  refine ⟨fun d hd heq => hnone d hd (by rw [heq]), ?_⟩
  rintro addr rfl
  rw [owner?_eq_none_iff]
  exact fun d hd heq => hnone d hd (by rw [heq]; rfl)

theorem firstFreeScsi?_any {targets luns : UInt16} (h : n.shape = .scsi targets luns) :
    n.firstFreeScsi? none none = n.firstFree? := by
  rw [firstFreeScsi?, firstFree?, h]
  rfl

/-! ## PCI slots -/

theorem mem_freeSlots {slot : Fin 32} : slot ∈ n.freeSlots ↔
    n.shape.contains (.pci ⟨slot, 0⟩) = true ∧ n.slotTaken slot = false := by
  unfold freeSlots
  cases h : n.shape <;> simp [Shape.contains]

theorem nodup_freeSlots : n.freeSlots.Nodup := by
  unfold freeSlots
  split
  · exact (List.nodup_finRange 32).filter _
  · exact List.nodup_nil

theorem full_iff_freeSlots {slots : Fin 33} (h : n.shape = .pci slots) :
    n.Full ↔ n.freeSlots = [] := by
  rw [full_iff_isFree, List.eq_nil_iff_forall_not_mem]
  simp only [mem_freeSlots]
  constructor
  · rintro hfull slot ⟨hc, htaken⟩
    have := hfull _ hc
    rw [isFree, htaken] at this
    cases this
  · intro hnone c hc
    cases c with
    | pci addr =>
      rw [isFree, Bool.not_eq_false']
      by_contra htaken
      refine hnone addr.slot ⟨?_, by simpa using htaken⟩
      rw [h] at hc ⊢
      exact hc
    | _ =>
      rw [h] at hc
      cases hc

theorem exists_slot_of_firstFree? {slots : Fin 33} (h : n.shape = .pci slots)
    (hc : n.firstFree? = some c) :
    ∃ slot ∈ n.freeSlots, c = .pci ⟨slot, 0⟩ ∧ ∀ t ∈ n.freeSlots, slot ≤ t := by
  have hcontains := contains_of_firstFree? hc
  have hfree := isFree_of_firstFree? hc
  obtain ⟨i, -, hi, hvalue, hmin⟩ := firstFrom?_eq_some hc
  split at hvalue
  · obtain rfl := Option.some.inj hvalue
    rw [h] at hcontains hfree hmin hi ⊢
    have hi : i < slots.val := by simpa [Shape.space] using hi
    have hmod : i % 32 = i := Nat.mod_eq_of_lt (by omega)
    have hslot : n.slotTaken (Fin.ofNat 32 i) = false := by
      simpa [Shape.space, isFree] using hfree
    refine ⟨Fin.ofNat 32 i, mem_freeSlots.2 ⟨h ▸ hcontains, hslot⟩, rfl, fun t ht => ?_⟩
    -- a lower slot that is free would have been found before
    by_contra hlt
    have hlt : t.val < i := by simpa [Fin.le_def, hmod] using hlt
    have htaken := (mem_freeSlots.1 ht).2
    have hnone := hmin t (Nat.zero_le _) hlt
    simp [Shape.space, isFree, htaken] at hnone
  · cases hvalue

theorem freeSlots_claim {slot : Fin 32} {f : Fin 8} {owner : String} :
    (n.claim (.pci ⟨slot, f⟩) owner).freeSlots = n.freeSlots.filter (· ≠ slot) := by
  have htaken : ∀ t, (n.claim (.pci ⟨slot, f⟩) owner).slotTaken t =
      (n.slotTaken t || decide (slot = t)) := by
    intro t
    rw [slotTaken, slotTaken, taken_claim, List.any_append]
    simp only [List.any_cons, List.any_nil, Bool.or_false, inSlot, Bool.beq_eq_decide_eq]
  unfold freeSlots
  rw [shape_claim]
  cases n.shape with
  | pci slots =>
    simp only [List.filter_filter, htaken]
    refine List.filter_congr fun t _ => ?_
    by_cases ht : slot = t <;> simp [ht, eq_comm]
  | _ => rfl

theorem not_full_of_taken_nil (h : n.taken = []) (hc : n.shape.contains c = true) : ¬n.Full := by
  intro hfull
  obtain ⟨d, hd, -⟩ := hfull c hc
  rw [h] at hd
  cases hd

end BusNode

end GuestSpec
