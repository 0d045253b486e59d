import GuestSpec.Proofs.Bus.Room
import Mathlib.Data.List.Nodup
import Mathlib.Data.List.Perm.Subperm

/-!
# The places of a bus

A bus has as many places as it publishes: its coordinates, except that a PCI slot is one place with
all its functions. Each place is either occupied or vacant, and there are never more places occupied
than coordinates taken. A bus whose places were taken in their order gives out the next one.
-/

namespace GuestSpec

namespace Shape

/-- The places of a shape in the order in which they are given out. -/
def places (s : Shape) : List Coordinate := (List.range s.space.size).map s.space.coordinate

variable {s : Shape} {c : Coordinate}

theorem size_space : s.space.size = s.capacity.toNat := by
  cases s with
  | pci slots =>
    rw [space, capacity, UInt32.toNat_ofNat', Nat.mod_eq_of_lt (by omega)]
  | ccw => rfl
  | mmio count | units count | ports count => rfl
  | scsi targets luns =>
    have htargets := targets.toNat_lt
    have hluns := luns.toNat_lt
    have hlt : targets.toNat * luns.toNat < 2 ^ 16 * 2 ^ 16 :=
      Nat.mul_lt_mul'' htargets hluns
    rw [space, capacity, UInt32.toNat_ofNat', Nat.mod_eq_of_lt (by omega)]

theorem ofNat8_inj {i j count : Nat} (hcount : count ≤ 256) (hi : i < count) (hj : j < count)
    (h : UInt8.ofNat i = UInt8.ofNat j) : i = j := by
  have h := congrArg UInt8.toNat h
  rwa [UInt8.toNat_ofNat', UInt8.toNat_ofNat', Nat.mod_eq_of_lt (by omega),
    Nat.mod_eq_of_lt (by omega)] at h

theorem ofNat16_inj {i j count : Nat} (hcount : count ≤ 65536) (hi : i < count) (hj : j < count)
    (h : UInt16.ofNat i = UInt16.ofNat j) : i = j := by
  have h := congrArg UInt16.toNat h
  rwa [UInt16.toNat_ofNat', UInt16.toNat_ofNat', Nat.mod_eq_of_lt (by omega),
    Nat.mod_eq_of_lt (by omega)] at h

theorem coordinate_inj {i j : Nat} (hi : i < s.space.size) (hj : j < s.space.size)
    (h : s.space.coordinate i = s.space.coordinate j) : i = j := by
  cases s with
  | pci slots =>
    have hi : i < slots.val := hi
    have hj : j < slots.val := hj
    have h := congrArg Fin.val (PciAddress.mk.inj (Coordinate.pci.inj h)).1
    rwa [Fin.val_ofNat, Fin.val_ofNat, Nat.mod_eq_of_lt (by omega),
      Nat.mod_eq_of_lt (by omega)] at h
  | ccw => exact ofNat16_inj (by decide) hi hj (Coordinate.ccw.inj h)
  | mmio count => exact ofNat8_inj count.toNat_lt.le hi hj (Coordinate.mmio.inj h)
  | units count => exact ofNat8_inj count.toNat_lt.le hi hj (Coordinate.unit.inj h)
  | ports count =>
    have hcount := count.toNat_lt
    exact Nat.succ_inj.1 (ofNat8_inj (Nat.succ_le_of_lt hcount) (Nat.succ_lt_succ hi)
      (Nat.succ_lt_succ hj) (Coordinate.port.inj h))
  | scsi targets luns =>
    have hi : i < targets.toNat * luns.toNat := hi
    have hj : j < targets.toNat * luns.toNat := hj
    have hpos : 0 < targets.toNat := Nat.pos_of_mul_pos_right (Nat.zero_lt_of_lt hi)
    obtain ⟨htarget, hlun⟩ := Coordinate.scsi.inj h
    have hmod := ofNat16_inj targets.toNat_lt.le (Nat.mod_lt _ hpos) (Nat.mod_lt _ hpos) htarget
    have hdiv := ofNat16_inj luns.toNat_lt.le (Nat.div_lt_of_lt_mul hi) (Nat.div_lt_of_lt_mul hj)
      hlun
    rw [← Nat.div_add_mod i targets.toNat, hdiv, hmod, Nat.div_add_mod]

theorem length_places : s.places.length = s.capacity.toNat := by
  rw [places, List.length_map, List.length_range, size_space]

theorem nodup_places : s.places.Nodup := by
  refine List.nodup_range.map_on fun i hi j hj h => ?_
  exact coordinate_inj (List.mem_range.1 hi) (List.mem_range.1 hj) h

theorem whole_mem_places (h : s.contains c = true) : c.whole ∈ s.places := by
  obtain ⟨i, hi, hc⟩ := exists_coordinate h
  exact List.mem_map.2 ⟨i, List.mem_range.2 hi, hc⟩

theorem whole_of_mem_places (h : c ∈ s.places) : c.whole = c := by
  obtain ⟨i, -, rfl⟩ := List.mem_map.1 h
  cases s <;> rfl

end Shape

/-! ## Places of one bus -/

namespace BusNode

def occupied (n : BusNode) : List Coordinate := n.shape.places.filter fun c => !n.isFree c

def vacant (n : BusNode) : List Coordinate := n.shape.places.filter n.isFree

/-- How many functions of PCI slots are taken beside another function of their slot. -/
def shared (n : BusNode) : Nat := n.taken.length - n.occupied.length

def Unshared (n : BusNode) : Prop := (n.taken.map (·.coordinate.whole)).Nodup

variable {n : BusNode} {c : Coordinate} {owner : String}

theorem length_occupied_add_vacant (n : BusNode) :
    n.occupied.length + n.vacant.length = n.shape.capacity.toNat := by
  have hcount := n.shape.places.length_eq_countP_add_countP n.isFree
  rw [← Shape.length_places, hcount, List.countP_eq_length_filter, List.countP_eq_length_filter,
    Nat.add_comm, vacant, occupied]
  simp only [Bool.not_eq_true, Bool.decide_eq_false]

theorem nodup_occupied : n.occupied.Nodup := Shape.nodup_places.filter _

theorem mem_occupied_iff (hinside : ∀ d ∈ n.taken, n.shape.contains d.coordinate = true) :
    c ∈ n.occupied ↔ c ∈ n.taken.map (·.coordinate.whole) := by
  rw [occupied, List.mem_filter, Bool.not_eq_true', isFree_eq_false_iff, List.mem_map]
  constructor
  · rintro ⟨hc, d, hd, hwhole⟩
    exact ⟨d, hd, hwhole.trans (Shape.whole_of_mem_places hc)⟩
  · rintro ⟨d, hd, rfl⟩
    have hmem := Shape.whole_mem_places (hinside d hd)
    exact ⟨hmem, d, hd, (Shape.whole_of_mem_places hmem).symm⟩

theorem length_occupied_le (hinside : ∀ d ∈ n.taken, n.shape.contains d.coordinate = true) :
    n.occupied.length ≤ n.taken.length := by
  have hsub : n.occupied ⊆ n.taken.map (·.coordinate.whole) := fun c hc =>
    (mem_occupied_iff hinside).1 hc
  simpa using (List.subperm_of_subset nodup_occupied hsub).length_le

theorem Unshared.length_le (h : n.Unshared)
    (hinside : ∀ d ∈ n.taken, n.shape.contains d.coordinate = true) :
    n.taken.length ≤ n.occupied.length := by
  have hsub : n.taken.map (·.coordinate.whole) ⊆ n.occupied := fun c hc =>
    (mem_occupied_iff hinside).2 hc
  simpa using (List.subperm_of_subset h hsub).length_le

theorem Unshared.claim (h : n.Unshared) (hfree : n.isFree c = true) :
    (n.claim c owner).Unshared := by
  rw [Unshared, taken_claim, List.map_append]
  refine h.append (List.nodup_singleton _) fun d hd hc => ?_
  obtain ⟨e, he, rfl⟩ := List.mem_map.1 hd
  have htaken : n.isFree c = false :=
    isFree_eq_false_iff.2 ⟨e, he, List.mem_singleton.1 hc⟩
  rw [htaken] at hfree
  cases hfree

/-! ## Buses that are filled in order -/

/-- The first places of a bus are taken in order, up to a number of them, and nothing else. -/
def FilledUpTo (n : BusNode) (count : Nat) : Prop :=
  n.taken.map Claim.coordinate = n.shape.places.take count

namespace FilledUpTo

variable {count i : Nat} (h : n.FilledUpTo count)

include h

theorem isFree_iff (hi : i < n.shape.space.size) :
    n.isFree (n.shape.space.coordinate i) = true ↔ count ≤ i := by
  have hwhole : (n.shape.space.coordinate i).whole = n.shape.space.coordinate i :=
    Shape.whole_of_mem_places (List.mem_map_of_mem (List.mem_range.2 hi))
  rw [← not_iff_not, Bool.not_eq_true, isFree_eq_false_iff, not_le, hwhole]
  constructor
  · rintro ⟨d, hd, heq⟩
    have hmem : d.coordinate ∈ n.shape.places.take count := h ▸ List.mem_map_of_mem hd
    rw [Shape.whole_of_mem_places (List.mem_of_mem_take hmem)] at heq
    obtain ⟨j, hj, hcoordinate⟩ := List.mem_take_iff_getElem.1 hmem
    simp only [Shape.places, List.length_map, List.length_range, Nat.lt_min] at hj
    simp only [Shape.places, List.getElem_map, List.getElem_range] at hcoordinate
    rw [← Shape.coordinate_inj hj.2 hi (hcoordinate.trans heq)]
    exact hj.1
  · intro hlt
    have hmem : n.shape.space.coordinate i ∈ n.taken.map Claim.coordinate := by
      rw [h]
      refine List.mem_take_iff_getElem.2 ⟨i, ?_, ?_⟩
      · simpa [Shape.places] using ⟨hlt, hi⟩
      · simp [Shape.places]
    obtain ⟨d, hd, hcoordinate⟩ := List.mem_map.1 hmem
    exact ⟨d, hd, by rw [hcoordinate, hwhole]⟩

theorem firstFree?_eq : n.firstFree? = n.shape.places[count]? := by
  cases hc : n.firstFree? with
  | none =>
    symm
    rw [List.getElem?_eq_none_iff]
    by_contra hlt
    have hlt : count < n.shape.space.size := by simpa [Shape.places] using hlt
    have htaken := full_iff_isFree.1 (firstFree?_eq_none_iff.1 hc) _
      (Shape.contains_coordinate hlt)
    rw [(h.isFree_iff hlt).2 le_rfl] at htaken
    cases htaken
  | some c =>
    obtain ⟨i, -, hi, hvalue, hmin⟩ := firstFrom?_eq_some hc
    rw [Nat.zero_add] at hi
    split at hvalue
    · rename_i hfree
      obtain rfl := Option.some.inj hvalue
      obtain hlt | rfl := ((h.isFree_iff hi).1 hfree).lt_or_eq
      · have hnone := hmin count (Nat.zero_le _) hlt
        rw [if_pos ((h.isFree_iff (hlt.trans hi)).2 le_rfl)] at hnone
        cases hnone
      · simp [Shape.places, hi]
    · cases hvalue

theorem claim (hcount : count < n.shape.space.size) (owner : String) :
    (n.claim (n.shape.space.coordinate count) owner).FilledUpTo (count + 1) := by
  rw [FilledUpTo, taken_claim, List.map_append, h, shape_claim, List.take_add_one]
  simp [Shape.places, hcount]

theorem of_size_le (hsize : n.shape.space.size ≤ count) (hi : n.shape.space.size ≤ i) :
    n.FilledUpTo i := by
  have hlength : n.shape.places.length = n.shape.space.size := by simp [Shape.places]
  rw [FilledUpTo, h, List.take_of_length_le (hlength.trans_le hsize),
    List.take_of_length_le (hlength.trans_le hi)]

end FilledUpTo

end BusNode

end GuestSpec
