import GuestSpec.Topology
import Mathlib.Algebra.BigOperators.Group.Finset.Piecewise
import Mathlib.Algebra.Order.BigOperators.Ring.Finset

/-!
# What a request for processors asks for

The meaning of a request, apart from how it is worked out: how many processors it wants, which
dimension takes what the given ones leave, and how much every dimension then counts. All of it is
said in natural numbers.
-/

namespace GuestSpec

theorem bind_eq_ok {ε α β : Type} {x : Except ε α} {f : α → Except ε β} {b : β} :
    (x >>= f) = .ok b ↔ ∃ a, x = .ok a ∧ f a = .ok b := by
  cases x with
  | error e => exact ⟨fun h => (nomatch h), fun ⟨_, h, _⟩ => (nomatch h)⟩
  | ok a => exact ⟨fun h => ⟨a, rfl, h⟩, fun ⟨_, h, hf⟩ => by cases h; exact hf⟩

theorem toNat_pos {n : UInt32} (h : n ≠ 0) : 0 < n.toNat :=
  Nat.pos_of_ne_zero fun hzero => h (UInt32.toNat_inj.1 hzero)

namespace Topology

theorem mem_all (d : Dimension) : d ∈ (Named.all : List Dimension) := by
  cases d <;> decide

instance : Fintype Dimension where
  elems := (Named.all : List Dimension).toFinset
  complete d := List.mem_toFinset.2 (mem_all d)

theorem prod_all (f : Dimension → Nat) : ((Named.all : List Dimension).map f).prod = ∏ d, f d :=
  (List.prod_toFinset f (by decide)).symm

namespace Request

structure Proper (req : Request) : Prop where
  smp : req.smp ≠ some 0
  maxcpus : req.maxcpus ≠ some 0
  sizes : ∀ d, req.sizes d ≠ some 0

section Meaning

variable (req : Request) (r : Rules)

def Unset (d : Dimension) : Prop := r.allows d = true ∧ req.sizes d = none

instance (d : Dimension) : Decidable (req.Unset r d) := inferInstanceAs (Decidable (_ ∧ _))

/-- How much a dimension counts as long as nothing is worked out: what is given and allowed, and
otherwise one. -/
def given (d : Dimension) : Nat := if r.allows d then ((req.sizes d).getD 1).toNat else 1

def product : Nat := ∏ d, req.given r d

def demand : Nat :=
  match req.maxcpus, req.smp with
  | some n, _ => n.toNat
  | none, some n => n.toNat
  | none, none => if ∀ d, ¬req.Unset r d then req.product r else 1

/-- The only dimension that is not given, when the greatest number of processors is. -/
def Pinned (d : Dimension) : Prop := req.maxcpus.isSome ∧ ∀ e, req.Unset r e ↔ e = d

instance (d : Dimension) : Decidable (req.Pinned r d) := inferInstanceAs (Decidable (_ ∧ _))

/-- The dimension that takes what the given ones leave: the pinned one, and otherwise the first of
the three main dimensions that is not given. Which of them come first is up to the rules. -/
def taker? : Option Dimension :=
  ((Named.all : List Dimension).find? (req.Pinned r ·)).or <|
    if r.preferCores then [.cores, .sockets, .threads].find? (req.Unset r ·)
    else [.sockets, .cores, .threads].find? (req.Unset r ·)

def share (d : Dimension) : Nat :=
  if req.taker? r = some d then req.demand r / req.product r else req.given r d

/-- A dimension can take a rest: a main one that is not given, or one that is pinned. -/
def Open : Prop :=
  (∃ d ∈ [Dimension.sockets, .cores, .threads], req.Unset r d) ∨ ∃ d, req.Pinned r d

instance : Decidable (req.Open r) := inferInstanceAs (Decidable (_ ∨ _))

/-- The given dimensions can be completed: what they make divides what is wanted, and without a
dimension that can take the rest it is what is wanted. -/
def Fits : Prop :=
  if req.Open r then req.product r ∣ req.demand r else req.product r = req.demand r

instance : Decidable (req.Fits r) := inferInstanceAs (Decidable (ite (req.Open r) _ _))

/-- How many processors are plugged in later, a core of them at a time if the rules say so. -/
def hotplug (threads : Nat) : Nat :=
  req.hotplugDevices.length * if r.hotplugWholeCores then threads else 1

/-- Some processors are there at the start, and not more than there can be. -/
def Bootable : Prop :=
  match req.smp, req.maxcpus with
  | some smp, some maxcpus => smp ≤ maxcpus
  | _, _ => req.hotplug r (req.share r .threads) < req.demand r

end Meaning

theorem positive?_ne_zero {p : Parameters} {key : String} {n : Option UInt32}
    (h : positive? p key = .ok n) : n ≠ some 0 := by
  obtain ⟨m, -, hm⟩ := bind_eq_ok.1 h
  obtain rfl := Except.ok.inj hm
  intro hzero
  have := (Option.filter_eq_some_iff.1 hzero).2
  simp at this

/-- What parameters ask for has no zeros: they count as not given. -/
theorem proper_of_ofParameters {p : Parameters} {req : Request} (h : ofParameters p = .ok req) :
    req.Proper := by
  obtain ⟨smp, hsmp, h⟩ := bind_eq_ok.1 h
  obtain ⟨maxcpus, hmaxcpus, h⟩ := bind_eq_ok.1 h
  obtain ⟨sockets, hsockets, h⟩ := bind_eq_ok.1 h
  obtain ⟨dies, hdies, h⟩ := bind_eq_ok.1 h
  obtain ⟨clusters, hclusters, h⟩ := bind_eq_ok.1 h
  obtain ⟨cores, hcores, h⟩ := bind_eq_ok.1 h
  obtain ⟨threads, hthreads, h⟩ := bind_eq_ok.1 h
  obtain ⟨books, hbooks, h⟩ := bind_eq_ok.1 h
  obtain ⟨drawers, hdrawers, h⟩ := bind_eq_ok.1 h
  obtain rfl := Except.ok.inj h
  refine ⟨positive?_ne_zero hsmp, positive?_ne_zero hmaxcpus, fun d => ?_⟩
  cases d with
  | sockets => exact positive?_ne_zero hsockets
  | cores => exact positive?_ne_zero hcores
  | threads => exact positive?_ne_zero hthreads
  | dies => exact positive?_ne_zero hdies
  | clusters => exact positive?_ne_zero hclusters
  | books => exact positive?_ne_zero hbooks
  | drawers => exact positive?_ne_zero hdrawers

section Given

variable {req : Request} {r : Rules} {d : Dimension}

theorem legalSizes_eq_none_iff : legalSizes r req.sizes d = none ↔ req.Unset r d := by
  rw [legalSizes, Unset]
  split <;> simp_all

theorem toNat_legalSizes : ((legalSizes r req.sizes d).getD 1).toNat = req.given r d := by
  rw [legalSizes, given]
  split
  · rfl
  · rfl

theorem given_eq_one_of_unset (h : req.Unset r d) : req.given r d = 1 := by
  rw [given, if_pos h.1, h.2]
  rfl

theorem given_eq_one_of_not_allows (h : ¬r.allows d = true) : req.given r d = 1 := if_neg h

theorem given_eq_of_sizes {n : UInt32} (h : r.allows d = true) (hn : req.sizes d = some n) :
    req.given r d = n.toNat := by
  rw [given, if_pos h, hn]
  rfl

theorem given_lt : req.given r d < UInt32.size := by
  rw [given]
  split
  · exact UInt32.toNat_lt_size _
  · decide

theorem given_pos (h : req.Proper) : 0 < req.given r d := by
  rw [given]
  split
  · cases hn : req.sizes d with
    | none => decide
    | some n => exact toNat_pos fun hzero => h.sizes d (hzero ▸ hn)
  · decide

theorem product_pos (h : req.Proper) : 0 < req.product r :=
  Finset.prod_pos fun _ _ => given_pos h

theorem demand_pos (h : req.Proper) : 0 < req.demand r := by
  rw [demand]
  split
  · next n hn => exact toNat_pos fun hzero => h.maxcpus (hzero ▸ hn)
  · next n _ hn => exact toNat_pos fun hzero => h.smp (hzero ▸ hn)
  · split
    · exact product_pos h
    · exact Nat.one_pos

end Given

section Share

variable {req : Request} {r : Rules} {d : Dimension}

theorem unset_of_taker? (h : req.taker? r = some d) : req.Unset r d := by
  rcases Option.or_eq_some_iff.1 h with hpinned | ⟨-, hfirst⟩
  · have hd : req.Pinned r d := by simpa using List.find?_some hpinned
    exact (hd.2 d).2 rfl
  · split at hfirst
    · simpa using List.find?_some hfirst
    · simpa using List.find?_some hfirst

theorem taker?_eq_none_iff : req.taker? r = none ↔ ¬req.Open r := by
  rw [taker?, Open, Option.or_eq_none_iff, List.find?_eq_none, not_or, and_comm]
  refine and_congr ?_ ?_
  · have horder : ∀ d, d ∈ [Dimension.cores, .sockets, .threads] ↔
        d ∈ [Dimension.sockets, .cores, .threads] := by decide
    split
    · simp only [List.find?_eq_none, horder, decide_eq_true_eq, not_exists, not_and]
    · simp only [List.find?_eq_none, decide_eq_true_eq, not_exists, not_and]
  · simp [mem_all]

theorem fits_iff_of_taker? (h : req.taker? r = some d) :
    req.Fits r ↔ req.product r ∣ req.demand r := by
  have hsome : ¬req.taker? r = none := by simp [h]
  rw [taker?_eq_none_iff, not_not] at hsome
  rw [Fits, if_pos hsome]

theorem fits_iff_of_none (h : req.taker? r = none) :
    req.Fits r ↔ req.product r = req.demand r := by
  rw [Fits, if_neg (taker?_eq_none_iff.1 h)]

theorem share_eq_given (h : req.taker? r = none) : req.share r d = req.given r d := by
  rw [share, h, if_neg (by simp)]

theorem share_eq_one_of_not_allows (h : ¬r.allows d = true) : req.share r d = 1 := by
  have hd : req.taker? r ≠ some d := fun ht => h (unset_of_taker? ht).1
  rw [share, if_neg hd, given_eq_one_of_not_allows h]

theorem share_eq_of_sizes {n : UInt32} (h : r.allows d = true) (hn : req.sizes d = some n) :
    req.share r d = n.toNat := by
  have hd : req.taker? r ≠ some d := fun ht => by
    have hnone := (unset_of_taker? ht).2
    rw [hn] at hnone
    cases hnone
  rw [share, if_neg hd, given_eq_of_sizes h hn]

theorem prod_share_of_taker? (h : req.taker? r = some d) :
    ∏ e, req.share r e = req.demand r / req.product r * req.product r := by
  have hshare : req.share r = Function.update (req.given r) d (req.demand r / req.product r) := by
    funext e
    by_cases he : e = d
    · rw [share, he, if_pos h, Function.update_self]
    · have hne : req.taker? r ≠ some e := fun hs => he (Option.some.inj (hs.symm.trans h))
      rw [share, if_neg hne, Function.update_of_ne he]
  have hgiven : req.product r = ∏ e ∈ Finset.univ \ {d}, req.given r e := by
    rw [product, ← Finset.prod_sdiff (Finset.subset_univ {d}), Finset.prod_singleton,
      given_eq_one_of_unset (unset_of_taker? h), mul_one]
  rw [hshare, Finset.prod_update_of_mem (Finset.mem_univ d), ← hgiven]

/-- The completed dimensions make just what is wanted. -/
theorem prod_share (h : req.Fits r) : ∏ d, req.share r d = req.demand r := by
  cases ht : req.taker? r with
  | none =>
    rw [fits_iff_of_none ht] at h
    calc ∏ d, req.share r d = ∏ d, req.given r d :=
          Finset.prod_congr rfl fun d _ => share_eq_given ht
      _ = req.demand r := h
  | some d =>
    rw [fits_iff_of_taker? ht] at h
    rw [prod_share_of_taker? ht, Nat.div_mul_cancel h]

theorem share_pos (hp : req.Proper) (hf : req.Fits r) : 0 < req.share r d := by
  have hprod : 0 < ∏ e, req.share r e := by
    rw [prod_share hf]
    exact demand_pos hp
  exact Nat.pos_of_ne_zero fun hzero =>
    (Nat.ne_of_gt hprod) (Finset.prod_eq_zero (Finset.mem_univ d) hzero)

theorem share_lt (h : req.demand r < UInt32.size) : req.share r d < UInt32.size := by
  rw [share]
  split
  · exact Nat.lt_of_le_of_lt (Nat.div_le_self _ _) h
  · exact given_lt

theorem toNat_ofNat_share (h : req.demand r < UInt32.size) :
    (UInt32.ofNat (req.share r d)).toNat = req.share r d :=
  UInt32.toNat_ofNat_of_lt (share_lt h)

theorem toNat_ofNat_demand (h : req.demand r < UInt32.size) :
    (UInt32.ofNat (req.demand r)).toNat = req.demand r :=
  UInt32.toNat_ofNat_of_lt h

theorem product_le_demand (hp : req.Proper) (hf : req.Fits r) : req.product r ≤ req.demand r := by
  cases ht : req.taker? r with
  | none => exact Nat.le_of_eq ((fits_iff_of_none ht).1 hf)
  | some d => exact Nat.le_of_dvd (demand_pos hp) ((fits_iff_of_taker? ht).1 hf)

end Share

end Request

end Topology

end GuestSpec
