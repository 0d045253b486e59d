import GuestSpec.Proofs.Topology.Request

/-!
# Working out a request for processors

Every stage of the solver, and from these the solver as a whole, in terms of what the request asks
for. A product leaves the 64 bits on the way exactly when the product of all given dimensions does:
nothing that is given is zero, so products only grow.
-/

namespace GuestSpec

private theorem foldlM_product {dims : List UInt32} (h : ∀ d ∈ dims, d ≠ 0) {acc : Nat}
    (hacc : acc < UInt64.size) :
    dims.foldlM (fun acc d =>
        if acc * d.toNat < UInt64.size then some (acc * d.toNat) else none) acc =
      if acc * (dims.map UInt32.toNat).prod < UInt64.size then
        some (acc * (dims.map UInt32.toNat).prod)
      else none := by
  induction dims generalizing acc with
  | nil => simp [hacc]
  | cons d dims ih =>
    have hrest : ∀ e ∈ dims, e ≠ 0 := fun e he => h e (List.mem_cons_of_mem d he)
    simp only [List.foldlM_cons, List.map_cons, List.prod_cons, ← Nat.mul_assoc]
    by_cases hd : acc * d.toNat < UInt64.size
    · rw [if_pos hd]
      exact ih hrest hd
    · -- the product has left the 64 bits, and what follows cannot bring it back
      have hpos : 0 < (dims.map UInt32.toNat).prod := by
        apply List.prod_pos
        intro n hn
        obtain ⟨e, he, rfl⟩ := List.mem_map.1 hn
        exact toNat_pos (hrest e he)
      have hge := Nat.le_mul_of_pos_right (acc * d.toNat) hpos
      rw [if_neg hd, if_neg (by omega)]
      rfl

theorem wordProduct?_eq {dims : List UInt32} (h : ∀ d ∈ dims, d ≠ 0) :
    wordProduct? dims =
      if (dims.map UInt32.toNat).prod < UInt64.size then some (dims.map UInt32.toNat).prod
      else none := by
  rw [wordProduct?, foldlM_product h (by decide), Nat.one_mul]

namespace Topology

variable {req : Request} {r : Rules}

/-! ## Products -/

theorem getD_legalSizes (d : Dimension) :
    (legalSizes r req.sizes d).getD 1 = .ofNat (req.given r d) := by
  rw [← Request.toNat_legalSizes, UInt32.ofNat_toNat]

theorem getD_legalSizes_ne_zero (h : req.Proper) (d : Dimension) :
    (legalSizes r req.sizes d).getD 1 ≠ 0 := by
  intro hzero
  have hpos : 0 < req.given r d := Request.given_pos h
  rw [← Request.toNat_legalSizes, hzero] at hpos
  exact Nat.lt_irrefl 0 hpos

theorem prod_given {among : List Dimension} (hnodup : among.Nodup)
    (hrest : ∀ d, d ∉ among → req.given r d = 1) :
    (among.map (req.given r)).prod = req.product r := by
  rw [← List.prod_toFinset _ hnodup, Request.product]
  refine Finset.prod_subset (Finset.subset_univ _) fun d _ hd => hrest d ?_
  simpa using hd

theorem product_legalSizes (h : req.Proper) {among : List Dimension} (hnodup : among.Nodup)
    (hrest : ∀ d, d ∉ among → req.given r d = 1) :
    product (legalSizes r req.sizes) among =
      if req.product r < UInt64.size then .ok (req.product r) else .error .overflow := by
  have hne : ∀ n ∈ among.map fun d => (legalSizes r req.sizes d).getD 1, n ≠ 0 := by
    intro n hn
    obtain ⟨d, -, rfl⟩ := List.mem_map.1 hn
    exact getD_legalSizes_ne_zero h d
  have hprod : ((among.map fun d => (legalSizes r req.sizes d).getD 1).map UInt32.toNat).prod =
      req.product r := by
    rw [List.map_map, ← prod_given hnodup hrest]
    exact congrArg List.prod (List.map_congr_left fun d _ => Request.toNat_legalSizes)
  rw [product, wordProduct?_eq hne, hprod]
  by_cases hfit : req.product r < UInt64.size
  · simp only [if_pos hfit]
  · simp only [if_neg hfit]

theorem product_all (h : req.Proper) :
    product (legalSizes r req.sizes) Named.all =
      if req.product r < UInt64.size then .ok (req.product r) else .error .overflow :=
  product_legalSizes h (by decide) fun d hd => absurd (mem_all d) hd

/-! ## The number of processors -/

theorem mem_unset {d : Dimension} : d ∈ unset (legalSizes r req.sizes) ↔ req.Unset r d := by
  rw [unset, List.mem_filter, Option.isNone_iff_eq_none, Request.legalSizes_eq_none_iff]
  exact and_iff_right (mem_all d)

theorem isEmpty_unset :
    (unset (legalSizes r req.sizes)).isEmpty = true ↔ ∀ d, ¬req.Unset r d := by
  rw [List.isEmpty_iff, List.eq_nil_iff_forall_not_mem]
  exact forall_congr' fun d => not_congr mem_unset

/-- A demand that does not fit 32 bits is a product of dimensions. -/
theorem total_legalSizes (h : req.Proper) :
    total req (legalSizes r req.sizes) =
      if req.demand r < UInt32.size then .ok (.ofNat (req.demand r))
      else if req.product r < UInt64.size then .error (.productMismatch (req.product r) 0)
      else .error .overflow := by
  have hgiven : ∀ n : UInt32, n.toNat < UInt32.size := UInt32.toNat_lt_size
  rw [total, Request.demand]
  cases req.maxcpus with
  | some n => simp only [if_pos (hgiven n), UInt32.ofNat_toNat]
  | none =>
    cases req.smp with
    | some n => simp only [if_pos (hgiven n), UInt32.ofNat_toNat]
    | none =>
      by_cases hall : ∀ d, ¬req.Unset r d
      · simp only [if_pos hall, if_pos (isEmpty_unset.2 hall), product_all h]
        by_cases hfit : req.product r < UInt64.size
        · simp only [if_pos hfit]
          rfl
        · have hword : ¬req.product r < UInt32.size := fun hlt =>
            hfit (Nat.lt_trans hlt (by decide))
          simp only [if_neg hfit, if_neg hword]
          rfl
      · simp only [if_neg hall, if_neg (mt isEmpty_unset.1 hall)]
        rfl

/-! ## The dimension that takes the rest -/

theorem isNone_legalSizes (d : Dimension) :
    (legalSizes r req.sizes d).isNone = decide (req.Unset r d) := by
  rw [Bool.eq_iff_iff, Option.isNone_iff_eq_none, Request.legalSizes_eq_none_iff,
    decide_eq_true_iff]

theorem unset_eq_singleton_iff {d : Dimension} :
    unset (legalSizes r req.sizes) = [d] ↔ ∀ e, req.Unset r e ↔ e = d := by
  constructor
  · intro h e
    rw [← mem_unset, h, List.mem_singleton]
  · intro h
    have hnodup : (unset (legalSizes r req.sizes)).Nodup := List.Nodup.filter _ (by decide)
    rw [← List.perm_singleton, List.perm_ext_iff_of_nodup hnodup (List.nodup_singleton d)]
    intro e
    rw [mem_unset, h e, List.mem_singleton]

theorem taker?_of_pinned {d : Dimension} (h : req.Pinned r d) : req.taker? r = some d := by
  have hfind : (Named.all : List Dimension).find? (req.Pinned r ·) = some d := by
    cases hf : (Named.all : List Dimension).find? (req.Pinned r ·) with
    | none => exact absurd (by simpa using h) (List.find?_eq_none.1 hf d (mem_all d))
    | some e =>
      have he : req.Pinned r e := by simpa using List.find?_some hf
      rw [(h.2 e).1 ((he.2 e).2 rfl)]
  rw [Request.taker?, hfind]
  rfl

theorem taker?_of_not_pinned (h : ∀ d, ¬req.Pinned r d) :
    req.taker? r =
      (preference r.preferCores).find? fun d => (legalSizes r req.sizes d).isNone := by
  have hnone : (Named.all : List Dimension).find? (req.Pinned r ·) = none :=
    List.find?_eq_none.2 fun d _ => by simpa using h d
  have hunset : (fun d => (legalSizes r req.sizes d).isNone) = fun d => decide (req.Unset r d) :=
    funext isNone_legalSizes
  rw [Request.taker?, hnone, hunset, preference]
  cases r.preferCores <;> rfl

theorem not_pinned (h : ∀ n d, req.maxcpus = some n → unset (legalSizes r req.sizes) ≠ [d])
    (d : Dimension) : ¬req.Pinned r d := by
  intro hd
  obtain ⟨n, hn⟩ := Option.isSome_iff_exists.1 hd.1
  exact h n d hn (unset_eq_singleton_iff.2 hd.2)

/-- Only the dimension that takes the rest is not among those it is left by. -/
theorem eq_of_not_mem_rest {d e : Dimension}
    (h : e ∉ [Dimension.dies, .clusters, .books, .drawers] ++
      [Dimension.sockets, .cores, .threads].filter (· ≠ d)) : e = d := by
  by_contra hne
  cases e <;> simp [hne] at h

theorem nodup_rest (d : Dimension) : ([Dimension.dies, .clusters, .books, .drawers] ++
    [Dimension.sockets, .cores, .threads].filter (· ≠ d)).Nodup := by
  cases d <;> decide

theorem taker?_of_remainder? {d : Dimension} {among : List Dimension}
    (h : remainder? req r (legalSizes r req.sizes) = some (d, among)) :
    req.taker? r = some d ∧ among.Nodup ∧ ∀ e, e ∉ among → req.given r e = 1 := by
  rw [remainder?] at h
  split at h
  · next n e hmax hunset =>
    obtain ⟨rfl, rfl⟩ := Prod.mk.inj (Option.some.inj h)
    have hpinned : req.Pinned r e := ⟨by rw [hmax]; rfl, unset_eq_singleton_iff.1 hunset⟩
    exact ⟨taker?_of_pinned hpinned, by decide, fun e he => absurd (mem_all e) he⟩
  · next hnot =>
    have hpinned := not_pinned hnot
    split at h
    · cases h
    · obtain ⟨e, he, heq⟩ := Option.map_eq_some_iff.1 h
      obtain ⟨rfl, rfl⟩ := Prod.mk.inj heq
      have htaker : req.taker? r = some e := (taker?_of_not_pinned hpinned).trans he
      refine ⟨htaker, nodup_rest e, fun e' he' => ?_⟩
      rw [eq_of_not_mem_rest he']
      exact Request.given_eq_one_of_unset (Request.unset_of_taker? htaker)

theorem of_remainder?_eq_none (hp : req.Proper)
    (h : remainder? req r (legalSizes r req.sizes) = none) :
    req.taker? r = none ∨ req.demand r = 1 ∧ ∀ d, req.given r d = 1 := by
  rw [remainder?] at h
  split at h
  · cases h
  · next hnot =>
    split at h
    · next hone =>
      obtain ⟨-, hmax, hle⟩ := hone
      refine .inr ⟨by rw [Request.demand, hmax]; rfl, fun d => ?_⟩
      have hd := List.all_eq_true.1 hle d (mem_all d)
      have hpos : 0 < req.given r d := Request.given_pos hp
      rw [← Request.toNat_legalSizes] at hpos ⊢
      cases hs : legalSizes r req.sizes d with
      | none => rfl
      | some n =>
        rw [hs] at hd hpos
        have hn : n.toNat ≤ 1 := by simpa [UInt32.le_iff_toNat_le] using hd
        exact Nat.le_antisymm hn hpos
    · rw [Option.map_eq_none_iff] at h
      exact .inl ((taker?_of_not_pinned (not_pinned hnot)).trans h)

theorem product_eq_one_of_given (h : ∀ d, req.given r d = 1) : req.product r = 1 :=
  Finset.prod_eq_one fun d _ => h d

theorem share_eq_given_of_remainder? (hp : req.Proper)
    (h : remainder? req r (legalSizes r req.sizes) = none) (d : Dimension) :
    req.share r d = req.given r d := by
  obtain hnone | ⟨hone, hall⟩ := of_remainder?_eq_none hp h
  · exact Request.share_eq_given hnone
  · rw [Request.share, hone, product_eq_one_of_given hall, hall d]
    split <;> rfl

/-! ## The sizes of all dimensions -/

section Arrange

variable (hp : req.Proper)

include hp

theorem arrange_of_overflow (hk : UInt64.size ≤ req.product r) (n : UInt32) :
    arrange req r (legalSizes r req.sizes) n = .error .overflow ∨
      arrange req r (legalSizes r req.sizes) n = .ok fun d => .ofNat (req.given r d) := by
  rw [arrange]
  cases h : remainder? req r (legalSizes r req.sizes) with
  | none => exact .inr (congrArg Except.ok (funext getD_legalSizes))
  | some x =>
    obtain ⟨d, among⟩ := x
    obtain ⟨-, hnodup, hrest⟩ := taker?_of_remainder? h
    left
    simp only [divide, product_legalSizes hp hnodup hrest, if_neg (Nat.not_lt.2 hk)]
    rfl

theorem divide_legalSizes (hk : req.product r < UInt64.size) (hd : req.demand r < UInt32.size)
    {among : List Dimension} (hnodup : among.Nodup) (hrest : ∀ d, d ∉ among → req.given r d = 1)
    (d : Dimension) :
    divide d (.ofNat (req.demand r)) (legalSizes r req.sizes) among =
      if req.product r ∣ req.demand r then .ok (.ofNat (req.demand r / req.product r))
      else .error (.indivisible (Named.name d) (.ofNat (req.demand r)) (req.product r)) := by
  have hpos : 0 < req.product r := Request.product_pos hp
  simp only [divide, product_legalSizes hp hnodup hrest, if_pos hk, Request.toNat_ofNat_demand hd]
  by_cases hdvd : req.product r ∣ req.demand r
  · have hle := Nat.le_of_dvd (Request.demand_pos hp) hdvd
    have hquot : 0 < req.demand r / req.product r := Nat.div_pos hle hpos
    have hmod : req.demand r % req.product r = 0 := Nat.mod_eq_zero_of_dvd hdvd
    rw [if_pos hdvd]
    simp only [bind, Except.bind]
    rw [if_neg (by omega)]
    rfl
  · have hmod : req.demand r % req.product r ≠ 0 := fun h => hdvd (Nat.dvd_of_mod_eq_zero h)
    rw [if_neg hdvd]
    simp only [bind, Except.bind]
    rw [if_pos (.inr (.inl hmod))]
    rfl

theorem arrange_legalSizes (hk : req.product r < UInt64.size)
    (hd : req.demand r < UInt32.size) :
    arrange req r (legalSizes r req.sizes) (.ofNat (req.demand r)) =
      match req.taker? r with
      | some d =>
        if req.product r ∣ req.demand r then .ok fun e => .ofNat (req.share r e)
        else .error (.indivisible (Named.name d) (.ofNat (req.demand r)) (req.product r))
      | none => .ok fun e => .ofNat (req.share r e) := by
  rw [arrange]
  cases h : remainder? req r (legalSizes r req.sizes) with
  | none =>
    have hsizes : (fun d => (legalSizes r req.sizes d).getD 1) =
        fun d => UInt32.ofNat (req.share r d) := by
      funext d
      rw [getD_legalSizes, share_eq_given_of_remainder? hp h]
    cases ht : req.taker? r with
    | none => exact congrArg Except.ok hsizes
    | some d =>
      obtain hnone | ⟨-, hall⟩ := of_remainder?_eq_none hp h
      · rw [ht] at hnone
        cases hnone
      · simp only [product_eq_one_of_given hall, one_dvd, if_true]
        exact congrArg Except.ok hsizes
  | some x =>
    obtain ⟨d, among⟩ := x
    obtain ⟨htaker, hnodup, hrest⟩ := taker?_of_remainder? h
    simp only [htaker, divide_legalSizes hp hk hd hnodup hrest d]
    by_cases hdvd : req.product r ∣ req.demand r
    · simp only [if_pos hdvd]
      refine congrArg Except.ok (funext fun e => ?_)
      by_cases he : e = d
      · rw [if_pos he, Request.share, he, if_pos htaker]
      · have hne : req.taker? r ≠ some e := fun hs => he (Option.some.inj (hs.symm.trans htaker))
        rw [if_neg he, getD_legalSizes, Request.share, if_neg hne]
    · simp only [if_neg hdvd]
      rfl

end Arrange

/-! ## The document -/

theorem product?_document {sizes : Dimension → UInt32}
    (h : ∀ d, ¬r.allows d = true → sizes d = 1) (total smp : UInt32) :
    (document r total smp sizes).product? = wordProduct? (Named.all.map sizes) := by
  have hgated : ∀ d, (if r.allows d then some (sizes d) else none).getD 1 = sizes d := fun d => by
    split
    · rfl
    · next hd => rw [h d hd]; rfl
  have hdims : (document r total smp sizes).dimensions = [sizes .sockets, sizes .cores,
      sizes .threads, sizes .dies, sizes .clusters, sizes .books, sizes .drawers] := by
    rw [← hgated .dies, ← hgated .clusters, ← hgated .books, ← hgated .drawers]
    rfl
  rw [CpuTopology.product?, hdims]
  rfl

theorem product?_completed {f : Dimension → Nat} (hpos : ∀ d, 0 < f d)
    (hlt : ∀ d, f d < UInt32.size) (hone : ∀ d, ¬r.allows d = true → f d = 1)
    (total smp : UInt32) :
    (document r total smp fun d => .ofNat (f d)).product? =
      if ∏ d, f d < UInt64.size then some (∏ d, f d) else none := by
  have htoNat : ∀ d, (UInt32.ofNat (f d)).toNat = f d := fun d => UInt32.toNat_ofNat_of_lt (hlt d)
  have hne : ∀ n ∈ (Named.all : List Dimension).map fun d => UInt32.ofNat (f d), n ≠ 0 := by
    intro n hn hzero
    obtain ⟨d, -, rfl⟩ := List.mem_map.1 hn
    have hd := hpos d
    rw [← htoNat d, hzero] at hd
    exact Nat.lt_irrefl 0 hd
  have hprod : (((Named.all : List Dimension).map fun d => UInt32.ofNat (f d)).map
      UInt32.toNat).prod = ∏ d, f d := by
    rw [List.map_map, ← prod_all]
    exact congrArg List.prod (List.map_congr_left fun d _ => htoNat d)
  rw [product?_document (fun d hd => by rw [hone d hd]; rfl), wordProduct?_eq hne, hprod]

/-! ## The processors at the start -/

theorem bootCpus_of_both {smp maxcpus : UInt32} (hs : req.smp = some smp)
    (hm : req.maxcpus = some maxcpus) (total threads : UInt32) :
    bootCpus req r total threads =
      if maxcpus < smp then .error (.smpExceedsMax smp maxcpus) else .ok smp := by
  rw [bootCpus, hs, hm]

theorem bootCpus_of_missing (h : req.smp = none ∨ req.maxcpus = none) (total threads : UInt32) :
    bootCpus req r total threads =
      if UInt64.size ≤ req.hotplug r threads.toNat then .error .overflow
      else if req.hotplug r threads.toNat < total.toNat then
        .ok (.ofNat (total.toNat - req.hotplug r threads.toNat))
      else .error (.noBootCpus total (req.hotplug r threads.toNat)) := by
  rw [bootCpus]
  split
  · next smp maxcpus hs hm => simp [hs, hm] at h
  · rfl

theorem both_or_missing (req : Request) :
    (∃ smp maxcpus, req.smp = some smp ∧ req.maxcpus = some maxcpus) ∨
      (req.smp = none ∨ req.maxcpus = none) := by
  cases hs : req.smp with
  | none => exact .inr (.inl rfl)
  | some smp =>
    cases hm : req.maxcpus with
    | none => exact .inr (.inr rfl)
    | some maxcpus => exact .inl ⟨smp, maxcpus, rfl, rfl⟩

theorem bootCpus_eq_ok_iff {total threads smp : UInt32} :
    bootCpus req r total threads = .ok smp ↔
      (∃ maxcpus, req.smp = some smp ∧ req.maxcpus = some maxcpus ∧ smp ≤ maxcpus) ∨
      ((req.smp = none ∨ req.maxcpus = none) ∧ 0 < smp.toNat ∧
        smp.toNat + req.hotplug r threads.toNat = total.toNat) := by
  obtain ⟨n, m, hn, hm⟩ | hmissing := both_or_missing req
  · have hboth : ¬(req.smp = none ∨ req.maxcpus = none) := by simp [hn, hm]
    rw [bootCpus_of_both hn hm, or_iff_left fun h => hboth h.1, hn, hm]
    constructor
    · intro h
      split at h
      · cases h
      · next hle =>
        obtain rfl := Except.ok.inj h
        exact ⟨m, rfl, rfl, UInt32.not_lt.1 hle⟩
    · rintro ⟨_, hs, hm', hle⟩
      obtain rfl := Option.some.inj hs
      obtain rfl := Option.some.inj hm'
      rw [if_neg (UInt32.not_lt.2 hle)]
  · have hnone : ¬∃ maxcpus, req.smp = some smp ∧ req.maxcpus = some maxcpus ∧ smp ≤ maxcpus := by
      rintro ⟨maxcpus, hs, hm, -⟩
      simp [hs, hm] at hmissing
    have htotal := total.toNat_lt_size
    have hword : UInt32.size < UInt64.size := by decide
    rw [bootCpus_of_missing hmissing, or_iff_right hnone, and_iff_right hmissing]
    by_cases hlt : req.hotplug r threads.toNat < total.toNat
    · have hrest : (UInt32.ofNat (total.toNat - req.hotplug r threads.toNat)).toNat =
          total.toNat - req.hotplug r threads.toNat := UInt32.toNat_ofNat_of_lt (by omega)
      rw [if_neg (by omega), if_pos hlt, Except.ok.injEq, ← UInt32.toNat_inj, hrest]
      omega
    · refine iff_of_false (fun h => ?_) (by omega)
      rw [if_neg hlt] at h
      split at h <;> cases h

/-! ## The solver -/

/-- The stages of a request that is solved. -/
theorem solve_eq_ok_iff {t : CpuTopology} :
    solve req r = .ok t ↔ ∃ n sizes smp, total req (legalSizes r req.sizes) = .ok n ∧
      arrange req r (legalSizes r req.sizes) n = .ok sizes ∧
      (document r n smp sizes).product? = some n.toNat ∧
      bootCpus req r n (sizes .threads) = .ok smp ∧ document r n smp sizes = t := by
  constructor
  · intro h
    obtain ⟨n, hn, h⟩ := bind_eq_ok.1 h
    obtain ⟨sizes, hsizes, h⟩ := bind_eq_ok.1 h
    simp only at h
    split at h
    · cases h
    · next m hm =>
      split at h
      · cases h
      · next heq =>
        obtain ⟨smp, hsmp, h⟩ := bind_eq_ok.1 h
        obtain rfl := not_not.1 heq
        exact ⟨n, sizes, smp, hn, hsizes, hm, hsmp, Except.ok.inj h⟩
  · rintro ⟨n, sizes, smp, hn, hsizes, hm, hsmp, rfl⟩
    have hproduct : (document r n 0 sizes).product? = some n.toNat := hm
    rw [solve, bind_eq_ok]
    refine ⟨n, hn, bind_eq_ok.2 ⟨sizes, hsizes, ?_⟩⟩
    simp only [hproduct, ne_eq, not_true, if_false]
    exact bind_eq_ok.2 ⟨smp, hsmp, rfl⟩

def Request.misfit (req : Request) (r : Rules) : TopologyError :=
  match req.taker? r with
  | some d => .indivisible (Named.name d) (.ofNat (req.demand r)) (req.product r)
  | none => .productMismatch (req.product r) (.ofNat (req.demand r))

section Solve

variable (hp : req.Proper)

include hp

theorem solve_of_overflow (hk : UInt64.size ≤ req.product r) :
    solve req r = .error .overflow := by
  have hgiven := product?_completed (r := r) (fun d => Request.given_pos hp)
    (fun d => Request.given_lt) fun d => Request.given_eq_one_of_not_allows
  rw [solve]
  simp only [total_legalSizes hp, if_neg (Nat.not_lt.2 hk)]
  by_cases hd : req.demand r < UInt32.size
  · simp only [if_pos hd]
    obtain h | h := arrange_of_overflow hp hk (.ofNat (req.demand r))
    · simp only [bind, Except.bind, h]
    · simp only [bind, Except.bind, h]
      rw [hgiven, ← Request.product, if_neg (Nat.not_lt.2 hk)]
      rfl
  · simp only [if_neg hd]
    rfl

theorem solve_of_large (hk : req.product r < UInt64.size) (hd : UInt32.size ≤ req.demand r) :
    solve req r = .error (.productMismatch (req.product r) 0) := by
  rw [solve]
  simp only [total_legalSizes hp, if_neg (Nat.not_lt.2 hd), if_pos hk]
  rfl

theorem solve_of_fits (hf : req.Fits r) (hd : req.demand r < UInt32.size) :
    solve req r =
      (bootCpus req r (.ofNat (req.demand r)) (.ofNat (req.share r .threads))).map fun smp =>
        document r (.ofNat (req.demand r)) smp fun d => .ofNat (req.share r d) := by
  have hk : req.product r < UInt64.size :=
    Nat.lt_of_le_of_lt (Request.product_le_demand hp hf) (Nat.lt_trans hd (by decide))
  have harrange : arrange req r (legalSizes r req.sizes) (.ofNat (req.demand r)) =
      .ok fun d => .ofNat (req.share r d) := by
    rw [arrange_legalSizes hp hk hd]
    cases ht : req.taker? r with
    | none => rfl
    | some d => simp only [if_pos ((Request.fits_iff_of_taker? ht).1 hf)]
  have hproduct := product?_completed (r := r) (fun d => Request.share_pos hp hf)
    (fun d => Request.share_lt hd) fun d => Request.share_eq_one_of_not_allows
  have hlt : req.demand r < UInt64.size := Nat.lt_trans hd (by decide)
  rw [solve]
  simp only [total_legalSizes hp, if_pos hd, bind, Except.bind, harrange]
  rw [hproduct, Request.prod_share hf, if_pos hlt]
  simp only [Request.toNat_ofNat_demand hd, ne_eq, not_true, if_false]
  rfl

theorem solve_of_not_fits (hf : ¬req.Fits r) (hk : req.product r < UInt64.size)
    (hd : req.demand r < UInt32.size) : solve req r = .error (req.misfit r) := by
  rw [solve]
  simp only [total_legalSizes hp, if_pos hd, bind, Except.bind, arrange_legalSizes hp hk hd,
    Request.misfit]
  cases ht : req.taker? r with
  | some d =>
    rw [Request.fits_iff_of_taker? ht] at hf
    simp only [if_neg hf]
  | none =>
    -- nothing is worked out here, and the product is found wrong in the end
    rw [Request.fits_iff_of_none ht] at hf
    have hproduct := product?_completed (r := r) (fun d => Request.given_pos hp)
      (fun d => Request.given_lt) fun d => Request.given_eq_one_of_not_allows
    simp only [fun d => Request.share_eq_given (d := d) ht]
    rw [hproduct, ← Request.product, if_pos hk]
    simp only [Request.toNat_ofNat_demand hd]
    rw [if_pos hf]
    rfl

/-- What becomes of a request. -/
theorem solve_eq :
    solve req r =
      if UInt64.size ≤ req.product r then .error .overflow
      else if UInt32.size ≤ req.demand r then .error (.productMismatch (req.product r) 0)
      else if req.Fits r then
        (bootCpus req r (.ofNat (req.demand r)) (.ofNat (req.share r .threads))).map fun smp =>
          document r (.ofNat (req.demand r)) smp fun d => .ofNat (req.share r d)
      else .error (req.misfit r) := by
  by_cases hk : UInt64.size ≤ req.product r
  · rw [if_pos hk, solve_of_overflow hp hk]
  · rw [if_neg hk]
    by_cases hd : UInt32.size ≤ req.demand r
    · rw [if_pos hd, solve_of_large hp (Nat.lt_of_not_ge hk) hd]
    · rw [if_neg hd]
      by_cases hf : req.Fits r
      · rw [if_pos hf, solve_of_fits hp hf (Nat.lt_of_not_ge hd)]
      · rw [if_neg hf, solve_of_not_fits hp hf (Nat.lt_of_not_ge hk) (Nat.lt_of_not_ge hd)]

end Solve

/-- Four processors are four sockets, or four cores where cores come first. -/
example : (solve ⟨some 4, none, fun _ => none, []⟩ ⟨false, false, false, false, false, false⟩ =
      .ok ⟨4, 4, 4, 1, 1, none, none, none, none⟩) ∧
    (solve ⟨some 4, none, fun _ => none, []⟩ ⟨false, false, false, false, true, false⟩ =
      .ok ⟨4, 4, 1, 4, 1, none, none, none, none⟩) := by
  decide

end Topology

end GuestSpec
