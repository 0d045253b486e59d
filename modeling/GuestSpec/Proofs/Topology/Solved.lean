import GuestSpec.Proofs.Topology.Solving

/-!
# Solved requests for processors

Which requests are solved and what the arrangement then is, what every arrangement has in common,
when there is room in it for the processors that are plugged in later, and when a product leaves
the 64 bits.
-/

namespace GuestSpec

def CpuTopology.size? (t : CpuTopology) : Topology.Dimension → Option UInt32
  | .sockets => some t.sockets
  | .cores => some t.cores
  | .threads => some t.threads
  | .dies => t.dies
  | .clusters => t.clusters
  | .books => t.books
  | .drawers => t.drawers

/-- A product that stays in the 64 bits is the product. -/
theorem eq_foldl_of_wordProduct? {dims : List UInt32} {n : Nat} (h : wordProduct? dims = some n) :
    (dims.map UInt32.toNat).foldl (· * ·) 1 = n := by
  rw [wordProduct?] at h
  generalize 1 = acc at h ⊢
  induction dims generalizing acc with
  | nil => exact Option.some.inj h
  | cons d dims ih =>
    rw [List.foldlM_cons] at h
    by_cases hd : acc * d.toNat < UInt64.size
    · rw [if_pos hd] at h
      exact ih _ h
    · rw [if_neg hd] at h
      cases h

namespace Topology

variable {req : Request} {r : Rules} {t : CpuTopology}

theorem size?_document (total smp : UInt32) (sizes : Dimension → UInt32) (d : Dimension) :
    (document r total smp sizes).size? d = if r.allows d then some (sizes d) else none := by
  cases d <;> rfl

/-! ## Which requests are solved -/

theorem exists_bootCpus_iff (hd : req.demand r < UInt32.size) :
    (∃ smp, bootCpus req r (.ofNat (req.demand r)) (.ofNat (req.share r .threads)) = .ok smp) ↔
      req.Bootable r := by
  simp only [bootCpus_eq_ok_iff, Request.toNat_ofNat_demand hd, Request.toNat_ofNat_share hd]
  rw [Request.Bootable]
  obtain ⟨n, m, hn, hm⟩ | hmissing := both_or_missing req
  · simp [hn, hm]
  · split
    · next smp maxcpus hs hm => simp [hs, hm] at hmissing
    · constructor
      · rintro ⟨smp, ⟨maxcpus, hs, hm, -⟩ | ⟨-, hpos, hsum⟩⟩
        · simp [hs, hm] at hmissing
        · omega
      · intro hlt
        have hrest : (UInt32.ofNat (req.demand r - req.hotplug r (req.share r .threads))).toNat =
            req.demand r - req.hotplug r (req.share r .threads) :=
          UInt32.toNat_ofNat_of_lt (by omega)
        refine ⟨.ofNat (req.demand r - req.hotplug r (req.share r .threads)),
          .inr ⟨hmissing, ?_, ?_⟩⟩
        · omega
        · omega

theorem solve_eq_ok_iff_fits (hp : req.Proper) :
    solve req r = .ok t ↔ req.demand r < UInt32.size ∧ req.Fits r ∧ ∃ smp,
      bootCpus req r (.ofNat (req.demand r)) (.ofNat (req.share r .threads)) = .ok smp ∧
        document r (.ofNat (req.demand r)) smp (fun d => .ofNat (req.share r d)) = t := by
  have hword : UInt32.size < UInt64.size := by decide
  rw [solve_eq hp]
  by_cases hk : UInt64.size ≤ req.product r
  · rw [if_pos hk]
    refine iff_of_false (fun h => nomatch h) fun ⟨hd, hf, _⟩ => ?_
    have hle := Request.product_le_demand hp hf
    omega
  · rw [if_neg hk]
    by_cases hd : UInt32.size ≤ req.demand r
    · rw [if_pos hd]
      exact iff_of_false (fun h => nomatch h) fun h => Nat.not_lt.2 hd h.1
    · rw [if_neg hd]
      by_cases hf : req.Fits r
      · rw [if_pos hf]
        cases bootCpus req r (.ofNat (req.demand r)) (.ofNat (req.share r .threads)) with
        | error e => simp [Except.map]
        | ok smp => simp [Except.map, Nat.lt_of_not_le hd, hf]
      · rw [if_neg hf]
        exact iff_of_false (fun h => nomatch h) fun h => hf h.2.1

theorem size?_of_solve (hp : req.Proper) (h : solve req r = .ok t) (d : Dimension) :
    t.size? d = if r.allows d then some (.ofNat (req.share r d)) else none := by
  obtain ⟨-, -, smp, -, rfl⟩ := (solve_eq_ok_iff_fits hp).1 h
  exact size?_document _ _ _ d

/-- A request is solved exactly when its given dimensions can be completed to what is wanted, in 32
bits, and processors are left for the start. Then every dimension that is allowed counts its
share. -/
theorem exists_solve_iff (hp : req.Proper) :
    ((∃ t, solve req r = .ok t) ↔
      req.demand r < UInt32.size ∧ req.Fits r ∧ req.Bootable r) ∧
    ∀ t, solve req r = .ok t → ∀ d,
      (t.size? d).map UInt32.toNat = if r.allows d then some (req.share r d) else none := by
  refine ⟨⟨fun ⟨t, ht⟩ => ?_, fun ⟨hd, hf, hb⟩ => ?_⟩, fun t ht d => ?_⟩
  · obtain ⟨hd, hf, smp, hsmp, -⟩ := (solve_eq_ok_iff_fits hp).1 ht
    exact ⟨hd, hf, (exists_bootCpus_iff hd).1 ⟨smp, hsmp⟩⟩
  · obtain ⟨smp, hsmp⟩ := (exists_bootCpus_iff hd).2 hb
    exact ⟨_, (solve_eq_ok_iff_fits hp).2 ⟨hd, hf, smp, hsmp, rfl⟩⟩
  · obtain ⟨hd, -⟩ := (solve_eq_ok_iff_fits hp).1 ht
    rw [size?_of_solve hp ht]
    split
    · rw [Option.map_some, Request.toNat_ofNat_share hd]
    · rfl

/-- Dies are pinned: with two sockets of three cores with two threads there must be two of them for
24 processors. -/
theorem exists_solve_iff_dies :
    let sizes : Dimension → Option UInt32 := fun
      | .sockets => some 2
      | .cores => some 3
      | .threads => some 2
      | _ => none
    let req : Request := ⟨none, some 24, sizes, ["vcpu1", "vcpu2"]⟩
    let r : Rules := ⟨true, false, false, false, true, true⟩
    req.Proper ∧ req.Fits r ∧ req.Bootable r ∧ ∃ t, solve req r = .ok t ∧ t.dies = some 2 := by
  intro sizes req r
  have hp : req.Proper := ⟨by decide, by decide, by decide⟩
  have hf : req.Fits r := by decide
  have hb : req.Bootable r := by
    change req.hotplug r (req.share r .threads) < req.demand r
    decide
  obtain ⟨hiff, hall⟩ := exists_solve_iff (r := r) hp
  obtain ⟨t, ht⟩ := hiff.2 ⟨by decide, hf, hb⟩
  have hdies : t.dies.map UInt32.toNat = some 2 := (hall t ht .dies).trans (by decide)
  obtain ⟨n, hn, htwo⟩ := Option.map_eq_some_iff.1 hdies
  have heq : n = 2 := UInt32.toNat_inj.1 htwo
  exact ⟨hp, hf, hb, t, ht, heq ▸ hn⟩

/-! ## What every arrangement has in common -/

/-- An arrangement does what a request says. -/
structure Request.MetBy (req : Request) (r : Rules) (t : CpuTopology) : Prop where
  product : t.product = t.maxcpus.toNat
  smp_pos : 1 ≤ t.smp
  smp_le : t.smp ≤ t.maxcpus
  size_pos : ∀ d n, t.size? d = some n → 1 ≤ n
  given : ∀ d n, r.allows d = true → req.sizes d = some n → t.size? d = some n
  maxcpus : ∀ n, req.maxcpus = some n → t.maxcpus = n
  smp : ∀ n m, req.smp = some n → req.maxcpus = some m → t.smp = n
  /-- A document has just the dimensions that are allowed. -/
  present : ∀ d, (t.size? d).isSome = r.allows d

theorem product_eq_of_solve (h : solve req r = .ok t) : t.product = t.maxcpus.toNat := by
  obtain ⟨n, sizes, smp, -, -, hproduct, -, rfl⟩ := solve_eq_ok_iff.1 h
  exact eq_foldl_of_wordProduct? hproduct

theorem bootCpus_of_solve (h : solve req r = .ok t) :
    bootCpus req r t.maxcpus t.threads = .ok t.smp := by
  obtain ⟨n, sizes, smp, -, -, -, hsmp, rfl⟩ := solve_eq_ok_iff.1 h
  exact hsmp

theorem maxcpus_of_solve {n : UInt32} (h : solve req r = .ok t) (hn : req.maxcpus = some n) :
    t.maxcpus = n := by
  obtain ⟨m, sizes, smp, hm, -, -, -, rfl⟩ := solve_eq_ok_iff.1 h
  rw [total, hn] at hm
  exact (Except.ok.inj hm).symm

theorem smp_pos_of_solve (hp : req.Proper) (h : solve req r = .ok t) : 1 ≤ t.smp := by
  rw [UInt32.le_iff_toNat_le]
  obtain ⟨m, hs, -⟩ | ⟨-, hpos, -⟩ := bootCpus_eq_ok_iff.1 (bootCpus_of_solve h)
  · exact toNat_pos fun hzero => hp.smp (hzero ▸ hs)
  · exact hpos

theorem smp_le_of_solve (h : solve req r = .ok t) : t.smp ≤ t.maxcpus := by
  obtain ⟨m, -, hm, hle⟩ | ⟨-, -, hsum⟩ := bootCpus_eq_ok_iff.1 (bootCpus_of_solve h)
  · rw [maxcpus_of_solve h hm]
    exact hle
  · rw [UInt32.le_iff_toNat_le]
    omega

theorem smp_of_solve {n m : UInt32} (h : solve req r = .ok t) (hn : req.smp = some n)
    (hm : req.maxcpus = some m) : t.smp = n := by
  obtain ⟨_, hs, -⟩ | ⟨hmissing, -⟩ := bootCpus_eq_ok_iff.1 (bootCpus_of_solve h)
  · exact Option.some.inj (hs.symm.trans hn)
  · simp [hn, hm] at hmissing

theorem size_pos_of_solve (hp : req.Proper) (h : solve req r = .ok t) {d : Dimension}
    {n : UInt32} (hn : t.size? d = some n) : 1 ≤ n := by
  obtain ⟨hd, hf, -⟩ := (solve_eq_ok_iff_fits hp).1 h
  rw [size?_of_solve hp h] at hn
  split at hn
  · obtain rfl := Option.some.inj hn
    rw [UInt32.le_iff_toNat_le, Request.toNat_ofNat_share hd]
    exact Request.share_pos hp hf
  · cases hn

theorem size?_of_given (hp : req.Proper) (h : solve req r = .ok t) {d : Dimension} {n : UInt32}
    (hallowed : r.allows d = true) (hn : req.sizes d = some n) : t.size? d = some n := by
  rw [size?_of_solve hp h, if_pos hallowed, Request.share_eq_of_sizes hallowed hn,
    UInt32.ofNat_toNat]

theorem isSome_size?_of_solve (hp : req.Proper) (h : solve req r = .ok t) (d : Dimension) :
    (t.size? d).isSome = r.allows d := by
  rw [size?_of_solve hp h]
  cases r.allows d <;> rfl

/-- Every arrangement does what its request says, whatever is worked out. -/
theorem metBy_of_solve (hp : req.Proper) (h : solve req r = .ok t) : req.MetBy r t where
  product := product_eq_of_solve h
  smp_pos := smp_pos_of_solve hp h
  smp_le := smp_le_of_solve h
  size_pos _ _ := size_pos_of_solve hp h
  given _ _ := size?_of_given hp h
  maxcpus _ := maxcpus_of_solve h
  smp _ _ := smp_of_solve h
  present := isSome_size?_of_solve hp h

/-- Both numbers are given, and the cores are left to work out. -/
theorem metBy_of_solve_cores :
    let sizes : Dimension → Option UInt32 := fun
      | .sockets => some 2
      | .dies => some 3
      | _ => none
    let req : Request := ⟨some 6, some 24, sizes, ["vcpu1"]⟩
    let r : Rules := ⟨true, false, false, false, true, false⟩
    let t : CpuTopology := ⟨6, 24, 2, 4, 1, some 3, none, none, none⟩
    req.Proper ∧ solve req r = .ok t ∧ req.MetBy r t := by
  intro sizes req r t
  have hp : req.Proper := ⟨by decide, by decide, by decide⟩
  have ht : solve req r = .ok t := by decide
  exact ⟨hp, ht, metBy_of_solve hp ht⟩

/-! ## Room for the processors that are plugged in later -/

/-- When both numbers are given, the solver does not look at what is plugged in later. -/
theorem solve_withDevices {smp maxcpus : UInt32} (h : solve req r = .ok t)
    (hs : req.smp = some smp) (hm : req.maxcpus = some maxcpus) (devices : List String) :
    solve { req with hotplugDevices := devices } r = .ok t := by
  obtain ⟨n, sizes, m, hn, hsizes, hproduct, hsmp, rfl⟩ := solve_eq_ok_iff.1 h
  refine solve_eq_ok_iff.2 ⟨n, sizes, m, hn, hsizes, hproduct, ?_, rfl⟩
  rw [bootCpus_of_both hs hm] at hsmp
  have hdevices := @bootCpus_of_both { req with hotplugDevices := devices } r smp maxcpus hs hm n
    (sizes .threads)
  exact hdevices.trans hsmp

theorem headroom_of_missing (h : solve req r = .ok t)
    (hmissing : req.smp = none ∨ req.maxcpus = none) :
    t.smp.toNat + req.hotplug r t.threads.toNat = t.maxcpus.toNat := by
  obtain ⟨m, hs, hm, -⟩ | ⟨-, -, hsum⟩ := bootCpus_eq_ok_iff.1 (bootCpus_of_solve h)
  · simp [hs, hm] at hmissing
  · exact hsum

/-- There is room for the processors that are plugged in later, except that two numbers that are
both given are taken as they are. When one is missing there is just as much room as is needed. -/
theorem headroom_iff (h : solve req r = .ok t) :
    (t.smp.toNat + req.hotplug r t.threads.toNat ≤ t.maxcpus.toNat ↔
      ∀ smp maxcpus, req.smp = some smp → req.maxcpus = some maxcpus →
        smp.toNat + req.hotplug r t.threads.toNat ≤ maxcpus.toNat) ∧
    (req.smp = none ∨ req.maxcpus = none →
      t.smp.toNat + req.hotplug r t.threads.toNat = t.maxcpus.toNat) ∧
    ∀ smp maxcpus, req.smp = some smp → req.maxcpus = some maxcpus →
      ∀ devices, solve { req with hotplugDevices := devices } r = .ok t := by
  refine ⟨⟨fun hroom smp maxcpus hs hm => ?_, fun hroom => ?_⟩, headroom_of_missing h,
    fun smp maxcpus => solve_withDevices h⟩
  · rw [smp_of_solve h hs hm, maxcpus_of_solve h hm] at hroom
    exact hroom
  · obtain ⟨smp, maxcpus, hs, hm⟩ | hmissing := both_or_missing req
    · rw [smp_of_solve h hs hm, maxcpus_of_solve h hm]
      exact hroom smp maxcpus hs hm
    · exact Nat.le_of_eq (headroom_of_missing h hmissing)

/-- Two cores with two threads are plugged in later, so four of eight processors are there at the
start. -/
theorem headroom_iff_cores :
    let sizes : Dimension → Option UInt32 := fun
      | .sockets => some 1
      | .threads => some 2
      | _ => none
    let req : Request := ⟨none, some 8, sizes, ["vcpu1", "vcpu2"]⟩
    let r : Rules := ⟨false, false, false, false, false, true⟩
    let t : CpuTopology := ⟨4, 8, 1, 4, 2, none, none, none, none⟩
    solve req r = .ok t ∧
      t.smp.toNat + req.hotplug r t.threads.toNat = t.maxcpus.toNat := by
  intro sizes req r t
  have ht : solve req r = .ok t := by decide
  exact ⟨ht, (headroom_iff ht).2.1 (.inl rfl)⟩

/-- One processor at the start, one at most, and yet one to plug in later. -/
theorem not_headroom_of_both :
    let req : Request := ⟨some 1, some 1, fun _ => none, ["vcpu1"]⟩
    let r : Rules := ⟨false, false, false, false, false, false⟩
    let t : CpuTopology := ⟨1, 1, 1, 1, 1, none, none, none, none⟩
    solve req r = .ok t ∧
      ¬t.smp.toNat + req.hotplug r t.threads.toNat ≤ t.maxcpus.toNat :=
  ⟨rfl, by decide⟩

/-! ## Products that leave the 64 bits -/

theorem bootCpus_eq_overflow_iff {total threads : UInt32} :
    bootCpus req r total threads = .error .overflow ↔
      (req.smp = none ∨ req.maxcpus = none) ∧ UInt64.size ≤ req.hotplug r threads.toNat := by
  obtain ⟨n, m, hn, hm⟩ | hmissing := both_or_missing req
  · rw [bootCpus_of_both hn hm]
    refine iff_of_false (fun h => ?_) fun h => by simp [hn, hm] at h
    split at h <;> cases h
  · rw [bootCpus_of_missing hmissing, and_iff_right hmissing]
    by_cases hlarge : UInt64.size ≤ req.hotplug r threads.toNat
    · rw [if_pos hlarge]
      exact iff_of_true rfl hlarge
    · rw [if_neg hlarge]
      refine iff_of_false (fun h => ?_) hlarge
      split at h <;> cases h

theorem misfit_ne_overflow : req.misfit r ≠ .overflow := by
  intro h
  rw [Request.misfit] at h
  split at h <;> cases h

theorem solve_eq_overflow_iff (hp : req.Proper) :
    solve req r = .error .overflow ↔ UInt64.size ≤ req.product r ∨
      (req.demand r < UInt32.size ∧ req.Fits r ∧ (req.smp = none ∨ req.maxcpus = none) ∧
        UInt64.size ≤ req.hotplug r (req.share r .threads)) := by
  rw [solve_eq hp]
  by_cases hk : UInt64.size ≤ req.product r
  · rw [if_pos hk]
    exact iff_of_true rfl (.inl hk)
  · rw [if_neg hk, or_iff_right hk]
    by_cases hd : UInt32.size ≤ req.demand r
    · rw [if_pos hd]
      exact iff_of_false (fun h => nomatch h) fun h => Nat.not_lt.2 hd h.1
    · rw [if_neg hd, and_iff_right (Nat.lt_of_not_le hd)]
      by_cases hf : req.Fits r
      · have hthreads := Request.toNat_ofNat_share (d := .threads) (Nat.lt_of_not_le hd)
        rw [if_pos hf, and_iff_right hf, ← hthreads, ← bootCpus_eq_overflow_iff, hthreads]
        cases bootCpus req r (.ofNat (req.demand r)) (.ofNat (req.share r .threads)) with
        | error e => simp [Except.map]
        | ok smp => simp [Except.map]
      · rw [if_neg hf]
        refine iff_of_false (fun h => ?_) fun h => hf h.1
        exact misfit_ne_overflow (Except.error.inj h)

/-- For what parameters ask for, a product leaves the 64 bits exactly when that of the given
dimensions does, or, once they are completed, that of the devices that are plugged in later with the
threads of a core. The latter takes more than `2 ^ 32` devices. -/
theorem overflows_iff {p : Parameters} (r : Rules) (h : Request.ofParameters p = .ok req) :
    (solve req r = .error .overflow ↔ UInt64.size ≤ req.product r ∨
      (req.demand r < UInt32.size ∧ req.Fits r ∧ (req.smp = none ∨ req.maxcpus = none) ∧
        UInt64.size ≤ req.hotplug r (req.share r .threads))) ∧
    (req.product r < UInt64.size → req.hotplugDevices.length ≤ UInt32.size →
      solve req r ≠ .error .overflow) := by
  have hiff := solve_eq_overflow_iff (r := r) (Request.proper_of_ofParameters h)
  refine ⟨hiff, fun hk hlength hoverflow => ?_⟩
  obtain hlarge | ⟨hd, -, -, hlarge⟩ := hiff.1 hoverflow
  · exact Nat.not_le.2 hk hlarge
  · have hunit : (if r.hotplugWholeCores then req.share r .threads else 1) < UInt32.size := by
      split
      · exact Request.share_lt hd
      · decide
    have hle := Nat.mul_le_mul hlength (Nat.le_pred_of_lt hunit)
    have hlt : UInt32.size * (UInt32.size - 1) < UInt64.size := by decide
    exact Nat.not_lt.2 (hlarge.trans hle) hlt

/-- Two sizes stay in the 64 bits, however large they are. -/
theorem overflows_iff_two_sizes :
    let p : Parameters :=
      .ofList [("smp", "4"), ("vcpu_sockets", "4294967295"), ("vcpu_cores", "4294967295")]
    ∃ req, Request.ofParameters p = .ok req ∧ solve req default ≠ .error .overflow := by
  intro p
  have hfits : (Request.ofParameters p).toOption.map (fun req =>
      decide (req.product default < UInt64.size ∧ req.hotplugDevices.length ≤ UInt32.size)) =
        some true := by decide +kernel
  cases h : Request.ofParameters p with
  | error e =>
    rw [h] at hfits
    cases hfits
  | ok req =>
    rw [h] at hfits
    obtain ⟨hk, hlength⟩ := of_decide_eq_true (Option.some.inj hfits)
    exact ⟨req, rfl, (overflows_iff default h).2 hk hlength⟩

/-- Three sizes can leave the 64 bits, and then a request has no answer. -/
theorem overflows_of_three_sizes :
    let p : Parameters := .ofList [("smp", "4"), ("vcpu_sockets", "4294967295"),
      ("vcpu_cores", "4294967295"), ("vcpu_threads", "2")]
    (Request.ofParameters p).toOption.map (solve · default) = some (.error .overflow) := by
  decide +kernel

end Topology

end GuestSpec
