import GuestSpec.Proofs.Device.Leases
import Mathlib

/-!
# Steps that overflow

A guarantee is about the results of a step. Here is what goes with it for the errors: a step of a
compilation ends in an overflow for a certain reason only. Most steps do so for no reason at all,
and they hand out no identifiers either, which a source may count in a number of bounded size.
-/

namespace GuestSpec

/-- Unless it is another error, a result is an overflow exactly under a condition. -/
def OverflowsIff {α : Type} (r : Except CompileError α) (C : Prop) : Prop :=
  (∀ e, r = .error e → e = .overflow) → (r = .error .overflow ↔ C)

theorem OverflowsIff.intro {α : Type} {r : Except CompileError α} {C : Prop}
    (herror : r = .error .overflow → C) (hok : ∀ a, r = .ok a → ¬ C) : OverflowsIff r C := by
  intro hr
  refine ⟨herror, fun hC => ?_⟩
  cases r with
  | error e => rw [hr e rfl]
  | ok a => exact absurd hC (hok a rfl)

def Identifiers.afterMacs {I : Type} [Identifiers I] (ids : I) (nics : List String) : I :=
  nics.foldl (fun ids nic => (Identifiers.mac nic ids).2) ids

/-- A source of identifiers is asked for some addresses, and not for more than a certain number. -/
def Identifiers.Leads {I : Type} [Identifiers I] (k : Nat) (ids ids' : I) : Prop :=
  ∃ nics : List String, nics.length ≤ k ∧ ids' = afterMacs ids nics

namespace Identifiers

variable {I : Type} [Identifiers I] {k k' : Nat} {ids ids' ids'' : I}

theorem Leads.refl (k : Nat) (ids : I) : Leads k ids ids := ⟨[], Nat.zero_le k, rfl⟩

theorem Leads.mono (hk : k ≤ k') (h : Leads k ids ids') : Leads k' ids ids' := by
  obtain ⟨nics, hnics, rfl⟩ := h
  exact ⟨nics, hnics.trans hk, rfl⟩

theorem Leads.trans (h : Leads k ids ids') (h' : Leads k' ids' ids'') :
    Leads (k + k') ids ids'' := by
  obtain ⟨nics, hnics, rfl⟩ := h
  obtain ⟨nics', hnics', rfl⟩ := h'
  refine ⟨nics ++ nics', ?_, List.foldl_append.symm⟩
  rw [List.length_append]
  exact Nat.add_le_add hnics hnics'

end Identifiers

theorem IdSource.afterMacs_sequential (uuids : BitVec 128) (macs : UInt32) (nics : List String) :
    Identifiers.afterMacs (sequential uuids macs) nics =
      sequential uuids (macs + UInt32.ofNat nics.length) := by
  induction nics generalizing macs with
  | nil => simp [Identifiers.afterMacs]
  | cons nic nics ih =>
    change Identifiers.afterMacs (sequential uuids (macs + 1)) nics = _
    rw [ih, List.length_cons, UInt32.ofNat_add, UInt32.add_assoc, UInt32.add_comm 1]
    rfl

/-- A source that counts its addresses goes on without starting over, as long as it has not counted
all of them. -/
def IdSource.CountsOn (k : Nat) (ids ids' : IdSource) : Prop :=
  ∀ uuids macs, ids = .sequential uuids macs → macs.toNat + k < UInt32.size →
    ∃ macs', ids' = .sequential uuids macs' ∧ macs.toNat ≤ macs'.toNat ∧
      macs'.toNat ≤ macs.toNat + k

theorem Identifiers.Leads.countsOn {k : Nat} {ids ids' : IdSource} (h : Leads k ids ids') :
    ids.CountsOn k ids' := by
  rintro uuids macs rfl hroom
  obtain ⟨nics, hnics, rfl⟩ := h
  have hsum : (macs + UInt32.ofNat nics.length).toNat = macs.toNat + nics.length := by
    rw [UInt32.toNat_add, UInt32.toNat_ofNat_of_lt' (by omega)]
    exact Nat.mod_eq_of_lt (by change _ < UInt32.size; omega)
  exact ⟨_, IdSource.afterMacs_sequential uuids macs nics, by omega, by omega⟩

/-! ## Steps that lease -/

def Leasing.Bounded {α H : Type} (x : Leasing H α) : Prop := ∀ l, x.run l ≠ .error .overflow

namespace Leasing.Bounded

variable {α β H : Type}

theorem ret (a : α) : Bounded (pure a : Leasing H α) := fun _ => nofun

theorem throw {e : CompileError} (h : e ≠ .overflow) : Bounded (throw e : Leasing H α) :=
  fun _ he => h (Except.error.inj he)

theorem bind {x : Leasing H α} {f : α → Leasing H β} (hx : Bounded x) (hf : ∀ a, Bounded (f a)) :
    Bounded (x >>= f) := by
  intro l h
  rw [StateT.run_bind] at h
  cases hrun : x.run l with
  | error e =>
    rw [hrun] at h
    exact hx l (hrun.trans (congrArg _ (Except.error.inj h)))
  | ok r =>
    rw [hrun] at h
    exact hf r.1 r.2 h

theorem parameters (x : Except Parameters.Error α) :
    Bounded (liftM (CompileError.ofParameters x) : Leasing H α) := by
  cases x with
  | error e => exact fun _ h => nomatch Except.error.inj h
  | ok a => exact ret a

end Leasing.Bounded

/-! ## Results -/

/-- A result is an overflow only under a condition, and other than an error only as described. -/
def Settled {α : Type} (C : Prop) (Q : α → Prop) (r : Except CompileError α) : Prop :=
  (r = .error .overflow → C) ∧ ∀ a, r = .ok a → Q a

namespace Settled

variable {α β : Type} {C : Prop} {P : α → Prop} {Q : β → Prop}

theorem ret {b : β} (h : Q b) : Settled C Q (pure b) := ⟨nofun, fun _ hb => Except.ok.inj hb ▸ h⟩

theorem fail {e : CompileError} (h : e ≠ .overflow) : Settled C Q (throw e) :=
  ⟨fun he => absurd (Except.error.inj he) h, fun _ hb => nomatch hb⟩

theorem bind {x : Except CompileError α} {f : α → Except CompileError β} (hx : Settled C P x)
    (hf : ∀ a, P a → Settled C Q (f a)) : Settled C Q (x >>= f) := by
  cases x with
  | error e => exact ⟨fun he => hx.1 (congrArg _ (Except.error.inj he)), fun _ hb => nomatch hb⟩
  | ok a => exact hf a (hx.2 a rfl)

theorem parameters (x : Except Parameters.Error α) :
    Settled C (fun a => x = .ok a) (liftM x : Except CompileError α) := by
  cases x with
  | error e => exact fail nofun
  | ok a => exact ret rfl

theorem refused {D : Prop} [Decidable D] {e : CompileError} {f : α → Except CompileError β}
    {x : Except CompileError β} (he : e ≠ .overflow) (h : Settled C Q x) :
    Settled C Q (if D then throw e >>= f else x) := by
  by_cases hD : D
  · rw [if_pos hD]
    exact bind (P := fun _ => False) (fail he) nofun
  · rw [if_neg hD]
    exact h

theorem mono {C' : Prop} {r : Except CompileError β} {Q' : β → Prop} (h : Settled C Q r)
    (hC : C → C') (hQ : ∀ b, Q b → Q' b) : Settled C' Q' r :=
  ⟨fun hr => hC (h.1 hr), fun b hb => hQ b (h.2 b hb)⟩

end Settled

namespace Guarantee

variable {m : Type → Type} [Monad m] {α β : Type} {G : Guarantee m}

/-- A guarantee that can be given of every step, if it says nothing. -/
def Total (G : Guarantee m) : Prop := ∀ {α : Type} (x : m α), G.Holds x fun _ => True

theorem total_plain_state {σ : Type} : (plain.state : Guarantee (StateM σ)).Total :=
  fun _ _ => trivial

theorem Total.compiling (hG : G.Total) (x : Compiling H I m α) :
    (G.compiling H I).Holds x fun _ => True :=
  fun s => G.mono (hG (x.run.run s)) fun _ _ _ _ => trivial

/-! ## Steps that ask -/

theorem run_bind_holds {x : Build m α} {f : α → Build m β} {P : Except CompileError α → Prop}
    {R : Except CompileError β → Prop} (hx : G.Holds x.run P)
    (herror : ∀ e, P (.error e) → R (.error e))
    (hf : ∀ a, G.Holds (f a).run fun r => P (.ok a) → R r) : G.Holds (x >>= f).run R := by
  refine G.bind hx fun r => ?_
  cases r with
  | error e => exact G.ret (herror e)
  | ok a => exact hf a

def OverflowsOnly (G : Guarantee m) (C : Prop) (x : Build m α) : Prop :=
  G.Holds x.run fun r => r = .error .overflow → C

variable {C : Prop}

theorem overflowsOnly_pure (a : α) : G.OverflowsOnly C (pure a) := G.ret nofun

theorem overflowsOnly_throw {e : CompileError} (h : e ≠ .overflow) :
    G.OverflowsOnly C (throw e : Build m α) :=
  G.ret fun he => absurd (Except.error.inj he) h

theorem overflowsOnly_bind {x : Build m α} {f : α → Build m β} (hx : G.OverflowsOnly C x)
    (hf : ∀ a, G.OverflowsOnly C (f a)) : G.OverflowsOnly C (x >>= f) :=
  run_bind_holds hx (fun _ h he => h (congrArg _ (Except.error.inj he)))
    fun a => G.mono (hf a) fun _ h _ => h

theorem overflowsOnly_parameters (x : Except Parameters.Error α) :
    G.OverflowsOnly C (liftM x : Build m α) := by
  cases x with
  | error e => exact G.ret fun he => nomatch Except.error.inj he
  | ok a => exact overflowsOnly_pure a

theorem settled_bind {x : Build m α} {f : α → Build m β} {Q : β → Prop} (hx : G.OverflowsOnly C x)
    (hf : ∀ a, G.Holds (f a).run (Settled C Q)) : G.Holds (x >>= f).run (Settled C Q) :=
  run_bind_holds hx
    (fun _ h => ⟨fun he => h (congrArg _ (Except.error.inj he)), fun _ hb => nomatch hb⟩)
    fun a => G.mono (hf a) fun _ h _ => h

variable [LawfulMonad m]

theorem settled_bind_attempt {x : Except CompileError α} {f : α → Build m β} {P : α → Prop}
    {Q : β → Prop} (hx : Settled C P x)
    (hf : ∀ a, x = .ok a → P a → G.Holds (f a).run (Settled C Q)) :
    G.Holds ((liftM x : Build m α) >>= f).run (Settled C Q) := by
  change G.Holds (pure x >>= ExceptT.bindCont f) _
  rw [pure_bind]
  cases x with
  | error e =>
    exact G.ret ⟨fun he => hx.1 (congrArg _ (Except.error.inj he)), fun _ hb => nomatch hb⟩
  | ok a => exact hf a rfl (hx.2 a rfl)

theorem settled_bind_parameters {x : Except Parameters.Error α} {f : α → Build m β} {Q : β → Prop}
    (hf : ∀ a, x = .ok a → G.Holds (f a).run (Settled C Q)) :
    G.Holds ((liftM x : Build m α) >>= f).run (Settled C Q) := by
  change G.Holds ((liftM (CompileError.ofParameters x) : Build m α) >>= f).run _
  exact settled_bind_attempt (Settled.parameters x) fun a _ ha => hf a ha

variable (hG : G.Total)

theorem overflowsOnly_mapM {f : α → Build m β} (hf : ∀ a, G.OverflowsOnly C (f a)) (xs : List α) :
    G.OverflowsOnly C (xs.mapM f) := by
  induction xs with
  | nil =>
    rw [List.mapM_nil]
    exact overflowsOnly_pure _
  | cons x xs ih =>
    rw [List.mapM_cons]
    exact overflowsOnly_bind (hf x) fun y => overflowsOnly_bind ih fun ys => overflowsOnly_pure _

include hG

theorem overflowsOnly_lift (x : m α) : G.OverflowsOnly C (liftM x : Build m α) :=
  G.map_holds (G.mono (hG x) fun _ _ h => nomatch h)

theorem overflowsOnly_requireDevice (t : Target m) (name : String) :
    G.OverflowsOnly C (t.requireDevice name) := by
  refine overflowsOnly_bind (overflowsOnly_lift hG _) fun b => ?_
  cases b with
  | false => exact overflowsOnly_throw nofun
  | true => exact overflowsOnly_pure _

theorem overflowsOnly_requireObject (t : Target m) (name : String) :
    G.OverflowsOnly C (t.requireObject name) := by
  refine overflowsOnly_bind (overflowsOnly_lift hG _) fun b => ?_
  cases b with
  | false => exact overflowsOnly_throw nofun
  | true => exact overflowsOnly_pure _

omit hG

/-! ## Steps that hand something out -/

/-- A step ends in an overflow only under a condition, and it hands out no more than a certain
number of addresses. -/
def Reckons (G : Guarantee m) (H I : Type) [Identifiers I] (C : Prop) (k : Nat)
    (x : Compiling H I m α) : Prop :=
  ∀ s, G.Holds (x.run.run s) fun r =>
    (r.1 = .error .overflow → C) ∧ Identifiers.Leads k s.ids r.2.ids

section Reckons

variable {H I : Type} [Identifiers I] {k k' : Nat}

omit [LawfulMonad m] in
theorem reckons_mono {C' : Prop} {x : Compiling H I m α} (hx : G.Reckons H I C k x) (hC : C → C')
    (hk : k ≤ k') : G.Reckons H I C' k' x :=
  fun s => G.mono (hx s) fun _ h => ⟨fun hr => hC (h.1 hr), h.2.mono hk⟩

omit [LawfulMonad m] in
theorem reckons_pure (a : α) : G.Reckons H I C 0 (pure a) := fun s => G.ret ⟨nofun, .refl 0 s.ids⟩

omit [LawfulMonad m] in
theorem reckons_throw {e : CompileError} (h : e ≠ .overflow) :
    G.Reckons H I C 0 (throw e : Compiling H I m α) :=
  fun s => G.ret ⟨fun he => absurd (Except.error.inj he) h, .refl 0 s.ids⟩

omit [LawfulMonad m] in
theorem reckons_bind {x : Compiling H I m α} {f : α → Compiling H I m β} (hx : G.Reckons H I C k x)
    (hf : ∀ a, G.Reckons H I C k' (f a)) : G.Reckons H I C (k + k') (x >>= f) := by
  intro s
  refine G.bind (hx s) fun r => ?_
  obtain ⟨r, s'⟩ := r
  cases r with
  | error e =>
    refine G.ret fun h => ⟨fun he => h.1 (congrArg _ (Except.error.inj he)), ?_⟩
    exact h.2.trans (.refl k' s'.ids)
  | ok a => exact G.mono (hf a s') fun _ h' h => ⟨h'.1, h.2.trans h'.2⟩

omit [LawfulMonad m] in
theorem reckons_bind_quiet {x : Compiling H I m α} {f : α → Compiling H I m β}
    (hx : G.Reckons H I C 0 x) (hf : ∀ a, G.Reckons H I C k (f a)) : G.Reckons H I C k (x >>= f) :=
  Nat.zero_add k ▸ reckons_bind hx hf

omit [LawfulMonad m] in
theorem reckons_lift {x : Build m α} (h : G.OverflowsOnly C x) : G.Reckons H I C 0 (liftM x) :=
  fun s => G.bind h fun _ => G.ret fun hr => ⟨hr, .refl 0 s.ids⟩

theorem reckons_mapM {f : α → Compiling H I m β} {xs : List α}
    (hf : ∀ x ∈ xs, G.Reckons H I C k (f x)) :
    G.Reckons H I C (xs.length * k) (xs.mapM f) := by
  induction xs with
  | nil =>
    rw [List.mapM_nil, List.length_nil, Nat.zero_mul]
    exact reckons_pure _
  | cons x xs ih =>
    obtain ⟨hx, hxs⟩ := List.forall_mem_cons.1 hf
    rw [List.mapM_cons, List.length_cons, Nat.succ_mul, Nat.add_comm]
    exact reckons_bind hx fun y => reckons_bind (ih hxs) fun ys => reckons_pure _

theorem reckons_bind_attempt {x : Except CompileError α} {f : α → Compiling H I m β}
    (hx : x = .error .overflow → C) (hf : ∀ a, x = .ok a → G.Reckons H I C k (f a)) :
    G.Reckons H I C k ((liftM x : Compiling H I m α) >>= f) := by
  intro s
  cases x with
  | error e =>
    rw [Compiling.run_bind_error f (Compiling.run_attempt _ s)]
    exact G.ret ⟨fun he => hx (congrArg _ (Except.error.inj he)), .refl k s.ids⟩
  | ok a =>
    rw [Compiling.run_bind_ok f (Compiling.run_attempt _ s)]
    exact hf a rfl s

theorem reckons_bind_parameters {x : Except Parameters.Error α} {f : α → Compiling H I m β}
    (hf : ∀ a, x = .ok a → G.Reckons H I C k (f a)) :
    G.Reckons H I C k ((liftM x : Compiling H I m α) >>= f) := by
  change G.Reckons H I C k ((liftM (CompileError.ofParameters x) : Compiling H I m α) >>= f)
  refine reckons_bind_attempt (fun h => ?_) fun a ha => hf a (eq_ok_of_ofParameters ha)
  cases x with
  | error e => exact nomatch Except.error.inj h
  | ok a => cases h

theorem reckons_leasing {x : Leasing H α} (h : Leasing.Bounded x) :
    G.Reckons H I C 0 (Compiling.leasing x) := by
  intro s
  rw [Compiling.run_leasing]
  cases hx : x.run s.leases with
  | error e => exact G.ret ⟨fun he => absurd (Except.error.inj he ▸ hx) (h _), .refl 0 s.ids⟩
  | ok r => exact G.ret ⟨nofun, .refl 0 s.ids⟩

theorem reckons_mac (nic : String) :
    G.Reckons H I C 1 (Compiling.identifier (Identifiers.mac nic)) := by
  intro s
  rw [Compiling.run_identifier]
  exact G.ret ⟨nofun, [nic], Nat.le_refl 1, rfl⟩

end Reckons

end Guarantee

end GuestSpec
