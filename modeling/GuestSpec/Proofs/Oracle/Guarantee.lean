import GuestSpec.Device.Plan

/-!
# Guarantees about steps that ask

A step of a compilation asks about the hypervisor, may fail, and may hand something out. A
`Guarantee` says what all results of a step have in common without saying what the hypervisor
answers or keeps in mind. It is made for plain steps and lifted to steps that may fail and to steps
with a state, so each function of the compiler has one lemma that serves every such reading.
-/

namespace GuestSpec

/-! ## Questions -/

inductive Question : Type → Type where
  | probe (c : Capability) : Question Bool
  | inInterval (i : Version.Interval) : Question Bool
  | hasDevice (name : String) : Question Bool
  | hasObject (name : String) : Question Bool
  | version : Question (Option Version)

def Oracle.ask {m : Type → Type} (o : Oracle m) {α : Type} : Question α → m α
  | .probe c => o.probe c
  | .inInterval i => o.inInterval i
  | .hasDevice name => o.hasDevice name
  | .hasObject name => o.hasObject name
  | .version => o.version

/-- Which answers to a question are possible. -/
structure Findings where
  allows : {α : Type} → Question α → α → Prop

def Findings.any : Findings := ⟨fun _ _ => True⟩

def Oracle.findings (u : Oracle Id) : Findings := ⟨fun q a => u.ask q = a⟩

theorem Oracle.allows_findings {u : Oracle Id} {α : Type} {q : Question α} {a : α} :
    u.findings.allows q a ↔ u.ask q = a := Iff.rfl

/-! ## Guarantees -/

/-- A way to say what holds of all results of a step. The rule for two steps asks for a guarantee of
the second whatever the first one gives: what the first guarantees becomes a premise of what the
second guarantees, not of there being a guarantee. -/
structure Guarantee (m : Type → Type) [Monad m] where
  Holds : {α : Type} → m α → (α → Prop) → Prop
  ret : ∀ {α : Type} {a : α} {Q : α → Prop}, Q a → Holds (pure a) Q
  bind : ∀ {α β : Type} {x : m α} {f : α → m β} {P : α → Prop} {Q : β → Prop},
    Holds x P → (∀ a, Holds (f a) fun b => P a → Q b) → Holds (x >>= f) Q
  mono : ∀ {α : Type} {x : m α} {P Q : α → Prop}, Holds x P → (∀ a, P a → Q a) → Holds x Q

namespace Guarantee

variable {m : Type → Type} [Monad m] {α β : Type}

def plain : Guarantee Id where
  Holds x Q := Q x.run
  ret h := h
  bind hx hf := hf _ hx
  mono hx h := h _ hx

/-- What holds of the result of a step that may fail and does nothing else. -/
def attempt {ε : Type} : Guarantee (Except ε) where
  Holds x Q := ∀ a, x = .ok a → Q a
  ret h a ha := Except.ok.inj ha ▸ h
  bind {_ _ x f _ _} hx hf b hb := by
    cases x with
    | error e => cases hb
    | ok a => exact hf a b hb (hx a rfl)
  mono hx h a ha := h a (hx a ha)

/-- A guarantee for steps that may fail. It is about their results only. -/
def except {ε : Type} (G : Guarantee m) : Guarantee (ExceptT ε m) where
  Holds x Q := G.Holds x.run fun r => ∀ a, r = .ok a → Q a
  ret h := G.ret fun _ ha => Except.ok.inj ha ▸ h
  bind hx hf := G.bind hx fun r => by
    cases r with
    | error e => exact G.ret fun _ b hb => nomatch hb
    | ok a => exact G.mono (hf a) fun r hr hP b hb => hr b hb (hP a rfl)
  mono hx h := G.mono hx fun _ hr a ha => h a (hr a ha)

/-- A guarantee for steps with a state, whatever the state is. -/
def state {σ : Type} (G : Guarantee m) : Guarantee (StateT σ m) where
  Holds x Q := ∀ s, G.Holds (x.run s) fun r => Q r.1
  ret h _ := G.ret h
  bind hx hf s := G.bind (hx s) fun r => hf r.1 r.2
  mono hx h s := G.mono (hx s) fun r => h r.1

abbrev build (G : Guarantee m) : Guarantee (Build m) := G.except

abbrev compiling (G : Guarantee m) (H I : Type) : Guarantee (Compiling H I m) := G.state.except

abbrev leasing (H : Type) : Guarantee (Leasing H) := attempt.state

abbrev alloc : Guarantee Alloc := plain.state.except

def Finds (G : Guarantee m) (o : Oracle m) (K : Findings) : Prop :=
  ∀ {α : Type} (q : Question α), G.Holds (o.ask q) (K.allows q)

/-! ## Rules -/

theorem eq_ok_of_ofParameters {x : Except Parameters.Error α} {a : α}
    (h : CompileError.ofParameters x = .ok a) : x = .ok a := by
  cases x with
  | error e => cases h
  | ok b => rw [Except.ok.inj h]

section Rules

variable (G : Guarantee m) {Q : β → Prop}

theorem attempt_trivial {ε : Type} {x : Except ε α} : attempt.Holds x fun _ => True :=
  fun _ _ => trivial

theorem attempt_parameters {x : Except Parameters.Error β} (h : attempt.Holds x Q) :
    attempt.Holds (liftM x : Except CompileError β) Q :=
  fun b hb => h b (eq_ok_of_ofParameters hb)

theorem except_throw {ε : Type} {e : ε} :
    (G.except : Guarantee (ExceptT ε m)).Holds (throw e : ExceptT ε m β) Q :=
  G.ret fun _ ha => nomatch ha

/-- A step that is refused under a condition gives results only without it. -/
theorem attempt_unless {ε : Type} {P : Prop} [Decidable P] {e : ε} {f : α → Except ε β}
    {x : Except ε β} (h : ¬ P → attempt.Holds x Q) :
    attempt.Holds (if P then throw e >>= f else x) Q := by
  by_cases hP : P
  · rw [if_pos hP]
    exact fun _ h => nomatch h
  · rw [if_neg hP]
    exact h hP

/-- Steps that take in the items of a list keep a property of the items taken in so far. -/
theorem foldlM_along {f : β → α → m β} {I : List α → β → Prop}
    (h : ∀ done b a, G.Holds (f b a) fun b' => I done b → I (done ++ [a]) b') (xs : List α)
    (done : List α) (b : β) :
    G.Holds (xs.foldlM f b) fun b' => I done b → I (done ++ xs) b' := by
  induction xs generalizing done b with
  | nil => exact G.ret fun hb => by rwa [List.append_nil]
  | cons x xs ih =>
    rw [List.foldlM_cons]
    refine G.bind (h done b x) fun b' => G.mono (ih (done ++ [x]) b') fun b'' h' hx hb => ?_
    rw [← List.singleton_append, ← List.append_assoc]
    exact h' (hx hb)

theorem foldlM_holds {f : β → α → m β} {I : β → Prop}
    (h : ∀ b a, G.Holds (f b a) fun b' => I b → I b') (xs : List α) (b : β) :
    G.Holds (xs.foldlM f b) fun b' => I b → I b' :=
  G.foldlM_along (I := fun _ => I) (fun _ => h) xs [] b

variable [LawfulMonad m]

theorem map_holds {x : m α} {f : α → β} (h : G.Holds x fun a => Q (f a)) :
    G.Holds (f <$> x) Q := by
  rw [map_eq_pure_bind]
  exact G.bind h fun a => G.ret fun ha => ha

theorem except_lift {ε : Type} {x : m β} (h : G.Holds x Q) :
    (G.except : Guarantee (ExceptT ε m)).Holds (liftM x) Q :=
  G.map_holds (G.mono h fun _ ha _ hb => Except.ok.inj hb ▸ ha)

theorem bind_attempt {x : Except CompileError α} {f : α → Build m β}
    (h : ∀ a, x = .ok a → G.build.Holds (f a) Q) :
    G.build.Holds ((liftM x : Build m α) >>= f) Q := by
  change G.Holds (pure x >>= ExceptT.bindCont f) _
  rw [pure_bind]
  cases x with
  | error e => exact G.except_throw
  | ok a => exact h a rfl

theorem bind_parameters {x : Except Parameters.Error α} {f : α → Build m β}
    (h : ∀ a, x = .ok a → G.build.Holds (f a) Q) :
    G.build.Holds ((liftM x : Build m α) >>= f) Q := by
  change G.build.Holds ((liftM (CompileError.ofParameters x) : Build m α) >>= f) Q
  exact G.bind_attempt fun a ha => h a (eq_ok_of_ofParameters ha)

theorem mapM_from {f : α → m β} {R : α → β → Prop} (h : ∀ a, G.Holds (f a) (R a)) (xs : List α) :
    G.Holds (xs.mapM f) fun ys => ∀ y ∈ ys, ∃ x ∈ xs, R x y := by
  induction xs with
  | nil =>
    rw [List.mapM_nil]
    exact G.ret nofun
  | cons x xs ih =>
    rw [List.mapM_cons]
    refine G.bind (h x) fun y => G.bind ih fun ys => G.ret fun hys hy z hz => ?_
    obtain rfl | hz := List.mem_cons.1 hz
    · exact ⟨x, List.mem_cons_self, hy⟩
    · obtain ⟨x', hx', hR⟩ := hys z hz
      exact ⟨x', List.mem_cons_of_mem _ hx', hR⟩

theorem mapM_all {f : α → m β} (h : ∀ a, G.Holds (f a) Q) (xs : List α) :
    G.Holds (xs.mapM f) fun ys => ∀ y ∈ ys, Q y :=
  G.mono (G.mapM_from (R := fun _ => Q) h xs) fun _ hys y hy => (hys y hy).choose_spec.2

end Rules

section Target

variable [LawfulMonad m] {G : Guarantee m} {t : Target m} {K : Findings}

theorem holds_probe (hK : G.Finds t.oracle K) (c : Capability) :
    G.build.Holds (t.probe c) (K.allows (.probe c)) :=
  G.except_lift (hK (.probe c))

theorem holds_requireDevice (hK : G.Finds t.oracle K) (name : String) :
    G.build.Holds (t.requireDevice name) fun _ => K.allows (.hasDevice name) true := by
  refine G.build.bind (G.except_lift (hK (.hasDevice name))) fun b => ?_
  cases b with
  | false => exact G.except_throw
  | true => exact G.build.ret fun h => h

theorem holds_requireObject (hK : G.Finds t.oracle K) (name : String) :
    G.build.Holds (t.requireObject name) fun _ => K.allows (.hasObject name) true := by
  refine G.build.bind (G.except_lift (hK (.hasObject name))) fun b => ?_
  cases b with
  | false => exact G.except_throw
  | true => exact G.build.ret fun h => h

end Target

section Compiling

variable {H I : Type} {G : Guarantee m} {P : α → Prop}

theorem compiling_lift {x : Build m α} (h : G.build.Holds x P) :
    (G.compiling H I).Holds (liftM x) P :=
  fun _ => G.bind h fun _ => G.ret fun hr => hr

variable [LawfulMonad m]

theorem compiling_get :
    (G.compiling H I).Holds get fun _ => True :=
  G.state.except_lift fun _ => G.ret trivial

theorem compiling_set (s : Supply H I) :
    (G.compiling H I).Holds (set s) fun _ => True :=
  G.state.except_lift fun _ => G.ret trivial

theorem compiling_leasing {x : Leasing H α} (h : (leasing H).Holds x P) :
    (G.compiling H I).Holds (Compiling.leasing x) P := by
  refine (G.compiling H I).bind compiling_get fun s => G.state.bind_attempt fun r hr => ?_
  refine (G.compiling H I).bind (compiling_set _) fun _ => (G.compiling H I).ret fun _ _ => ?_
  exact h s.leases r hr

theorem compiling_leasing_trivial {x : Leasing H α} :
    (G.compiling H I).Holds (Compiling.leasing x) fun _ => True :=
  compiling_leasing fun _ => attempt_trivial

theorem compiling_identifier {x : StateM I α} :
    (G.compiling H I).Holds (Compiling.identifier x) fun _ => True := by
  refine (G.compiling H I).bind compiling_get fun s => ?_
  refine (G.compiling H I).bind (compiling_set _) fun _ => ?_
  exact (G.compiling H I).ret fun _ _ => trivial

end Compiling

/-! ## Results that are known -/

/-- A step gives what another step gives that asks an oracle without effects. -/
def Gives (G : Guarantee m) (x : Build m α) (y : Build Id α) : Prop :=
  G.Holds x.run fun r => r = y.run.run

end Guarantee

def Target.on {m : Type → Type} (t : Target m) (u : Oracle Id) : Target Id :=
  ⟨u, t.family, t.machineType⟩

namespace Guarantee

variable {m : Type → Type} [Monad m] {α β : Type} {G : Guarantee m}

theorem gives_pure (a : α) : G.Gives (pure a) (pure a) := G.ret rfl

theorem gives_throw (e : CompileError) : G.Gives (throw e : Build m α) (throw e) := G.ret rfl

theorem gives_attempt (x : Except CompileError α) : G.Gives (liftM x) (liftM x) := G.ret rfl

theorem gives_parameters (x : Except Parameters.Error α) : G.Gives (liftM x) (liftM x) := G.ret rfl

theorem run_bind (y : Build Id α) (g : α → Build Id β) :
    (y >>= g).run.run =
      match y.run.run with
      | .ok a => (g a).run.run
      | .error e => .error e := by
  change (ExceptT.bindCont g y.run.run : Id _) = _
  cases y.run.run <;> rfl

theorem gives_bind {x : Build m α} {y : Build Id α} {f : α → Build m β} {g : α → Build Id β}
    (hx : G.Gives x y) (hf : ∀ a, G.Gives (f a) (g a)) : G.Gives (x >>= f) (y >>= g) := by
  refine G.bind hx fun r => ?_
  rw [run_bind]
  cases r with
  | error e =>
    refine G.ret fun he => ?_
    rw [← he]
  | ok a =>
    refine G.mono (hf a) fun r' hr ha => ?_
    rw [← ha]
    exact hr

variable [LawfulMonad m]

theorem gives_mapM {f : α → Build m β} {g : α → Build Id β} (h : ∀ a, G.Gives (f a) (g a))
    (xs : List α) : G.Gives (xs.mapM f) (xs.mapM g) := by
  induction xs with
  | nil =>
    rw [List.mapM_nil, List.mapM_nil]
    exact gives_pure _
  | cons x xs ih =>
    rw [List.mapM_cons, List.mapM_cons]
    exact gives_bind (h x) fun y => gives_bind ih fun ys => gives_pure _

section Target

variable {t : Target m} {u : Oracle Id} (hu : G.Finds t.oracle u.findings)

include hu

theorem gives_probe (c : Capability) : G.Gives (t.probe c) ((t.on u).probe c) :=
  G.map_holds (G.mono (hu (.probe c)) fun _ hb => congrArg Except.ok hb.symm)

theorem gives_requireDevice (name : String) :
    G.Gives (t.requireDevice name) ((t.on u).requireDevice name) := by
  refine gives_bind ?_ fun b => ?_
  · exact G.map_holds (G.mono (hu (.hasDevice name)) fun _ hb => congrArg Except.ok hb.symm)
  · cases b with
    | false => exact gives_throw _
    | true => exact gives_pure _

theorem gives_requireObject (name : String) :
    G.Gives (t.requireObject name) ((t.on u).requireObject name) := by
  refine gives_bind ?_ fun b => ?_
  · exact G.map_holds (G.mono (hu (.hasObject name)) fun _ hb => congrArg Except.ok hb.symm)
  · cases b with
    | false => exact gives_throw _
    | true => exact gives_pure _

end Target

end Guarantee

end GuestSpec
