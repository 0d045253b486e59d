import GuestSpec.Capability.Probe
import GuestSpec.Proofs.Oracle.Guarantee
import Mathlib.Logic.Relation

/-!
# Steady oracles

An oracle may have a state: a probe runs its queries only when they are needed, and what it answers
to a question that it was never asked may depend on what it was asked before. It is steady when it
never takes an answer back. What a steady oracle answers in the end is then what it answered all the
time, so `Oracle.answers` of the last state tells all that a compilation was told.
-/

namespace GuestSpec

namespace Oracle

variable {σ : Type} {α : Type}

def runFrom (x : StateM σ α) (s : σ) : α × σ := x.run s

def answers (o : Oracle (StateM σ)) (s : σ) : Oracle Id where
  probe c := (runFrom (o.probe c) s).1
  inInterval i := (runFrom (o.inInterval i) s).1
  hasDevice name := (runFrom (o.hasDevice name) s).1
  hasObject name := (runFrom (o.hasObject name) s).1
  version := (runFrom o.version s).1

theorem ask_answers (o : Oracle (StateM σ)) (s : σ) (q : Question α) :
    (o.answers s).ask q = (runFrom (o.ask q) s).1 := by
  cases q <;> rfl

/-- Some question leads from a state to another. -/
def Asked (o : Oracle (StateM σ)) (s t : σ) : Prop :=
  ∃ (α : Type) (q : Question α), t = (runFrom (o.ask q) s).2

def Reaches (o : Oracle (StateM σ)) : σ → σ → Prop := Relation.ReflTransGen o.Asked

/-- An answer that was given once is given again whenever the question is repeated. -/
def Steady (o : Oracle (StateM σ)) : Prop :=
  ∀ {α : Type} (q : Question α) (s t : σ), o.Reaches (runFrom (o.ask q) s).2 t →
    (runFrom (o.ask q) t).1 = (runFrom (o.ask q) s).1

/-- What an oracle tells in the course of a run from a state to another. -/
def told (o : Oracle (StateM σ)) (s u : σ) : Findings where
  allows q a := ∃ t, o.Reaches s t ∧ (runFrom (o.ask q) t).1 = a ∧
    o.Reaches (runFrom (o.ask q) t).2 u

/-- What holds of the results of the steps that a run from a state to another consists of. -/
def during (o : Oracle (StateM σ)) (s u : σ) : Guarantee (StateM σ) where
  Holds x Q := ∀ t, o.Reaches t (runFrom x t).2 ∧
    (o.Reaches s t → o.Reaches (runFrom x t).2 u → Q (runFrom x t).1)
  ret h t := ⟨.refl, fun _ _ => h⟩
  bind hx hf t := by
    obtain ⟨hreach, hP⟩ := hx t
    obtain ⟨hreach', hQ⟩ := hf (runFrom _ t).1 (runFrom _ t).2
    exact ⟨hreach.trans hreach', fun hs hu =>
      hQ (hs.trans hreach) hu (hP hs (hreach'.trans hu))⟩
  mono hx h t := ⟨(hx t).1, fun hs hu => h _ ((hx t).2 hs hu)⟩

variable {o : Oracle (StateM σ)}

/-- A run relies on nothing but what the oracle tells in its course. -/
theorem finds_told (o : Oracle (StateM σ)) (s u : σ) : (o.during s u).Finds o (o.told s u) :=
  fun q t => ⟨.single ⟨_, q, rfl⟩, fun hs hu => ⟨t, hs, rfl, hu⟩⟩

theorem Steady.finds (ho : o.Steady) (s u : σ) :
    (o.during s u).Finds o (o.answers u).findings := by
  intro α q t
  refine ⟨.single ⟨α, q, rfl⟩, fun _ hu => ?_⟩
  rw [allows_findings, ask_answers]
  exact ho q t u hu

theorem holds_before {x : StateM σ α} {Q : α → Prop} {s t u : σ}
    (h : (o.during s u).Holds x Q) (hs : o.Reaches s t) (hu : o.Reaches (runFrom x t).2 u) :
    Q (runFrom x t).1 :=
  (h t).2 hs hu

theorem holds_during {x : StateM σ α} {Q : α → Prop} {s u : σ} {a : α}
    (h : (o.during s u).Holds x Q) (hrun : runFrom x s = (a, u)) : Q a := by
  have hx := holds_before h (.refl : o.Reaches s s)
  rw [hrun] at hx
  exact hx .refl

section Build

variable {x : Build (StateM σ) α} {s u : σ} {r : Except CompileError α}

theorem build_during {Q : α → Prop} (h : (o.during s u).build.Holds x Q)
    (hrun : runFrom x.run s = (r, u)) : ∀ a, r = .ok a → Q a := by
  have h : (o.during s u).Holds x.run fun r => ∀ a, r = .ok a → Q a := h
  exact holds_during h hrun

theorem gives_during {y : Build Id α} (h : (o.during s u).Gives x y)
    (hrun : runFrom x.run s = (r, u)) : r = y.run.run := by
  have h : (o.during s u).Holds x.run fun r => r = y.run.run := h
  exact holds_during (Q := fun r => r = y.run.run) h hrun

end Build

end Oracle

/-! ## The oracles of the program -/

theorem CapabilitySet.steady_oracle {σ : Type} (c : CapabilitySet) :
    (c.oracle : Oracle (StateM σ)).Steady := by
  intro α q s t _
  cases q <;> rfl

namespace Probe

variable {σ α β : Type}

/-- What a probe has learned in a state, it still knows in another. -/
structure State.Kept (s t : State σ) : Prop where
  outputs : ∀ q r, s.outputs.lookup q = some r → t.outputs.lookup q = some r
  answers : ∀ c b, s.answers.lookup c = some b → t.answers.lookup c = some b

theorem State.Kept.refl (s : State σ) : s.Kept s := ⟨fun _ _ h => h, fun _ _ h => h⟩

theorem State.Kept.trans {s t u : State σ} (h : s.Kept t) (h' : t.Kept u) : s.Kept u :=
  ⟨fun q r hr => h'.outputs q r (h.outputs q r hr), fun c b hb => h'.answers c b (h.answers c b hb)⟩

/-- A step forgets nothing, and it gives the same result again as long as nothing is forgotten. -/
def Lasting (x : StateM (State σ) α) : Prop :=
  ∀ s, s.Kept (Oracle.runFrom x s).2 ∧
    ∀ t, (Oracle.runFrom x s).2.Kept t → (Oracle.runFrom x t).1 = (Oracle.runFrom x s).1

theorem Lasting.ret (a : α) : Lasting (pure a : StateM (State σ) α) :=
  fun s => ⟨.refl s, fun _ _ => rfl⟩

theorem Lasting.bind {x : StateM (State σ) α} {f : α → StateM (State σ) β} (hx : Lasting x)
    (hf : ∀ a, Lasting (f a)) : Lasting (x >>= f) := by
  intro s
  obtain ⟨hkept, hsame⟩ := hx s
  obtain ⟨hkept', hsame'⟩ := hf (Oracle.runFrom x s).1 (Oracle.runFrom x s).2
  refine ⟨hkept.trans hkept', fun t ht => ?_⟩
  have hfirst := hsame t (hkept'.trans ht)
  have hnext := hsame' (Oracle.runFrom x t).2 (ht.trans (hx t).1)
  rw [← hfirst] at hnext
  exact hnext.trans (by rw [hfirst]; rfl)

theorem lookup_cons_of_lookup {κ ν : Type} [BEq κ] [LawfulBEq κ] {l l' : List (κ × ν)} {k new : κ}
    {v w : ν} (hnew : l.lookup new = none) (h : l.lookup k = some v) (h' : l'.lookup k = some v) :
    ((new, w) :: l').lookup k = some v := by
  have hne : k ≠ new := by
    rintro rfl
    rw [h] at hnew
    cases hnew
  rw [List.lookup_cons, beq_false_of_ne hne]
  exact h'

variable (b : Backend σ)

theorem runFrom_output_of_known {q : Query} {s : State σ} {r : Option String}
    (h : s.outputs.lookup q = some r) : Oracle.runFrom (output b q) s = (r, s) := by
  change output b q s = _
  simp only [output, h]

theorem runFrom_output_of_unknown {q : Query} {s : State σ} (h : s.outputs.lookup q = none) :
    Oracle.runFrom (output b q) s = ((b.query q s.backend).1,
      { s with
        backend := (b.query q s.backend).2
        outputs := (q, (b.query q s.backend).1) :: s.outputs }) := by
  change output b q s = _
  simp only [output, h]
  rfl

theorem lasting_output (q : Query) : Lasting (output b q) := by
  intro s
  cases hq : s.outputs.lookup q with
  | some r =>
    rw [runFrom_output_of_known b hq]
    refine ⟨.refl s, fun t ht => ?_⟩
    rw [runFrom_output_of_known b (ht.outputs q r hq)]
  | none =>
    rw [runFrom_output_of_unknown b hq]
    refine ⟨⟨fun q' r hr => lookup_cons_of_lookup hq hr hr, fun _ _ h => h⟩, fun t ht => ?_⟩
    rw [runFrom_output_of_known b (ht.outputs q _ List.lookup_cons_self)]

theorem lasting_evaluate (c : Capability) : Lasting (evaluate b c) := by
  unfold evaluate
  split
  · exact (lasting_output b _).bind fun _ => .ret _
  · exact ((lasting_output b _).bind fun _ => .ret _).bind fun _ => .ret _
  · exact (lasting_output b _).bind fun _ => .ret _

theorem runFrom_probe_of_known {c : Capability} {s : State σ} {known : Bool}
    (h : s.answers.lookup c = some known) : Oracle.runFrom (probe b c) s = (known, s) := by
  simp only [Oracle.runFrom, probe, StateT.run_bind, StateT.run_get, pure_bind, h]
  rfl

theorem runFrom_probe_of_unknown {c : Capability} {s : State σ} (h : s.answers.lookup c = none) :
    Oracle.runFrom (probe b c) s = ((Oracle.runFrom (evaluate b c) s).1,
      { (Oracle.runFrom (evaluate b c) s).2 with
        answers := (c, (Oracle.runFrom (evaluate b c) s).1) ::
          (Oracle.runFrom (evaluate b c) s).2.answers }) := by
  simp only [Oracle.runFrom, probe, StateT.run_bind, StateT.run_get, pure_bind, h]
  rfl

theorem lasting_probe (c : Capability) : Lasting (probe b c) := by
  intro s
  cases hc : s.answers.lookup c with
  | some known =>
    rw [runFrom_probe_of_known b hc]
    refine ⟨.refl s, fun t ht => ?_⟩
    rw [runFrom_probe_of_known b (ht.answers c known hc)]
  | none =>
    obtain ⟨hkept, -⟩ := lasting_evaluate b c s
    rw [runFrom_probe_of_unknown b hc]
    refine ⟨⟨hkept.outputs, fun c' a ha => ?_⟩, fun t ht => ?_⟩
    · exact lookup_cons_of_lookup hc ha (hkept.answers c' a ha)
    · rw [runFrom_probe_of_known b (ht.answers c _ List.lookup_cons_self)]

theorem lasting_ask (q : Question α) : Lasting ((oracle b).ask q) := by
  cases q with
  | probe c => exact lasting_probe b c
  | inInterval i => exact ((lasting_output b _).bind fun _ => .ret _).bind fun _ => .ret _
  | hasDevice name => exact (lasting_output b _).bind fun _ => .ret _
  | hasObject name => exact (lasting_output b _).bind fun _ => .ret _
  | version => exact (lasting_output b _).bind fun _ => .ret _

theorem kept_of_reaches {s t : State σ} (h : (oracle b).Reaches s t) : s.Kept t := by
  induction h with
  | refl => exact .refl s
  | tail _ hstep ih =>
    obtain ⟨α, q, rfl⟩ := hstep
    exact ih.trans (lasting_ask b q _).1

/-- A probe keeps in mind what its queries gave. -/
theorem steady_oracle : (oracle b).Steady :=
  fun q s t h => (lasting_ask b q s).2 t (kept_of_reaches b h)

end Probe

end GuestSpec
