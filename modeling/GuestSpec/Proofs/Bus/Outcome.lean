import GuestSpec.Bus.Placing
import GuestSpec.Proofs.Bus.Occupancy

/-!
# Outcomes of operations on the buses

An operation either gives a value or fails, and in both cases it leaves buses behind. `Ensures`
states both halves at once, so that what a failure keeps is never lost, and its rules follow the
way in which operations are put together. `Granted` says all that a single claim does.
-/

namespace GuestSpec

namespace Alloc

variable {α β : Type}

/-- What an operation gives, and the buses that it leaves behind. -/
def outcome (x : Alloc α) (a : BusAllocator) : Except CompileError α × BusAllocator := x.run.run a

/-- From `a` an operation gives a value with `Q`, or it fails with `E`; both speak of the buses that
it leaves behind. -/
def Ensures (x : Alloc α) (a : BusAllocator) (Q : α → BusAllocator → Prop)
    (E : CompileError → BusAllocator → Prop) : Prop :=
  match outcome x a with
  | (.ok v, b) => Q v b
  | (.error e, b) => E e b

section Rules

variable {x : Alloc α} {a b : BusAllocator} {P Q : α → BusAllocator → Prop}
  {R : β → BusAllocator → Prop} {E F : CompileError → BusAllocator → Prop}

theorem outcome_bind (x : Alloc α) (f : α → Alloc β) (a : BusAllocator) :
    outcome (x >>= f) a =
      match outcome x a with
      | (.ok v, b) => outcome (f v) b
      | (.error e, b) => (.error e, b) := by
  unfold outcome
  rw [ExceptT.run_bind, StateT.run_bind]
  generalize StateT.run x.run a = p
  obtain ⟨r, b⟩ := p
  cases r <;> rfl

theorem outcome_get_bind (f : BusAllocator → Alloc β) (a : BusAllocator) :
    outcome (get >>= f) a = outcome (f a) a := rfl

theorem Ensures.ok {v : α} (hx : Ensures x a Q E) (h : outcome x a = (.ok v, b)) : Q v b := by
  rw [Ensures, h] at hx
  exact hx

theorem Ensures.error {e : CompileError} (hx : Ensures x a Q E)
    (h : outcome x a = (.error e, b)) : E e b := by
  rw [Ensures, h] at hx
  exact hx

theorem Ensures.bind {f : α → Alloc β} (hx : Ensures x a P E)
    (hf : ∀ v b, P v b → Ensures (f v) b R E) : Ensures (x >>= f) a R E := by
  unfold Ensures
  rw [outcome_bind]
  cases h : outcome x a with
  | mk r b =>
    cases r with
    | ok v => exact hf v b (hx.ok h)
    | error e => exact hx.error h

theorem Ensures.failing {f : α → Alloc β} (hx : Ensures x a (fun _ _ => False) E) :
    Ensures (x >>= f) a R E :=
  hx.bind fun _ _ h => h.elim

theorem Ensures.mono (hx : Ensures x a P E) (hQ : ∀ v b, P v b → Q v b)
    (hF : ∀ e b, E e b → F e b) : Ensures x a Q F := by
  unfold Ensures
  cases h : outcome x a with
  | mk r b =>
    cases r with
    | ok v => exact hQ v b (hx.ok h)
    | error e => exact hF e b (hx.error h)

theorem Ensures.imp (hx : Ensures x a P E) (hQ : ∀ v b, P v b → Q v b) : Ensures x a Q E :=
  hx.mono hQ fun _ _ h => h

theorem Ensures.imp_error (hx : Ensures x a Q E) (hF : ∀ e b, E e b → F e b) : Ensures x a Q F :=
  hx.mono (fun _ _ h => h) hF

theorem Ensures.of_bind_pure {v : β} (h : Ensures (x >>= fun _ => pure v) a R E) :
    Ensures x a (fun _ b => R v b) E := by
  unfold Ensures at h ⊢
  rw [outcome_bind] at h
  cases hx : outcome x a with
  | mk r b =>
    rw [hx] at h
    cases r <;> exact h

theorem ensures_pure {v : α} (h : Q v a) : Ensures (pure v) a Q E := h

theorem ensures_throw {e : CompileError} (h : E e a) : Ensures (throw e : Alloc α) a Q E := h

theorem ensures_get_bind {f : BusAllocator → Alloc β} (h : Ensures (f a) a R E) :
    Ensures (get >>= f) a R E := h

theorem ensures_modify_bind {g : BusAllocator → BusAllocator} {f : Unit → Alloc β}
    (h : Ensures (f ()) (g a) R E) : Ensures (modify g >>= f) a R E := h

theorem ensures_unsupported {what : String} (h : ∀ e, E e a) :
    Ensures (unsupported what : Alloc α) a Q E := h _

end Rules

/-! ## Claims -/

/-- All that a claim needs and does: the bus that the name of `p` reaches has the coordinate, nobody
stands in the way, and `b` differs from `a` in this one claim only. The coordinate is one that may
be given out, unless it is the place `ask` that a caller asks for. -/
def Granted (ask : Option Placement) (a : BusAllocator) (owner : String) (p : Placement)
    (b : BusAllocator) : Prop :=
  ∃ n, a.node? p.bus = some n ∧ n.shape.contains p.coordinate = true ∧
    n.holder? p.coordinate = none ∧ (n.isFree p.coordinate = true ∨ ask = some p) ∧
    b = a.addClaim p.bus p.coordinate owner

theorem outcome_claim (owner : String) (bus : BusId) (c : Coordinate) (a : BusAllocator) :
    outcome (claim owner bus c) a =
      match a.node? bus with
      | none => (.error (unknownBus owner bus), a)
      | some n =>
        if n.shape.contains c then
          match n.holder? c with
          | some holder => (.error (.collision (.inUse owner ⟨bus, c⟩ holder)), a)
          | none => (.ok ⟨bus, c⟩, a.addClaim bus c owner)
        else (.error (.collision (.outOfRange owner bus c)), a) := by
  rw [claim, outcome_get_bind]
  cases a.node? bus with
  | none => rfl
  | some n =>
    simp only
    split
    · cases n.holder? c <;> rfl
    · rfl

theorem ensures_claim (owner : String) (bus : BusId) (c : Coordinate) (a : BusAllocator) :
    Ensures (claim owner bus c) a
      (fun p b => p = ⟨bus, c⟩ ∧ Granted (some p) a owner p b) (fun _ b => b = a) := by
  unfold Ensures
  rw [outcome_claim]
  cases hn : a.node? bus with
  | none => rfl
  | some n =>
    by_cases hc : n.shape.contains c = true
    · cases hh : n.holder? c with
      | some holder => simp only [hc, hh, if_true]
      | none =>
        simp only [hc, hh, if_true]
        exact ⟨trivial, n, hn, hc, hh, .inr rfl, rfl⟩
    · simp only [hc, if_false, Bool.false_eq_true]

theorem ensures_claim_free {a : BusAllocator} {bus : BusId} {n : BusNode} {c : Coordinate}
    (owner : String) (hn : a.node? bus = some n) (hf : n.isFree c = true) :
    Ensures (claim owner bus c) a
      (fun p b => p = ⟨bus, c⟩ ∧ Granted none a owner p b) (fun _ b => b = a) := by
  refine (ensures_claim owner bus c a).imp ?_
  rintro p b ⟨rfl, m, hm, hc, hh, -, rfl⟩
  obtain rfl : n = m := Option.some.inj (hn.symm.trans hm)
  exact ⟨rfl, n, hn, hc, hh, .inl hf, rfl⟩

theorem ensures_claimNext (owner : String) (bus : BusId) (a : BusAllocator) :
    Ensures (claimNext owner bus) a
      (fun p b => p.bus = bus ∧ Granted none a owner p b) (fun _ b => b = a) := by
  apply ensures_get_bind
  cases hn : a.node? bus with
  | none => exact ensures_throw rfl
  | some n =>
    dsimp only
    cases hc : n.firstFree? with
    | none => exact ensures_throw rfl
    | some c =>
      refine (ensures_claim_free owner hn (Space.of_first?_eq_some hc)).imp ?_
      rintro p b ⟨rfl, h⟩
      exact ⟨rfl, h⟩

end Alloc

end GuestSpec
