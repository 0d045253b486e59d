import GuestSpec.Proofs.Bus.Trace

/-!
# Runs of calls

A guest is put together by calls that place a device or add a USB controller, in any order, and
whether or not the ones before them succeeded. `BusCall.Effect` says what a single call does;
invariants of all states that calls can reach follow from it.
-/

namespace GuestSpec

open Alloc

structure Grant where
  owner : String
  placement : Placement
  deriving DecidableEq

/-- A call on the buses of a guest. -/
inductive BusCall where
  /-- Places a device. -/
  | place (owner : String) (request : BusRequest) (hint : PlacementHint)
  /-- Adds a USB controller. -/
  | addUsb (id model : String) (ports : UInt8) (hint : PlacementHint)
  deriving DecidableEq

namespace BusCall

def perform : BusCall → Alloc (Option Placement)
  | place owner request hint => Alloc.place owner request hint
  | addUsb id model ports hint => do
    addUsbController id model ports hint
    return none

def owner : BusCall → String
  | place owner _ _ => owner
  | addUsb id _ _ _ => id

/-- What a call grants to the one who makes it. -/
def granted (a : BusAllocator) (call : BusCall) : Option Grant :=
  match (outcome call.perform a).1 with
  | .ok (some p) => some ⟨call.owner, p⟩
  | _ => none

end BusCall

namespace BusAllocator

def after (a : BusAllocator) (call : BusCall) : BusAllocator := (outcome call.perform a).2

def afterAll (a : BusAllocator) (calls : List BusCall) : BusAllocator := calls.foldl after a

def grants (a : BusAllocator) : List BusCall → List Grant
  | [] => []
  | call :: calls => (call.granted a).toList ++ (a.after call).grants calls

variable {a b : BusAllocator}

@[simp] theorem afterAll_nil : a.afterAll [] = a := rfl

@[simp] theorem afterAll_cons (call : BusCall) (calls : List BusCall) :
    a.afterAll (call :: calls) = (a.after call).afterAll calls := rfl

theorem afterAll_append (calls more : List BusCall) :
    a.afterAll (calls ++ more) = (a.afterAll calls).afterAll more := List.foldl_append

end BusAllocator

def BusCall.asked (family : MachineFamily) : BusCall → Option Placement
  | place _ request hint => request.asked family hint
  | addUsb _ _ _ hint => hint.asked family

/-- A part that is due, or a USB controller of one of some models. -/
def Part.AdmittedOf (asked : String → Prop) (a : BusAllocator) (part : Part) : Prop :=
  part.Due a ∨ ∃ id model ports ask, part = .usb id model ports ask ∧ asked model

theorem Part.AdmittedOf.admitted {asked : String → Prop} {a : BusAllocator} {part : Part}
    (h : part.AdmittedOf asked a) : part.Admitted a :=
  h.imp_right fun ⟨id, model, ports, ask, husb, _⟩ => ⟨id, model, ports, ask, husb⟩

theorem Part.ask_of_due {a : BusAllocator} {part : Part} (h : part.Due a) : part.ask = none := by
  cases part with
  | usb => exact h.2.2.2.2
  | _ => rfl

/-- All that a call can do: insertions and nothing else, insertions and then the claim of the place
that is granted, or a USB controller that is put in after the bridges that lead to its seat. A place
that the call asks for is claimed before anything is inserted. -/
inductive BusCall.Effect (a b : BusAllocator) : BusCall → Option Grant → Prop where
  | nothing {call : BusCall} (h : AnyInsertions a b) : Effect a b call none
  | placed {owner : String} {request : BusRequest} {hint : PlacementHint} {p : Placement}
      {c : BusAllocator} {ask : Option Placement} (h : AnyInsertions a c)
      (hg : Granted ask c owner p b)
      (hask : ask = none ∨ c = a ∧ ask = (place owner request hint).asked a.family) :
      Effect a b (.place owner request hint) (some ⟨owner, p⟩)
  | added {id model : String} {ports : UInt8} {hint : PlacementHint} {c : BusAllocator}
      {ask : Option Placement} (h : Bridges a c) (hi : Inserted (.usb id model ports ask) c b)
      (hask : ask = none ∨ c = a ∧ ask = (addUsb id model ports hint).asked a.family) :
      Effect a b (.addUsb id model ports hint) none

namespace BusCall

variable {a b : BusAllocator} {call : BusCall} {grant : Option Grant}

theorem ensures_addUsb (ha : a.Grounded) (id model : String) (ports : UInt8)
    (hint : PlacementHint) :
    Ensures (addUsb id model ports hint).perform a
      (fun r b => r = none ∧ ∃ c ask, Bridges a c ∧ Inserted (.usb id model ports ask) c b ∧
        (ask = none ∨ c = a ∧ ask = hint.asked a.family))
      (fun _ b => Bridges a b) :=
  (ensures_addUsbController ha id model ports hint).bind fun _ _ h => ensures_pure ⟨rfl, h⟩

theorem effect (ha : a.Grounded) (call : BusCall) :
    call.Effect a (a.after call) (call.granted a) := by
  rw [BusAllocator.after, granted]
  cases h : outcome call.perform a with
  | mk r b =>
    cases call with
    | place owner request hint =>
      cases r with
      | error e => exact .nothing ((ensures_place ha owner request hint).error h)
      | ok placement =>
        obtain ⟨rfl, rfl⟩ | ⟨p, rfl, ⟨c, hac, hg⟩ | ⟨-, hg⟩⟩ :=
          (ensures_place ha owner request hint).ok h
        · exact .nothing .refl
        · exact .placed hac hg (.inl rfl)
        · exact .placed .refl hg (.inr ⟨rfl, rfl⟩)
    | addUsb id model ports hint =>
      cases r with
      | error e => exact .nothing ((ensures_addUsb ha id model ports hint).error h).any
      | ok placement =>
        obtain ⟨rfl, c, ask, hac, hi, hask⟩ := (ensures_addUsb ha id model ports hint).ok h
        exact .added hac hi hask

namespace Effect

/-- What is kept by every claim and by every insertion that is admitted for some models is kept by
every call that adds none but these. -/
theorem preserves_of {asked : String → Prop} {I : BusAllocator → Prop}
    (hgranted : ∀ ask a owner p b, Granted ask a owner p b → I a → I b)
    (hinserted : ∀ part a b, part.AdmittedOf asked a → Inserted part a b → I a → I b)
    (hcall : ∀ id model ports hint, call = .addUsb id model ports hint → asked model)
    (h : call.Effect a b grant) (ha : I a) : I b := by
  have hchain : ∀ {S : Part → Prop} {c}, Insertions S a c → I c := fun hc =>
    hc.induction (fun part a b hdue => hinserted part a b (.inl hdue)) ha
  cases h with
  | nothing h => exact hchain h
  | placed h hg => exact hgranted _ _ _ _ _ hg (hchain h)
  | added h hi =>
    exact hinserted _ _ _ (.inr ⟨_, _, _, _, rfl, hcall _ _ _ _ rfl⟩) hi (hchain h)

/-- What is kept by every claim and by every insertion is kept by every call. -/
theorem preserves {I : BusAllocator → Prop}
    (hgranted : ∀ ask a owner p b, Granted ask a owner p b → I a → I b)
    (hinserted : ∀ part a b, part.Admitted a → Inserted part a b → I a → I b)
    (h : call.Effect a b grant) (ha : I a) : I b :=
  h.preserves_of hgranted (fun part a b hp => hinserted part a b hp.admitted)
    (fun _ _ _ _ _ => trivial) ha

/-- What is kept by every claim of a free coordinate, by every part that is put in, and by the claim
of the place that a call asks for is kept by the call. -/
theorem preserves_asked {I : BusAllocator → Prop}
    (hgranted : ∀ a owner p b, Granted none a owner p b → I a → I b)
    (hinstall : ∀ part a placement, I a → I (Part.install a part placement))
    (hasked : ∀ owner p b, Granted (call.asked a.family) a owner p b → I b)
    (h : call.Effect a b grant) (ha : I a) : I b := by
  have hchain : ∀ {S : Part → Prop} {c}, Insertions S a c → I c := fun hc =>
    hc.induction (fun part a b hdue hi ha => by
      obtain ⟨placement, c, hs, rfl⟩ := hi
      refine hinstall part c placement ?_
      obtain ⟨-, -, rfl⟩ | ⟨p, -, hg⟩ := hs.eq_or_granted
      · exact ha
      · rw [Part.ask_of_due hdue] at hg
        exact hgranted _ _ _ _ hg ha) ha
  cases h with
  | nothing h => exact hchain h
  | placed h hg hask =>
    obtain rfl | ⟨rfl, rfl⟩ := hask
    · exact hgranted _ _ _ _ hg (hchain h)
    · exact hasked _ _ _ hg
  | added h hi hask =>
    obtain ⟨placement, d, hs, rfl⟩ := hi
    refine hinstall _ d placement ?_
    obtain ⟨hfdc, -⟩ | ⟨p, -, hg⟩ := hs.eq_or_granted
    · cases hfdc
    · obtain rfl | ⟨rfl, rfl⟩ := hask
      · exact hgranted _ _ _ _ hg (hchain h)
      · exact hasked _ _ _ hg

theorem grounded (h : call.Effect a b grant) (ha : a.Grounded) : b.Grounded :=
  h.preserves (fun _ _ _ _ _ hg ha => ha.granted hg) (fun _ _ _ hp hi ha => ha.inserted hp hi) ha

theorem family_eq (h : call.Effect a b grant) : b.family = a.family :=
  h.preserves (I := fun b => b.family = a.family)
    (fun _ _ _ _ _ hg ha => by obtain ⟨_, -, -, -, -, rfl⟩ := hg; exact ha)
    (fun _ _ _ _ hi ha => hi.family_eq.trans ha) rfl

theorem config_eq (h : call.Effect a b grant) : b.config = a.config :=
  h.preserves (I := fun b => b.config = a.config)
    (fun _ _ _ _ _ hg ha => by obtain ⟨_, -, -, -, -, rfl⟩ := hg; exact ha)
    (fun _ _ _ _ hi ha => hi.config_eq.trans ha) rfl

theorem grows (h : call.Effect a b grant) : Grows a b :=
  h.preserves (I := Grows a) (fun _ _ _ _ _ hg ha => ha.trans (.granted hg))
    (fun _ _ _ _ hi ha => ha.trans (.inserted hi)) (.refl a)

end Effect

end BusCall

namespace BusAllocator

variable {a : BusAllocator}

theorem Grounded.after (ha : a.Grounded) (call : BusCall) : (a.after call).Grounded :=
  (call.effect ha).grounded ha

/-- What calls keep, they keep over a whole run. -/
theorem afterAll_induction {I : BusAllocator → Prop}
    (step : ∀ (a : BusAllocator) (call : BusCall), a.Grounded → I a → I (a.after call))
    (ha : a.Grounded) (hI : I a) (calls : List BusCall) : I (a.afterAll calls) := by
  induction calls generalizing a with
  | nil => exact hI
  | cons call calls ih => exact ih (ha.after call) (step a call ha hI)

theorem Grounded.afterAll (ha : a.Grounded) (calls : List BusCall) : (a.afterAll calls).Grounded :=
  afterAll_induction (fun _ call ha _ => ha.after call) ha ha calls

theorem grounded_run (family : MachineFamily) (machine : String) (config : AllocatorConfig)
    (calls : List BusCall) : ((start family machine config).afterAll calls).Grounded :=
  (Grounded.start family machine config).afterAll calls

/-- What holds at first and is kept by every claim and by every insertion that is admitted for some
models holds in every state that calls can reach that add none but these. -/
theorem afterAll_of {asked : String → Prop} {I : BusAllocator → Prop}
    (hgranted : ∀ ask a owner p b, Granted ask a owner p b → I a → I b)
    (hinserted : ∀ part a b, part.AdmittedOf asked a → Inserted part a b → I a → I b)
    {calls : List BusCall}
    (hcalls : ∀ id model ports hint, .addUsb id model ports hint ∈ calls → asked model)
    (ha : a.Grounded) (hI : I a) : I (a.afterAll calls) := by
  induction calls generalizing a with
  | nil => exact hI
  | cons call calls ih =>
    refine ih (fun _ _ _ _ hmem => hcalls _ _ _ _ (List.mem_cons_of_mem _ hmem)) (ha.after call) ?_
    refine (call.effect ha).preserves_of hgranted hinserted ?_ hI
    rintro id model ports hint rfl
    exact hcalls id model ports hint List.mem_cons_self

/-- What holds at first and is kept by every claim and by every insertion holds in every state that
calls can reach. -/
theorem run_induction {I : BusAllocator → Prop}
    (hgranted : ∀ ask a owner p b, Granted ask a owner p b → I a → I b)
    (hinserted : ∀ part a b, part.Admitted a → Inserted part a b → I a → I b)
    (ha : a.Grounded) (hI : I a) (calls : List BusCall) : I (a.afterAll calls) :=
  afterAll_induction (fun _ call ha hI => (call.effect ha).preserves hgranted hinserted hI) ha hI
    calls

theorem family_afterAll (ha : a.Grounded) (calls : List BusCall) :
    (a.afterAll calls).family = a.family :=
  afterAll_induction (I := fun b => b.family = a.family)
    (fun _ call ha h => (call.effect ha).family_eq.trans h) ha rfl calls

theorem config_afterAll (ha : a.Grounded) (calls : List BusCall) :
    (a.afterAll calls).config = a.config :=
  afterAll_induction (I := fun b => b.config = a.config)
    (fun _ call ha h => (call.effect ha).config_eq.trans h) ha rfl calls

theorem grows_afterAll (ha : a.Grounded) (calls : List BusCall) : Grows a (a.afterAll calls) :=
  afterAll_induction (I := Grows a) (fun _ call ha h => h.trans (call.effect ha).grows) ha
    (.refl a) calls

end BusAllocator

end GuestSpec
