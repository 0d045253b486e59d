import GuestSpec.Proofs.Oracle.Reflection
import GuestSpec.Proofs.Oracle.Steady

/-!
# The cache of a probe

A probe keeps the outputs of its queries and the capabilities that it has decided. `direct` answers
without a cache, from the outputs alone. Any operations on a probe, in any order, run each query
that one of them needs once, when it is first needed, and their answers are the direct ones. The
backend may answer differently from call to call.
-/

namespace GuestSpec

/-! ## Operations -/

inductive Operation where
  | probe (c : Capability)
  | inInterval (i : Version.Interval)
  | hasDevice (name : String)
  | hasObject (name : String)
  | version
  | snapshot (devices objects : List String)

inductive Answer where
  | verdict (b : Bool)
  | version (v : Option Version)
  | set (s : CapabilitySet)
  deriving DecidableEq

def Oracle.perform {m : Type → Type} [Monad m] (o : Oracle m) : Operation → m Answer
  | .probe c => do return .verdict (← o.probe c)
  | .inInterval i => do return .verdict (← o.inInterval i)
  | .hasDevice name => do return .verdict (← o.hasDevice name)
  | .hasObject name => do return .verdict (← o.hasObject name)
  | .version => do return .version (← o.version)
  | .snapshot devices objects => do return .set (← CapabilitySet.snapshot o devices objects)

def Capability.query (c : Capability) : Query :=
  match c.gate with
  | .help _ => .help
  | .version _ => .version
  | .device _ => .deviceHelp

/-- The queries that an operation needs, in the order in which it needs them. -/
def Operation.needs : Operation → List Query
  | probe c => [c.query]
  | inInterval _ | version => [.version]
  | hasDevice _ => [.deviceHelp]
  | hasObject _ => [.objectHelp]
  | snapshot devices objects =>
    .version :: (Named.all : List Capability).map Capability.query ++
      devices.map (fun _ => .deviceHelp) ++ objects.map fun _ => .objectHelp

/-- The answer of an operation denies all that depends on a query. -/
def Answer.Denies (q : Query) : Operation → Answer → Prop
  | .probe c, a => c.query = q → a = .verdict false
  | .inInterval _, a => q = .version → a = .verdict false
  | .hasDevice _, a => q = .deviceHelp → a = .verdict false
  | .hasObject _, a => q = .objectHelp → a = .verdict false
  | .version, a => q = .version → a = .version none
  | .snapshot _ _, a => ∃ s, a = .set s ∧ (∀ c : Capability, c.query = q → s.has c = false) ∧
      (q = .version → s.version = none) ∧ (q = .deviceHelp → s.devices = []) ∧
      (q = .objectHelp → s.objects = [])

namespace Probe

/-! ## Answers without a cache -/

def decides (c : Capability) (output : Option String) : Bool :=
  match c.gate with
  | .help word => output.any fun text => mentions text word
  | .version i => i.containsKnown (output.bind bannerVersion?)
  | .device name => output.any fun text => (deviceNames text).contains name

/-- The answers that the outputs of the queries give. -/
def direct (outputs : Query → Option String) : Oracle Id where
  probe c := decides c (outputs c.query)
  inInterval i := i.containsKnown ((outputs .version).bind bannerVersion?)
  hasDevice name := (outputs .deviceHelp).any fun text => (deviceNames text).contains name
  hasObject name := (outputs .objectHelp).any fun text => (objectNames text).contains name
  version := (outputs .version).bind bannerVersion?

/-- What each query gave according to a record of runs; a query that was not run gave nothing. -/
def recorded (runs : List (Query × Option String)) (q : Query) : Option String :=
  (runs.lookup q).join

/-! ## Runs of queries -/

/-- The elements of a list at their first occurrences, without those that are known. -/
def unseen {α : Type} [DecidableEq α] (known : List α) : List α → List α
  | [] => []
  | a :: as => if a ∈ known then unseen known as else a :: unseen (known ++ [a]) as

section Unseen

variable {α : Type} [DecidableEq α] {known as : List α}

theorem unseen_append (known as bs : List α) :
    unseen known (as ++ bs) = unseen known as ++ unseen (known ++ unseen known as) bs := by
  induction as generalizing known with
  | nil => simp [unseen]
  | cons a as ih =>
    by_cases ha : a ∈ known
    · simp [unseen, ha, ih]
    · simp [unseen, ha, ih (known ++ [a])]

theorem mem_of_mem_unseen {a : α} (h : a ∈ unseen known as) : a ∈ as := by
  induction as generalizing known with
  | nil => simp [unseen] at h
  | cons x as ih =>
    rw [unseen] at h
    split at h
    · exact List.mem_cons_of_mem _ (ih h)
    · obtain rfl | h := List.mem_cons.1 h
      · exact List.mem_cons_self
      · exact List.mem_cons_of_mem _ (ih h)

theorem mem_unseen_of_mem {a : α} (h : a ∈ as) : a ∈ known ++ unseen known as := by
  induction as generalizing known with
  | nil => simp at h
  | cons x as ih =>
    rw [unseen]
    split
    · next hx =>
      obtain rfl | h := List.mem_cons.1 h
      · exact List.mem_append_left _ hx
      · exact ih h
    · rw [← List.singleton_append, ← List.append_assoc]
      obtain rfl | h := List.mem_cons.1 h
      · simp
      · exact ih h

theorem nodup_append_unseen (h : known.Nodup) : (known ++ unseen known as).Nodup := by
  induction as generalizing known with
  | nil => simpa [unseen] using h
  | cons x as ih =>
    rw [unseen]
    split
    · exact ih h
    · next hx =>
      rw [← List.singleton_append, ← List.append_assoc]
      refine ih ?_
      rw [List.nodup_append]
      exact ⟨h, by simp, by simpa using fun a ha => ne_of_mem_of_not_mem ha hx⟩

end Unseen

variable {σ α β : Type}

def Backend.runAll (b : Backend σ) : List Query → σ → List (Query × Option String) × σ
  | [], s => ([], s)
  | q :: qs, s =>
    let first := b.query q s
    let rest := b.runAll qs first.2
    ((q, first.1) :: rest.1, rest.2)

/-- A backend that also keeps a log of all its runs. -/
def Backend.logged (b : Backend σ) : Backend (σ × List (Query × Option String)) where
  query q s := ((b.query q s.1).1, (b.query q s.1).2, s.2 ++ [(q, (b.query q s.1).1)])

section RunAll

variable (b : Backend σ)

theorem Backend.runAll_append (qs qs' : List Query) (s : σ) :
    b.runAll (qs ++ qs') s =
      ((b.runAll qs s).1 ++ (b.runAll qs' (b.runAll qs s).2).1,
        (b.runAll qs' (b.runAll qs s).2).2) := by
  induction qs generalizing s with
  | nil => rfl
  | cons q qs ih => simp [runAll, ih]

theorem Backend.map_fst_runAll (qs : List Query) (s : σ) :
    (b.runAll qs s).1.map Prod.fst = qs := by
  induction qs generalizing s with
  | nil => rfl
  | cons q qs ih => simp [runAll, ih]

theorem Backend.runAll_logged (qs : List Query) (s : σ) (log : List (Query × Option String)) :
    b.logged.runAll qs (s, log) =
      ((b.runAll qs s).1, (b.runAll qs s).2, log ++ (b.runAll qs s).1) := by
  induction qs generalizing s log with
  | nil => simp [runAll]
  | cons q qs ih =>
    have hquery : b.logged.query q (s, log) =
        ((b.query q s).1, (b.query q s).2, log ++ [(q, (b.query q s).1)]) := rfl
    simp [runAll, hquery, ih]

end RunAll

/-! ## Steps of a probe -/

def State.known (s : State σ) : List Query := (s.outputs.map Prod.fst).reverse

/-- All capabilities that are kept were decided from outputs that are kept. -/
def State.Coherent (s : State σ) : Prop :=
  ∀ c a, s.answers.lookup c = some a → ∃ output, s.outputs.lookup c.query = some output ∧
    a = decides c output

def State.AgreesWith (s : State σ) (outputs : Query → Option String) : Prop :=
  ∀ q output, s.outputs.lookup q = some output → outputs q = output

/-- A step that needs certain queries leads from a state to another: those that were not run before
are run, each once, and their outputs are kept. -/
structure Ran (b : Backend σ) (qs : List Query) (s s' : State σ) : Prop where
  coherent : s'.Coherent
  kept : s.Kept s'
  backend : s'.backend = (b.runAll (unseen s.known qs) s.backend).2
  outputs : s'.outputs = (b.runAll (unseen s.known qs) s.backend).1.reverse ++ s.outputs

/-- A step runs the queries that it needs, and its result is a function of their outputs. -/
def Computes (b : Backend σ) (x : StateM (State σ) α) (qs : List Query)
    (f : (Query → Option String) → α) : Prop :=
  ∀ s, s.Coherent → Ran b qs s (Oracle.runFrom x s).2 ∧
    ∀ outputs, (Oracle.runFrom x s).2.AgreesWith outputs → (Oracle.runFrom x s).1 = f outputs

section Steps

variable {b : Backend σ} {s s' s'' : State σ} {qs qs' : List Query}

theorem State.Kept.agreesWith {outputs : Query → Option String} (h : s.Kept s')
    (h' : s'.AgreesWith outputs) : s.AgreesWith outputs :=
  fun q output hq => h' q output (h.outputs q output hq)

theorem agreesWith_recorded (s : State σ) : s.AgreesWith (recorded s.outputs) := by
  intro q output hq
  rw [recorded, hq, Option.join_some]

theorem mem_known {q : Query} : q ∈ s.known ↔ ∃ output, s.outputs.lookup q = some output := by
  rw [State.known, List.mem_reverse]
  induction s.outputs with
  | nil => simp
  | cons e outputs ih =>
    obtain ⟨q', output⟩ := e
    by_cases hq : q = q'
    · simp [hq]
    · simp [List.lookup_cons, beq_false_of_ne hq, hq, ih]

theorem Ran.refl (hs : s.Coherent) : Ran b [] s s := ⟨hs, .refl s, rfl, rfl⟩

theorem Ran.known (h : Ran b qs s s') : s'.known = s.known ++ unseen s.known qs := by
  rw [State.known, h.outputs, List.map_append, List.map_reverse, Backend.map_fst_runAll,
    List.reverse_append, List.reverse_reverse]
  rfl

theorem Ran.exists_lookup {q : Query} (h : Ran b qs s s') (hq : q ∈ qs) :
    ∃ output, s'.outputs.lookup q = some output := by
  rw [← mem_known, h.known]
  exact mem_unseen_of_mem hq

theorem Ran.trans (h : Ran b qs s s') (h' : Ran b qs' s' s'') : Ran b (qs ++ qs') s s'' := by
  have hruns : b.runAll (unseen s.known (qs ++ qs')) s.backend =
      ((b.runAll (unseen s.known qs) s.backend).1 ++
        (b.runAll (unseen s'.known qs') s'.backend).1,
        (b.runAll (unseen s'.known qs') s'.backend).2) := by
    rw [unseen_append, Backend.runAll_append, ← h.known, ← h.backend]
  refine ⟨h'.coherent, h.kept.trans h'.kept, ?_, ?_⟩
  · rw [hruns, h'.backend]
  · rw [hruns, h'.outputs, h.outputs, List.reverse_append, List.append_assoc]

theorem Computes.ret (a : α) : Computes b (pure a) [] fun _ => a :=
  fun _ hs => ⟨.refl hs, fun _ _ => rfl⟩

theorem Computes.bind {x : StateM (State σ) α} {g : α → StateM (State σ) β}
    {f : (Query → Option String) → α} {h : α → (Query → Option String) → β}
    (hx : Computes b x qs f) (hg : ∀ a, Computes b (g a) qs' (h a)) :
    Computes b (x >>= g) (qs ++ qs') fun outputs => h (f outputs) outputs := by
  intro s hs
  obtain ⟨hran, hvalue⟩ := hx s hs
  obtain ⟨hran', hvalue'⟩ := hg (Oracle.runFrom x s).1 (Oracle.runFrom x s).2 hran.coherent
  refine ⟨hran.trans hran', fun outputs hagrees => ?_⟩
  have hfirst := hvalue outputs (hran'.kept.agreesWith hagrees)
  have hnext := hvalue' outputs hagrees
  show _ = h (f outputs) outputs
  rw [← hfirst]
  exact hnext

theorem Computes.map {x : StateM (State σ) α} {f : (Query → Option String) → α} (g : α → β)
    (hx : Computes b x qs f) :
    Computes b (do return g (← x)) qs fun outputs => g (f outputs) := by
  have hmap : Computes b (do return g (← x)) (qs ++ []) fun outputs => g (f outputs) :=
    hx.bind fun a => Computes.ret (g a)
  rwa [List.append_nil] at hmap

end Steps

variable (b : Backend σ)

theorem computes_output (q : Query) : Computes b (output b q) [q] fun outputs => outputs q := by
  intro s hs
  cases hq : s.outputs.lookup q with
  | some known =>
    have hknown : q ∈ s.known := mem_known.2 ⟨known, hq⟩
    rw [runFrom_output_of_known b hq]
    refine ⟨⟨hs, .refl s, ?_, ?_⟩, fun outputs h => (h q known hq).symm⟩
    · simp [unseen, hknown, Backend.runAll]
    · simp [unseen, hknown, Backend.runAll]
  | none =>
    have hknown : q ∉ s.known := by simp [mem_known, hq]
    have hkept := (lasting_output b q s).1
    rw [runFrom_output_of_unknown b hq] at hkept ⊢
    refine ⟨⟨fun c a ha => ?_, hkept, ?_, ?_⟩, fun outputs h => ?_⟩
    · obtain ⟨known, houtput, hdecides⟩ := hs c a ha
      exact ⟨known, hkept.outputs _ _ houtput, hdecides⟩
    · simp [unseen, hknown, Backend.runAll]
    · simp [unseen, hknown, Backend.runAll]
    · exact (h q _ List.lookup_cons_self).symm

theorem computes_version :
    Computes b (version b) [.version] fun outputs => (direct outputs).version :=
  (computes_output b .version).map fun output : Option String => output.bind bannerVersion?

theorem computes_inInterval (i : Version.Interval) :
    Computes b (inInterval b i) [.version] fun outputs => (direct outputs).inInterval i :=
  (computes_version b).map fun version => i.containsKnown version

theorem computes_hasDevice (name : String) :
    Computes b (hasDevice b name) [.deviceHelp] fun outputs => (direct outputs).hasDevice name :=
  (computes_output b .deviceHelp).map fun output : Option String =>
    output.any fun text => (deviceNames text).contains name

theorem computes_hasObject (name : String) :
    Computes b (hasObject b name) [.objectHelp] fun outputs => (direct outputs).hasObject name :=
  (computes_output b .objectHelp).map fun output : Option String =>
    output.any fun text => (objectNames text).contains name

theorem computes_evaluate (c : Capability) :
    Computes b (evaluate b c) [c.query] fun outputs => decides c (outputs c.query) := by
  unfold evaluate decides Capability.query
  cases c.gate with
  | help word =>
    exact (computes_output b .help).map fun output : Option String => output.any (mentions · word)
  | version i => exact computes_inInterval b i
  | device name => exact computes_hasDevice b name

theorem computes_probe (c : Capability) :
    Computes b (probe b c) [c.query] fun outputs => (direct outputs).probe c := by
  intro s hs
  cases hc : s.answers.lookup c with
  | some known =>
    obtain ⟨output, houtput, hdecides⟩ := hs c known hc
    have hquery : c.query ∈ s.known := mem_known.2 ⟨output, houtput⟩
    rw [runFrom_probe_of_known b hc]
    refine ⟨⟨hs, .refl s, ?_, ?_⟩, fun outputs h => ?_⟩
    · simp [unseen, hquery, Backend.runAll]
    · simp [unseen, hquery, Backend.runAll]
    · change known = decides c (outputs c.query)
      rw [h c.query output houtput]
      exact hdecides
  | none =>
    obtain ⟨hran, hvalue⟩ := computes_evaluate b c s hs
    have hkept := (lasting_probe b c s).1
    rw [runFrom_probe_of_unknown b hc] at hkept ⊢
    refine ⟨⟨fun c' a ha => ?_, hkept, hran.backend, hran.outputs⟩, hvalue⟩
    by_cases hcc : c' = c
    · -- the answer was decided from an output that is kept
      subst hcc
      rw [List.lookup_cons_self] at ha
      obtain ⟨output, houtput⟩ := hran.exists_lookup (List.mem_singleton_self c'.query)
      have hagrees := agreesWith_recorded (Oracle.runFrom (evaluate b c') s).2
      have hdecides : _ = decides c' (recorded _ c'.query) := hvalue _ hagrees
      rw [hagrees _ _ houtput] at hdecides
      exact ⟨output, houtput, (Option.some.inj ha).symm.trans hdecides⟩
    · rw [List.lookup_cons, beq_false_of_ne hcc] at ha
      exact hran.coherent c' a ha

theorem computes_filterM {p : α → StateM (State σ) Bool} {need : α → Query}
    {f : (Query → Option String) → α → Id Bool}
    (h : ∀ a, Computes b (p a) [need a] fun outputs => f outputs a) (as : List α) :
    Computes b (CapabilitySet.filterM p as) (as.map need) fun outputs =>
      CapabilitySet.filterM (f outputs) as := by
  induction as with
  | nil => exact .ret []
  | cons a as ih => exact (h a).bind fun keep => ih.map fun rest => if keep then a :: rest else rest

theorem computes_snapshot (devices objects : List String) :
    Computes b (CapabilitySet.snapshot (oracle b) devices objects)
      (Operation.snapshot devices objects).needs fun outputs =>
        CapabilitySet.snapshot (direct outputs) devices objects := by
  have hdevices := computes_filterM b (computes_hasDevice b) devices
  have hobjects := computes_filterM b (computes_hasObject b) objects
  have hflags := computes_filterM b (computes_probe b) Named.all
  have hall := (computes_version b).bind fun version => hflags.bind fun flags =>
    hdevices.bind fun devices => hobjects.map fun objects =>
      CapabilitySet.ofLists version flags devices objects
  have hneeds : (Operation.snapshot devices objects).needs =
      [.version] ++ ((Named.all : List Capability).map Capability.query ++
        (devices.map (fun _ => .deviceHelp) ++ objects.map fun _ => .objectHelp)) := by
    simp [Operation.needs]
  rw [hneeds]
  exact hall

/-- Every operation runs the queries that it needs and answers from their outputs. -/
theorem computes_perform (op : Operation) :
    Computes b ((oracle b).perform op) op.needs fun outputs => (direct outputs).perform op := by
  cases op with
  | probe c => exact (computes_probe b c).map Answer.verdict
  | inInterval i => exact (computes_inInterval b i).map Answer.verdict
  | hasDevice name => exact (computes_hasDevice b name).map Answer.verdict
  | hasObject name => exact (computes_hasObject b name).map Answer.verdict
  | version => exact (computes_version b).map Answer.version
  | snapshot devices objects => exact (computes_snapshot b devices objects).map Answer.set

/-! ## Runs of operations -/

def performAll (b : Backend σ) (ops : List Operation) (s : σ) : List Answer × State σ :=
  Oracle.runFrom (ops.mapM (oracle b).perform) (.start s)

theorem computes_mapM_perform (ops : List Operation) :
    Computes b (ops.mapM (oracle b).perform) (ops.flatMap Operation.needs) fun outputs =>
      ops.map fun op => (direct outputs).perform op := by
  induction ops with
  | nil =>
    rw [List.mapM_nil]
    exact .ret []
  | cons op ops ih =>
    rw [List.mapM_cons]
    exact (computes_perform b op).bind fun answer => ih.map fun answers => answer :: answers

theorem coherent_start (s : σ) : (State.start s).Coherent := fun _ _ h => nomatch h

theorem ran_performAll (ops : List Operation) (s : σ) :
    Ran b (ops.flatMap Operation.needs) (.start s) (performAll b ops s).2 :=
  (computes_mapM_perform b ops _ (coherent_start s)).1

def queriesOf (ops : List Operation) : List Query := unseen [] (ops.flatMap Operation.needs)

theorem mem_queriesOf {ops : List Operation} {q : Query} :
    q ∈ queriesOf ops ↔ ∃ op ∈ ops, q ∈ op.needs := by
  rw [← List.mem_flatMap]
  refine ⟨mem_of_mem_unseen, fun h => ?_⟩
  have happend : q ∈ [] ++ queriesOf ops := mem_unseen_of_mem h
  exact happend

theorem nodup_queriesOf (ops : List Operation) : (queriesOf ops).Nodup := by
  have happend : ([] ++ queriesOf ops).Nodup := nodup_append_unseen List.nodup_nil
  exact happend

theorem queriesOf_append_singleton (ops : List Operation) (op : Operation) :
    queriesOf (ops ++ [op]) = queriesOf ops ++ unseen (queriesOf ops) op.needs := by
  rw [queriesOf, List.flatMap_append, List.flatMap_singleton, unseen_append, List.nil_append]
  rfl

/-- Where every query was run once, what it gave is what is recorded. -/
theorem recorded_of_mem {runs : List (Query × Option String)} {q : Query} {output : Option String}
    (hruns : (runs.map Prod.fst).Nodup) (h : (q, output) ∈ runs) : recorded runs q = output := by
  induction runs with
  | nil => simp at h
  | cons e runs ih =>
    obtain ⟨q', output'⟩ := e
    rw [List.map_cons, List.nodup_cons] at hruns
    obtain heq | h := List.mem_cons.1 h
    · cases heq
      simp [recorded]
    · have hne : q ≠ q' := ne_of_mem_of_not_mem (List.mem_map_of_mem (f := Prod.fst) h) hruns.1
      rw [recorded, List.lookup_cons, beq_false_of_ne hne]
      exact ih hruns.2 h

theorem backend_performAll (ops : List Operation) (s : σ) :
    (performAll b ops s).2.backend = (b.runAll (queriesOf ops) s).2 :=
  (ran_performAll b ops s).backend

theorem answers_performAll (ops : List Operation) (s : σ) :
    (performAll b ops s).1 =
      ops.map fun op => (direct (recorded (b.runAll (queriesOf ops) s).1)).perform op := by
  refine (computes_mapM_perform b ops _ (coherent_start s)).2 _ fun q output hq => ?_
  have houtputs : (performAll b ops s).2.outputs = (b.runAll (queriesOf ops) s).1.reverse := by
    rw [(ran_performAll b ops s).outputs]
    exact List.append_nil _
  have hmem : (q, output) ∈ (performAll b ops s).2.outputs := by
    obtain ⟨before, after, hsplit, -⟩ := List.lookup_eq_some_iff.1 hq
    exact hsplit ▸ List.mem_append_right _ List.mem_cons_self
  rw [houtputs, List.mem_reverse] at hmem
  refine recorded_of_mem ?_ hmem
  rw [Backend.map_fst_runAll]
  exact nodup_queriesOf ops

/-- A log shows the queries that are run, in this order, and nothing else. -/
theorem backend_performAll_logged (ops : List Operation) (s : σ) :
    (performAll b.logged ops (s, [])).2.backend =
      ((b.runAll (queriesOf ops) s).2, (b.runAll (queriesOf ops) s).1) := by
  rw [backend_performAll, Backend.runAll_logged, List.nil_append]

/-! ## Queries that failed -/

section Failed

variable {outputs : Query → Option String} {q : Query}

theorem decides_none (c : Capability) : decides c none = false := by
  unfold decides
  cases c.gate <;> rfl

theorem snapshot_direct (outputs : Query → Option String) (devices objects : List String) :
    CapabilitySet.snapshot (direct outputs) devices objects =
      CapabilitySet.ofLists (direct outputs).version
        (Named.all.filter fun c => decides c (outputs c.query))
        (devices.filter (direct outputs).hasDevice)
        (objects.filter (direct outputs).hasObject) :=
  CapabilitySet.snapshot_eq (direct outputs) devices objects

theorem version_of_failed (h : outputs .version = none) : (direct outputs).version = none := by
  rw [direct, h]
  rfl

theorem hasDevice_of_failed (h : outputs .deviceHelp = none) (name : String) :
    (direct outputs).hasDevice name = false := by
  rw [direct, h]
  rfl

theorem hasObject_of_failed (h : outputs .objectHelp = none) (name : String) :
    (direct outputs).hasObject name = false := by
  rw [direct, h]
  rfl

theorem filter_hasDevice_of_failed (h : outputs .deviceHelp = none) (names : List String) :
    names.filter (direct outputs).hasDevice = [] := by
  rw [List.filter_eq_nil_iff]
  intro name _
  rw [hasDevice_of_failed h]
  exact Bool.false_ne_true

theorem filter_hasObject_of_failed (h : outputs .objectHelp = none) (names : List String) :
    names.filter (direct outputs).hasObject = [] := by
  rw [List.filter_eq_nil_iff]
  intro name _
  rw [hasObject_of_failed h]
  exact Bool.false_ne_true

theorem consistent_direct (outputs : Query → Option String) : (direct outputs).Consistent where
  inInterval _ := rfl
  version c i hgate h := by
    change decides c (outputs c.query) = true
    rw [decides, Capability.query, hgate]
    exact h
  device c name hgate h := by
    change decides c (outputs c.query) = true
    rw [decides, Capability.query, hgate]
    exact h

/-- A snapshot derives no capability from a version or from devices that are not known. -/
theorem has_snapshot_of_failed {devices objects : List String} {c : Capability}
    (h : outputs c.query = none) :
    CapabilitySet.has (CapabilitySet.snapshot (direct outputs) devices objects) c = false := by
  have hreflects := CapabilitySet.reflects_snapshot (consistent_direct outputs) devices objects
  have hprobe : (direct outputs).probe c = false := by
    change decides c (outputs c.query) = false
    rw [h, decides_none]
  exact (hreflects.probe c).trans hprobe

/-- What depends on a query that failed is denied. -/
theorem denies_of_failed (h : outputs q = none) (op : Operation) :
    Answer.Denies q op ((direct outputs).perform op).run := by
  cases op with
  | probe c =>
    rintro rfl
    change Answer.verdict (decides c (outputs c.query)) = _
    rw [h, decides_none]
  | inInterval i =>
    rintro rfl
    change Answer.verdict (i.containsKnown (direct outputs).version) = _
    rw [version_of_failed h]
    rfl
  | hasDevice name =>
    rintro rfl
    exact congrArg Answer.verdict (hasDevice_of_failed h name)
  | hasObject name =>
    rintro rfl
    exact congrArg Answer.verdict (hasObject_of_failed h name)
  | version =>
    rintro rfl
    exact congrArg Answer.version (version_of_failed h)
  | snapshot devices objects =>
    refine ⟨_, rfl, fun c hc => ?_, fun hq => ?_, fun hq => ?_, fun hq => ?_⟩
    · exact has_snapshot_of_failed (hc ▸ h)
    · rw [snapshot_direct]
      exact version_of_failed (hq ▸ h)
    · rw [snapshot_direct, filter_hasDevice_of_failed (hq ▸ h)]
      rfl
    · rw [snapshot_direct, filter_hasObject_of_failed (hq ▸ h)]
      rfl

end Failed

/-! ## The cache -/

/-- What a run of operations on a new probe looks like from outside. -/
structure Faithful (b : Backend σ) (s : σ) (ops : List Operation) : Prop where
  /-- No query is run twice. -/
  once : (queriesOf ops).Nodup
  /-- The queries that are run are those that some operation needs. -/
  needed : ∀ q, q ∈ queriesOf ops ↔ ∃ op ∈ ops, q ∈ op.needs
  /-- The backend runs these queries, in this order, and nothing else. -/
  log : (performAll b.logged ops (s, [])).2.backend =
    ((b.runAll (queriesOf ops) s).2, (b.runAll (queriesOf ops) s).1)
  /-- Each operation makes the backend run what it needs and what was not run before. -/
  each : ∀ pre op post, ops = pre ++ op :: post → ∃ runs,
    (performAll b.logged (pre ++ [op]) (s, [])).2.backend.2 =
      (performAll b.logged pre (s, [])).2.backend.2 ++ runs ∧
    runs.map Prod.fst = unseen ((performAll b.logged pre (s, [])).2.backend.2.map Prod.fst) op.needs
  /-- Without the log the backend ends up in the same state. -/
  backend : (performAll b ops s).2.backend = (b.runAll (queriesOf ops) s).2
  /-- All answers come directly from what the runs gave. -/
  answers : (performAll b ops s).1 =
    ops.map fun op => (direct (recorded (b.runAll (queriesOf ops) s).1)).perform op
  /-- What depends on a query that failed is denied. -/
  denied : ∀ q, (q, none) ∈ (b.runAll (queriesOf ops) s).1 → ∀ (i : Nat) op answer,
    ops[i]? = some op → (performAll b ops s).1[i]? = some answer → Answer.Denies q op answer

/-- The cache of a probe cannot be told from outside, except that no query is run twice: whatever
the backend does, and whatever is asked in whatever order. -/
theorem faithful_performAll (b : Backend σ) (s : σ) (ops : List Operation) : Faithful b s ops where
  once := nodup_queriesOf ops
  needed q := mem_queriesOf
  log := backend_performAll_logged b ops s
  each pre op post _ := by
    refine ⟨(b.runAll (unseen (queriesOf pre) op.needs) (b.runAll (queriesOf pre) s).2).1, ?_, ?_⟩
    · rw [backend_performAll_logged, backend_performAll_logged, queriesOf_append_singleton,
        Backend.runAll_append]
    · rw [backend_performAll_logged, Backend.map_fst_runAll, Backend.map_fst_runAll]
  backend := backend_performAll b ops s
  answers := answers_performAll b ops s
  denied q hq i op answer hop hanswer := by
    have hfailed : recorded (b.runAll (queriesOf ops) s).1 q = none := by
      refine recorded_of_mem ?_ hq
      rw [Backend.map_fst_runAll]
      exact nodup_queriesOf ops
    rw [answers_performAll, List.getElem?_map, hop] at hanswer
    rw [← Option.some.inj hanswer]
    exact denies_of_failed hfailed op

/-- A backend that fails once and works from then on: the failure is what counts. -/
example :
    let flaky : Backend Nat := ⟨fun _ n => (if n = 0 then none else some "-blockdev", n + 1)⟩
    let ops := [Operation.probe .blockdev, .hasObject "rng-random", .probe .blockdev]
    (performAll flaky ops 0).1 = [.verdict false, .verdict false, .verdict false] ∧
      (performAll flaky ops 0).2.backend = 2 := by
  decide +kernel

end Probe

end GuestSpec
