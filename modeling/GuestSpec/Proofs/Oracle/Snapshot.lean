import GuestSpec.Proofs.Compile.Answers
import GuestSpec.Proofs.Oracle.Cache

/-!
# Snapshots

Both oracles of the program have every capability that their version or their devices show, in every
state that they can be in, and what they have told stays true. So a snapshot reflects its oracle
from then on, and where all names that it was not asked about are unknown, compilations cannot tell
the two apart.
-/

namespace GuestSpec

/-! ## The oracles of the program -/

namespace Oracle

/-- The oracles of the program, in the states that they can be in: a set of capabilities, and a
probe that has been asked some questions. -/
inductive Provided : {σ : Type} → Oracle (StateM σ) → σ → Prop where
  | set {σ : Type} (c : CapabilitySet) (s : σ) : Provided c.oracle s
  | probe {σ : Type} (b : Probe.Backend σ) {backend : σ} {s : Probe.State σ}
      (h : (Probe.oracle b).Reaches (.start backend) s) : Provided (Probe.oracle b) s

variable {σ : Type} {o : Oracle (StateM σ)} {s u : σ}

theorem Provided.steady (h : o.Provided s) : o.Steady := by
  cases h with
  | set c s => exact c.steady_oracle
  | probe b h => exact Probe.steady_oracle b

end Oracle

theorem CapabilitySet.consistent_oracle {σ : Type} (c : CapabilitySet) (s : σ) :
    ((c.oracle : Oracle (StateM σ)).answers s).Consistent where
  inInterval _ := rfl
  version d i hgate h := by
    change (c.flags.contains d || c.derives d) = true
    rw [Bool.or_eq_true, derives, hgate]
    exact .inr h
  device d name hgate h := by
    change (c.flags.contains d || c.derives d) = true
    rw [Bool.or_eq_true, derives, hgate]
    exact .inr h

namespace Probe

variable {σ α : Type} (b : Backend σ) {s u : State σ}

theorem coherent_ask (q : Question α) (hs : s.Coherent) :
    (Oracle.runFrom ((oracle b).ask q) s).2.Coherent := by
  cases q with
  | probe c => exact (computes_probe b c s hs).1.coherent
  | inInterval i => exact (computes_inInterval b i s hs).1.coherent
  | hasDevice name => exact (computes_hasDevice b name s hs).1.coherent
  | hasObject name => exact (computes_hasObject b name s hs).1.coherent
  | version => exact (computes_version b s hs).1.coherent

theorem coherent_of_reaches (hs : s.Coherent) (h : (oracle b).Reaches s u) : u.Coherent := by
  induction h with
  | refl => exact hs
  | tail _ hstep ih =>
    obtain ⟨α, q, rfl⟩ := hstep
    exact coherent_ask b q ih

/-- A capability that was decided once is decided the same way again. -/
theorem probe_eq_evaluate (hs : s.Coherent) (c : Capability) :
    (Oracle.runFrom (probe b c) s).1 = (Oracle.runFrom (evaluate b c) s).1 := by
  cases hc : s.answers.lookup c with
  | none => rw [runFrom_probe_of_unknown b hc]
  | some known =>
    obtain ⟨output, houtput, hdecides⟩ := hs c known hc
    obtain ⟨hran, hvalue⟩ := computes_evaluate b c s hs
    have hagrees := agreesWith_recorded (Oracle.runFrom (evaluate b c) s).2
    have hevaluate : _ = decides c (recorded _ c.query) := hvalue _ hagrees
    rw [runFrom_probe_of_known b hc, hevaluate, hagrees _ _ (hran.kept.outputs _ _ houtput)]
    exact hdecides

theorem hasDevice_of_known {r : Option String} (h : s.outputs.lookup .deviceHelp = some r)
    (name : String) :
    ((oracle b).answers s).hasDevice name = r.any fun text => (deviceNames text).contains name := by
  change (Oracle.runFrom (output b .deviceHelp) s).1.any _ = _
  rw [runFrom_output_of_known b h]

theorem hasObject_of_known {r : Option String} (h : s.outputs.lookup .objectHelp = some r)
    (name : String) :
    ((oracle b).answers s).hasObject name = r.any fun text => (objectNames text).contains name := by
  change (Oracle.runFrom (output b .objectHelp) s).1.any _ = _
  rw [runFrom_output_of_known b h]

theorem consistent_oracle (hs : s.Coherent) : ((oracle b).answers s).Consistent where
  inInterval _ := rfl
  version c i hgate h := by
    change (Oracle.runFrom (probe b c) s).1 = true
    rw [probe_eq_evaluate b hs, evaluate, hgate]
    exact h
  device c name hgate h := by
    change (Oracle.runFrom (probe b c) s).1 = true
    rw [probe_eq_evaluate b hs, evaluate, hgate]
    exact h

end Probe

theorem Oracle.Provided.consistent {σ : Type} {o : Oracle (StateM σ)} {s u : σ}
    (h : o.Provided s) (hu : o.Reaches s u) : (o.answers u).Consistent := by
  cases h with
  | set c s => exact c.consistent_oracle u
  | probe b h =>
    exact Probe.consistent_oracle b
      (Probe.coherent_of_reaches b (Probe.coherent_start _) (h.trans hu))

/-! ## Taking a snapshot -/

section Taking

variable {m : Type → Type} [Monad m] {G : Guarantee m} {o : Oracle m} {w : Oracle Id}

theorem Guarantee.gives_filterM {α : Type} {p : α → m Bool} {q : α → Bool}
    (h : ∀ a, G.Holds (p a) fun b => b = q a) (as : List α) :
    G.Holds (CapabilitySet.filterM p as) fun l => l = as.filter q := by
  induction as with
  | nil => exact G.ret rfl
  | cons a as ih =>
    refine G.bind (h a) fun keep => G.bind ih fun rest => G.ret ?_
    rintro rfl rfl
    rw [List.filter_cons]

theorem gives_snapshot (hw : G.Finds o w.findings) (devices objects : List String) :
    G.Holds (CapabilitySet.snapshot o devices objects)
      fun set => set = (CapabilitySet.snapshot w devices objects).run := by
  refine G.bind (hw .version) fun version => ?_
  refine G.bind (G.gives_filterM (q := w.probe) (fun c => ?_) _) fun flags => ?_
  · exact G.mono (hw (.probe c)) fun _ h => h.symm
  refine G.bind (G.gives_filterM (q := w.hasDevice) (fun name => ?_) _) fun devices => ?_
  · exact G.mono (hw (.hasDevice name)) fun _ h => h.symm
  refine G.bind (G.gives_filterM (q := w.hasObject) (fun name => ?_) _) fun objects => ?_
  · exact G.mono (hw (.hasObject name)) fun _ h => h.symm
  refine G.ret ?_
  rintro rfl rfl rfl rfl
  rw [CapabilitySet.snapshot_eq]
  rfl

end Taking

section Runs

variable {σ : Type} {o : Oracle (StateM σ)} {t u : σ}

/-- A snapshot answers like the oracle that it was taken of, whenever that is asked afterwards:
the version, intervals and capabilities, and the devices and objects that the snapshot was asked
about. If these are all that the oracle knows, it agrees with the oracle on every question, and it
gives what compilations against the oracle give, before or after the snapshot. -/
theorem answers_snapshot {s : σ} (ho : o.Provided s) (devices objects : List String)
    (hu : o.Reaches (Oracle.runFrom (CapabilitySet.snapshot o devices objects) s).2 u) :
    let set := (Oracle.runFrom (CapabilitySet.snapshot o devices objects) s).1
    set.Reflects devices objects (o.answers u) ∧
      ((∀ name, (o.answers u).hasDevice name = true → name ∈ devices) →
        (∀ name, (o.answers u).hasObject name = true → name ∈ objects) →
        set.oracle = o.answers u ∧
          ∀ {H I : Type} [HostResources H] [Identifiers I] (host : H) (vmName : String)
            (p : Parameters) (ids : I) (t : σ),
            o.Reaches (Oracle.runFrom (compile o host vmName p ids) t).2 u →
            (Oracle.runFrom (compile o host vmName p ids) t).1 =
              (compile (set.oracle : Oracle Id) host vmName p ids).run) := by
  intro set
  have hgives := gives_snapshot (Oracle.Steady.finds ho.steady s u) devices objects
  have hset : set = (CapabilitySet.snapshot (o.answers u) devices objects).run :=
    Oracle.holds_before hgives .refl hu
  have hreflects : set.Reflects devices objects (o.answers u) := by
    rw [hset]
    exact CapabilitySet.reflects_snapshot (ho.consistent ((hgives s).1.trans hu)) _ _
  refine ⟨hreflects, fun hdevices hobjects => ?_⟩
  have hsame := hreflects.oracle_eq hdevices hobjects
  refine ⟨hsame, fun host vmName p ids t ht => ?_⟩
  rw [hsame]
  have hcompile := gives_compile (Oracle.Steady.finds ho.steady t u) host vmName p ids
  exact Oracle.holds_before hcompile .refl ht

end Runs

/-- A hypervisor that answers four queries and fails from then on. -/
def Probe.shortLived : Probe.Backend Nat where
  query q n :=
    let text := match q with
      | .version => "emulator version 8.2.0"
      | .help => "-blockdev"
      | .deviceHelp => "name \"pcie-root-port\"\nname \"virtio-blk-pci\""
      | .objectHelp => "  rng-random"
    (if n < 4 then some text else none, n + 1)

/-- A guest with an image, against a hypervisor of which a snapshot has all that there is. -/
theorem answers_snapshot_shortLived :
    let o := Probe.oracle Probe.shortLived
    let devices := ["pcie-root-port", "virtio-blk-pci"]
    let p : Parameters := .ofList [("images", "a"), ("vga", "none")]
    let taken :=
      Oracle.runFrom (CapabilitySet.snapshot o devices ["rng-random"]) (Probe.State.start 0)
    let run := Oracle.runFrom (compile o (default : Host) "vm" p IdSource.counting) taken.2
    taken.1.Reflects devices ["rng-random"] (o.answers run.2) ∧
      run.2.backend = 4 ∧ run.1.1.toOption.map (·.storage.length) = some 1 ∧
      run.1 =
        (compile (taken.1.oracle : Oracle Id) (default : Host) "vm" p IdSource.counting).run := by
  intro o devices p taken run
  obtain ⟨hbackend, hstorage, hdevice, hobject⟩ : run.2.backend = 4 ∧
      run.1.1.toOption.map (·.storage.length) = some 1 ∧
      run.2.outputs.lookup .deviceHelp =
        some (some "name \"pcie-root-port\"\nname \"virtio-blk-pci\"") ∧
      run.2.outputs.lookup .objectHelp = some (some "  rng-random") := by
    decide +kernel +revert
  have hprovided : o.Provided (Probe.State.start 0) := .probe _ .refl
  have hreaches : o.Reaches taken.2 run.2 :=
    (gives_compile (Oracle.Steady.finds hprovided.steady taken.2 run.2) (default : Host) "vm" p
      IdSource.counting taken.2).1
  obtain ⟨hreflects, hsame⟩ := answers_snapshot hprovided devices ["rng-random"] hreaches
  have hcompile := hsame
    (fun name h => by
      rwa [Probe.hasDevice_of_known _ hdevice, Option.any_some, List.contains_iff_mem] at h)
    (fun name h => by
      rwa [Probe.hasObject_of_known _ hobject, Option.any_some, List.contains_iff_mem] at h)
  exact ⟨hreflects, hbackend, hstorage,
    hcompile.2 (default : Host) "vm" p IdSource.counting taken.2 .refl⟩

end GuestSpec
