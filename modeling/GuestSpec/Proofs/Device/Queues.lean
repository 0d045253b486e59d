import GuestSpec.Proofs.Compile.Planned
import GuestSpec.Proofs.Naming.Devices
import GuestSpec.Proofs.Oracle.Overflow
import GuestSpec.Proofs.Oracle.Steady

/-!
# Queues of network cards

A network card that asks for more than one pair of queues has two halves that hear of it. The card
itself is told when it is a virtio card, and what connects it to the network is told when that is a
TAP device. Nobody compares the two, so the halves agree when the card is a virtio card behind a TAP
device, or neither.
-/

namespace GuestSpec

open Guarantee

/-! ## What is asked for -/

namespace Parameters

def nicModel (p : Parameters) (name : String) : String :=
  (p.scopedTo name).getD "nic_model" "virtio"

def netType (p : Parameters) (name : String) : String := (p.scopedTo name).getD "nettype" "user"

/-- The pairs of queues that a network card asks for, if there is to be more than one. -/
def AsksQueues (p : Parameters) (name : String) (queues : Option UInt32) : Prop :=
  ∃ given, (p.scopedTo name).uint32? "queues" = .ok given ∧ queues = given.filter (1 < ·)

end Parameters

/-- The pairs of queues that a card is connected with, if it is told a number. -/
def NetdevBackend.queues? : NetdevBackend → Option UInt32
  | tap _ _ queues => queues
  | _ => none

/-- Both halves of a network card have several queues, and then there are two vectors for each pair
and two more, or neither has. -/
def UnplacedNic.QueuesAgree (n : UnplacedNic) : Prop :=
  ∃ props, n.device.node.props = .nic props ∧
    match n.netdev.backend.queues? with
    | some queues =>
      1 < queues ∧ props.mq = true ∧
        props.vectors.map UInt32.toNat = some (2 * queues.toNat + 2)
    | none => props.mq = false ∧ props.vectors = none

/-- A network card with the queues that its name asks for: the card is told of them if it is a
virtio card, and its connection if that is a TAP device. -/
structure UnplacedNic.QueuedFor (p : Parameters) (name : String) (n : UnplacedNic)
    (props : NicProps) (queues : Option UInt32) : Prop where
  name_eq : n.name = name
  props_eq : n.device.node.props = .nic props
  asked : p.AsksQueues name queues
  mq : props.mq = (p.nicModel name = "virtio" && queues.isSome)
  vectors : props.vectors.map UInt32.toNat =
    if p.nicModel name = "virtio" then queues.map fun q => 2 * q.toNat + 2 else none
  netdev : n.netdev.backend.queues? = if p.netType name = "tap" then queues else none

/-! ## One card -/

namespace DevicePlan

theorem toNat_vectors? (queues : Option UInt32) :
    attempt.Holds (vectors? queues) fun vectors =>
      vectors.map UInt32.toNat = queues.map fun q => 2 * q.toNat + 2 := by
  cases queues with
  | none => exact attempt.ret rfl
  | some q =>
    have hexact : attempt.Holds (DevicePlan.vectors q) fun v => v.toNat = 2 * q.toNat + 2 := by
      intro v hv
      unfold DevicePlan.vectors at hv
      split at hv
      · next hlt =>
        have hdouble : (2 * q).toNat = 2 * q.toNat := by
          rw [UInt32.toNat_mul]
          exact Nat.mod_eq_of_lt (by simp only [UInt32.size] at hlt; change 2 * q.toNat < _; omega)
        rw [← Except.ok.inj hv, UInt32.toNat_add, hdouble]
        exact Nat.mod_eq_of_lt hlt
      · cases hv
    exact attempt.bind hexact fun v => attempt.ret fun h => congrArg some h

theorem queues?_netdevBackend (name : String) (p : Parameters) (queues : Option UInt32) :
    attempt.Holds (netdevBackend name p queues) fun backend =>
      backend.queues? = if p.getD "nettype" "user" = "tap" then queues else none := by
  unfold netdevBackend
  split
  · next h => exact attempt.ret (by rw [h]; rfl)
  · next h =>
    exact attempt.bind attempt_trivial fun vhost => attempt.ret fun _ => by rw [if_pos h]; rfl
  · next h =>
    rw [h]
    split
    · exact attempt.ret rfl
    · exact fun _ h => nomatch h
  · exact fun _ h => nomatch h

/-! ## All cards -/

variable {m : Type → Type} [Monad m] {H I : Type}

def others [HostResources H] (vmName : String) (p : Parameters) (t : Target m) :
    Compiling H I m DeviceParts := do
  let serials ← parts p "serials" (serial vmName p t)
  let rngs ← parts p "virtio_rngs" (rng vmName p t)
  let tpms ← parts p "tpms" (tpm vmName p t)
  let vsocks ← parts p "vsocks" (vsock p t)
  let balloons ← parts p "balloon" (balloon p t)
  let watchdog ← watchdog p t
  let inputs ← parts p "inputs" (input p t)
  let sounds ← soundcards p t
  let usbDevices ← parts p "usb_devices" (usbDevice p t)
  let display ← display p t
  return .join
    [serials, rngs, tpms, vsocks, balloons, watchdog, inputs, sounds, usbDevices, display]

theorem build_eq [LawfulMonad m] [HostResources H] [Identifiers I] (vmName : String)
    (p : Parameters) (t : Target m) :
    (build vmName p t : Compiling H I m _) = (do
      let usbControllers ← ((p.objects "usbs").mapM (usbController p t) : Build m _)
      let nics ← (p.objects "nics").mapM (nic p t)
      let all ← others vmName p t
      return ⟨usbControllers, nics, all.devices, all.objects, all.chardevs⟩) := by
  simp only [build, others, bind_assoc, pure_bind]

variable [LawfulMonad m] {G : Guarantee m} {t : Target m}

theorem queuedFor_nic [Identifiers I] (hG : G.Total) (p : Parameters) (name : String) :
    (G.compiling H I).Holds (nic p t name) fun n =>
      ∃ props queues, n.QueuedFor p name props queues := by
  refine G.state.bind_attempt fun (driver, bus) _ => ?_
  refine (G.compiling H I).bind (hG.compiling _) fun _ => ?_
  refine G.state.bind_parameters fun given hgiven => G.state.bind_attempt fun backend hbackend => ?_
  dsimp only
  split
  all_goals
    refine (G.compiling H I).bind (hG.compiling _) fun mac => ?_
    refine G.state.bind_attempt fun vectors hvectors => G.state.bind_parameters fun extra _ => ?_
    refine G.state.bind_parameters fun request _ => (G.compiling H I).ret fun _ _ => ?_
    have hvectors := toNat_vectors? _ vectors hvectors
    refine ⟨_, _, rfl, rfl, ⟨given, hgiven, rfl⟩, ?_, ?_, queues?_netdevBackend _ _ _ _ hbackend⟩
    · by_cases hmodel : p.nicModel name = "virtio"
      · simp only [hmodel, decide_true, Bool.true_and]
        exact congrArg Option.isSome (if_pos hmodel)
      · simp only [hmodel, decide_false, Bool.false_and]
        exact congrArg Option.isSome (if_neg hmodel)
    · rw [hvectors]
      exact apply_ite (Option.map _) _ _ _

/-- The network cards of a guest have the queues that their names ask for. -/
theorem queuedFor_build [HostResources H] [Identifiers I] (hG : G.Total) (vmName : String)
    (p : Parameters) :
    (G.compiling H I).Holds (build vmName p t) fun plan =>
      List.Forall₂ (fun name n => ∃ props queues, n.QueuedFor p name props queues)
        (p.objects "nics") plan.nics := by
  rw [build_eq]
  refine (G.compiling H I).bind (hG.compiling _) fun usbControllers => ?_
  refine (G.compiling H I).bind ((G.compiling H I).mapM_forall₂ (queuedFor_nic hG p) _)
    fun nics => ?_
  refine (G.compiling H I).bind (hG.compiling _) fun parts => ?_
  exact (G.compiling H I).ret fun _ hnics _ => hnics

end DevicePlan

/-! ## Both halves -/

namespace UnplacedNic.QueuedFor

variable {p : Parameters} {name : String} {n : UnplacedNic} {props : NicProps}

theorem vectors_eq_none {queues : Option UInt32} (h : n.QueuedFor p name props queues)
    (hmq : props.mq = false) : props.vectors = none := by
  have hvectors := h.vectors
  rw [h.mq] at hmq
  split at hvectors
  · next hmodel =>
    obtain rfl : queues = none := by simpa [hmodel] using hmq
    exact Option.map_eq_none_iff.1 hvectors
  · exact Option.map_eq_none_iff.1 hvectors

theorem queuesAgree_of_none (h : n.QueuedFor p name props none) : n.QueuesAgree := by
  have hmq : props.mq = false := by rw [h.mq, Option.isSome_none, Bool.and_false]
  have hnetdev : n.netdev.backend.queues? = none := by rw [h.netdev, ite_self]
  refine ⟨props, h.props_eq, ?_⟩
  rw [hnetdev]
  exact ⟨hmq, h.vectors_eq_none hmq⟩

theorem queuesAgree_iff_of_some {q : UInt32} (h : n.QueuedFor p name props (some q)) :
    n.QueuesAgree ↔ (p.nicModel name = "virtio" ↔ p.netType name = "tap") := by
  obtain ⟨given, -, hgiven⟩ := h.asked
  have hlt : 1 < q := by simpa using (Option.filter_eq_some_iff.1 hgiven.symm).2
  have hmq : props.mq = true ↔ p.nicModel name = "virtio" := by simp [h.mq]
  have hprops : ∀ {P : NicProps → Prop},
      (∃ props, n.device.node.props = .nic props ∧ P props) ↔ P props := by
    intro P
    simp [h.props_eq]
  rw [UnplacedNic.QueuesAgree, hprops, h.netdev]
  by_cases htap : p.netType name = "tap"
  · rw [if_pos htap, iff_true_right htap, ← hmq]
    refine ⟨fun hagree => hagree.2.1, fun hmultiple => ⟨hlt, hmultiple, ?_⟩⟩
    rw [h.vectors, if_pos (hmq.1 hmultiple)]
    rfl
  · rw [if_neg htap, iff_false_right htap, ← hmq, Bool.not_eq_true]
    exact ⟨fun hagree => hagree.1, fun hsingle => ⟨hsingle, h.vectors_eq_none hsingle⟩⟩

/-- The halves of a card agree unless it asks for several queues and only one half is told. -/
theorem queuesAgree_iff {queues : Option UInt32} (h : n.QueuedFor p name props queues) :
    n.QueuesAgree ↔ ∀ q, (p.scopedTo name).uint32? "queues" = .ok (some q) → 1 < q →
      (p.nicModel name = "virtio" ↔ p.netType name = "tap") := by
  obtain ⟨given, hgiven, rfl⟩ := h.asked
  rw [hgiven]
  cases hqueues : given.filter (1 < ·) with
  | none =>
    rw [hqueues] at h
    refine iff_of_true h.queuesAgree_of_none fun q hq hlt => ?_
    rw [Except.ok.inj hq, Option.filter_eq_none_iff] at hqueues
    exact absurd (decide_eq_true hlt) (hqueues q rfl)
  | some q =>
    rw [hqueues] at h
    obtain ⟨hq, hlt⟩ := Option.filter_eq_some_iff.1 hqueues
    rw [h.queuesAgree_iff_of_some]
    exact ⟨fun hboth _ _ _ => hboth, fun hall => hall q (congrArg _ hq) (of_decide_eq_true hlt)⟩

end UnplacedNic.QueuedFor

section Run

variable {σ H I : Type} [HostResources H] [Identifiers I] {o : Oracle (StateM σ)}
  {family : MachineFamily} {machineType vmName : String} {p : Parameters}
  {supply supply' : Supply H I} {s s' : σ} {plan : DevicePlan}

theorem DevicePlan.queuedFor_run
    (hrun : Oracle.runFrom ((build vmName p ⟨o, family, machineType⟩).run.run supply) s =
      ((.ok plan, supply'), s')) :
    List.Forall₂ (fun name n => ∃ props queues, n.QueuedFor p name props queues)
      (p.objects "nics") plan.nics :=
  queuedFor_build Guarantee.total_plain_state vmName p supply s plan
    (congrArg (fun r => r.1.1) hrun)

/-- Every network card is told of the queues that it asks for if it is a virtio card, with two
vectors for each pair and two more, and its connection is told of them if that is a TAP device. So
both halves agree exactly as long as no card asks for several queues of which only one half is told.
-/
theorem queuesAgree_iff_told
    (hrun : Oracle.runFrom ((DevicePlan.build vmName p ⟨o, family, machineType⟩).run.run supply) s =
      ((.ok plan, supply'), s')) :
    List.Forall₂ (fun name n =>
      (∃ props queues, n.QueuedFor p name props queues) ∧
        (n.QueuesAgree ↔ ∀ q, (p.scopedTo name).uint32? "queues" = .ok (some q) → 1 < q →
          (p.nicModel name = "virtio" ↔ p.netType name = "tap")))
      (p.objects "nics") plan.nics := by
  refine (DevicePlan.queuedFor_run hrun).imp fun name n hn => ⟨hn, ?_⟩
  obtain ⟨props, queues, h⟩ := hn
  exact h.queuesAgree_iff

end Run

/-- A virtio card behind a TAP device and another card that is behind none. -/
theorem queuesAgree_iff_told_two :
    let caps : CapabilitySet := ⟨none, [], ["virtio-net-pci", "e1000"], []⟩
    let p : Parameters := .ofList [("vga", "none"), ("nics", "a b"), ("queues", "4"),
      ("nettype_a", "tap"), ("nic_model_b", "e1000")]
    let run := Oracle.runFrom
      ((DevicePlan.build "vm" p ⟨caps.oracle, .q35, "q35"⟩).run.run
        ⟨.start (default : Host), IdSource.counting⟩) ()
    ∃ plan supply, run = ((.ok plan, supply), ()) ∧
      plan.nics.map (·.netdev.backend.queues?) = [some 4, none] ∧
        ∀ n ∈ plan.nics, n.QueuesAgree := by
  intro caps p run
  have hqueues : run.1.1.toOption.map (fun plan => plan.nics.map (·.netdev.backend.queues?)) =
      some [some 4, none] := by decide +kernel
  have htold : ∀ name ∈ p.objects "nics",
      (p.nicModel name = "virtio" ↔ p.netType name = "tap") := by
    decide +kernel
  obtain ⟨plan, supply, hrun, hqueues⟩ := exists_run_of_map_toOption hqueues
  refine ⟨plan, supply, hrun, hqueues, fun n hn => ?_⟩
  obtain ⟨name, hname, -, hagree⟩ := exists_of_forall₂ (queuesAgree_iff_told hrun) n hn
  exact hagree.2 fun _ _ _ => htold name hname

/-- A card of another model behind a TAP device, and a virtio card behind none. Both ask for several
queues, and each has one half that is not told. -/
theorem not_queuesAgree_of_half :
    let caps : CapabilitySet := ⟨none, [], ["virtio-net-pci", "e1000"], []⟩
    let p : Parameters := .ofList [("vga", "none"), ("nics", "a b"), ("queues", "4"),
      ("nic_model_a", "e1000"), ("nettype_a", "tap")]
    let run := Oracle.runFrom
      ((DevicePlan.build "vm" p ⟨caps.oracle, .q35, "q35"⟩).run.run
        ⟨.start (default : Host), IdSource.counting⟩) ()
    ∃ plan supply, run = ((.ok plan, supply), ()) ∧
      plan.nics.map (·.netdev.backend.queues?) = [some 4, none] ∧
        ∀ n ∈ plan.nics, ¬ n.QueuesAgree := by
  intro caps p run
  have hqueues : run.1.1.toOption.map (fun plan => plan.nics.map (·.netdev.backend.queues?)) =
      some [some 4, none] := by decide +kernel
  have hhalf : ∀ name ∈ p.objects "nics", (p.scopedTo name).uint32? "queues" = .ok (some 4) ∧
      ¬ (p.nicModel name = "virtio" ↔ p.netType name = "tap") := by decide +kernel
  obtain ⟨plan, supply, hrun, hqueues⟩ := exists_run_of_map_toOption hqueues
  refine ⟨plan, supply, hrun, hqueues, fun n hn hagree => ?_⟩
  obtain ⟨name, hname, props, queues, h⟩ := exists_of_forall₂ (DevicePlan.queuedFor_run hrun) n hn
  obtain ⟨hasked, hneither⟩ := hhalf name hname
  exact hneither (h.queuesAgree_iff.1 hagree 4 hasked (by decide))

end GuestSpec
