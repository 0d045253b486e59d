import GuestSpec.Proofs.Device.Overflow
import GuestSpec.Proofs.Machine.MemoryOverflow

/-!
# Overflow in a plan

The numbers that a plan works out are the vectors of network cards, the sizes of memory devices and
their slots. Which of them leave their range can be read off the parameters.
-/

namespace GuestSpec

open Guarantee

section Run

variable {σ : Type} (o : Oracle (StateM σ)) (family : MachineFamily) (machineType : String)
  (p : Parameters) (s : σ)

/-- The devices of a guest overflow exactly if a virtio card asks for too many pairs of queues, and
the memory exactly if it or its modules are too many, unless there is another error first. Otherwise
each card has the vectors that it asks for. Counted addresses do not start over. -/
theorem overflowsIff_build :
    (∀ {H I : Type} [HostResources H] [Identifiers I] (vmName : String) (supply : Supply H I),
      let run := Oracle.runFrom
        ((DevicePlan.build vmName p ⟨o, family, machineType⟩).run.run supply) s
      OverflowsIff run.1.1 (∃ name ∈ p.objects "nics", p.Overqueued name) ∧
        ∀ plan, run.1.1 = .ok plan →
          List.Forall₂ (fun name n => ∃ props queues, n.QueuedFor p name props queues)
            (p.objects "nics") plan.nics) ∧
      (∀ {H : Type} [HostResources H] (vmName : String) (supply : Supply H IdSource),
        let run := Oracle.runFrom
          ((DevicePlan.build vmName p ⟨o, family, machineType⟩).run.run supply) s
        supply.ids.CountsOn (p.objects "nics").length run.1.2.ids) ∧
      ∀ hostMib,
        OverflowsIff (Oracle.runFrom (MemoryPlan.build p ⟨o, family, machineType⟩ hostMib).run s).1
          (∃ sizeMib, MemoryPlan.size p hostMib = .ok sizeMib ∧ MemoryPlan.Exceeds p sizeMib) := by
  have hG : (plain.state : Guarantee (StateM σ)).Total := total_plain_state
  let t : Target (StateM σ) := ⟨o, family, machineType⟩
  refine ⟨fun vmName supply => ?_, fun vmName supply => ?_, fun hostMib => ?_⟩
  · intro run
    have hqueued : ∀ plan, run.1.1 = .ok plan →
        List.Forall₂ (fun name n => ∃ props queues, n.QueuedFor p name props queues)
          (p.objects "nics") plan.nics :=
      fun plan hplan => DevicePlan.queuedFor_build (t := t) hG vmName p supply s plan hplan
    have hoverflow := (DevicePlan.reckons_build (t := t) hG vmName p supply s).1
    refine ⟨.intro hoverflow fun plan hplan => ?_, hqueued⟩
    rintro ⟨name, hname, hmany⟩
    obtain ⟨n, -, props, queues, h⟩ := exists_of_forall₂ (hqueued plan hplan).flip name hname
    exact h.not_overqueued hmany
  · exact (DevicePlan.reckons_build (t := t) hG vmName p supply s).2.countsOn
  · obtain ⟨hoverflow, hok⟩ := MemoryPlan.settled_build (t := t) hG p hostMib s
    exact .intro hoverflow hok

end Run

/-- Four pairs of queues, and the most that there are vectors for. -/
theorem overflowsIff_build_most :
    let caps : CapabilitySet := ⟨none, [], ["virtio-net-pci"], []⟩
    let p : Parameters := .ofList [("vga", "none"), ("nics", "a b"), ("queues", "4"),
      ("queues_b", "2147483646")]
    let run := Oracle.runFrom
      ((DevicePlan.build "vm" p ⟨caps.oracle, .q35, "q35"⟩).run.run
        ⟨.start (default : Host), IdSource.counting⟩) ()
    (∃ plan supply, run = ((.ok plan, supply), ()) ∧
      plan.nics.map (fun n => match n.device.node.props with
        | .nic props => props.vectors
        | _ => none) = [some 10, some 4294967294]) ∧
      ¬ ∃ name ∈ p.objects "nics", p.Overqueued name := by
  intro caps p run
  have hvectors : run.1.1.toOption.map (fun plan => plan.nics.map (fun n =>
      match n.device.node.props with
      | .nic props => props.vectors
      | _ => none)) = some [some 10, some 4294967294] := by decide +kernel
  obtain ⟨plan, supply, hrun, hvectors⟩ := exists_run_of_map_toOption hvectors
  have hok : run.1.1 = .ok plan := congrArg (fun r => r.1.1) hrun
  obtain ⟨hdevices, -⟩ := overflowsIff_build caps.oracle .q35 "q35" p ()
  obtain ⟨hoverflow, -⟩ := hdevices "vm" ⟨.start (default : Host), IdSource.counting⟩
  refine ⟨⟨plan, supply, hrun, hvectors⟩, fun hmany => ?_⟩
  have herror : run.1.1 = .error .overflow :=
    (hoverflow fun e he => nomatch hok.symm.trans he).2 hmany
  exact nomatch hok.symm.trans herror

/-- A virtio card asks for all pairs of queues that there are numbers for. -/
theorem overflow_of_queues :
    let caps : CapabilitySet := ⟨none, [], ["virtio-net-pci"], []⟩
    let p : Parameters := .ofList [("vga", "none"), ("nics", "n"), ("queues", "4294967295")]
    let run := Oracle.runFrom
      ((DevicePlan.build "vm" p ⟨caps.oracle, .q35, "q35"⟩).run.run
        ⟨.start (default : Host), IdSource.counting⟩) ()
    run.1.1 = .error .overflow := by
  decide +kernel

end GuestSpec
