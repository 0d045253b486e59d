import GuestSpec.Proofs.Bus.Names

/-!
# SCSI adapters

The adapters of a family are numbered from zero in the order in which they were put in. Each has the
geometry of its family and one bus, which is named after it.
-/

namespace GuestSpec

open Alloc BusAllocator

def Controller.isAdapter (hba : HbaFamily) (d : Controller) : Bool :=
  match d.kind with
  | .scsiHba family _ _ => family == hba
  | _ => false

namespace BusAllocator

variable {a b : BusAllocator} {hba : HbaFamily} {part : Part} {placement : Option Placement}

def adapter (a : BusAllocator) (hba : HbaFamily) (number : Nat) : Controller where
  id := numbered (a.hbaStem hba) number
  driver := a.hbaDriver hba
  placement := none
  kind := .scsiHba hba (Part.geometry a hba).1 (Part.geometry a hba).2
  buses := [numbered (a.hbaStem hba) number ++ ".0"]

def adapters (a : BusAllocator) (hba : HbaFamily) : List Controller :=
  (a.controllers.filter (·.isAdapter hba)).map fun d => { d with placement := none }

def adapterBus (a : BusAllocator) (hba : HbaFamily) (number : Nat) : BusId :=
  (BusName.hba hba number).text a.family

theorem adapterBus_inj {f g : HbaFamily} {i j : Nat}
    (h : a.adapterBus f i = a.adapterBus g j) : f = g ∧ i = j :=
  BusName.hba.inj (BusName.text_inj (fun h => h) (fun h => h) h)

/-- The adapters of a family and their buses are numbered. -/
structure Numbers (a : BusAllocator) (hba : HbaFamily) : Prop where
  buses : a.hbaBuses hba = (List.range (a.hbaBuses hba).length).map (a.adapterBus hba)
  adapters : a.adapters hba = (List.range (a.hbaBuses hba).length).map (a.adapter hba)

theorem Numbers.text_notMem (h : a.Numbers hba) {x : BusName} (hu : ¬x.IsUsb)
    (hx : ∀ number, x ≠ .hba hba number) : x.text a.family ∉ a.hbaBuses hba := by
  rw [h.buses]
  intro hmem
  obtain ⟨number, -, htext⟩ := List.mem_map.1 hmem
  exact hx number (BusName.text_inj hu (fun h => h) htext.symm)

theorem Numbers.disjoint {f g : HbaFamily} (hf : a.Numbers f) (hg : a.Numbers g) (hne : f ≠ g)
    {id : BusId} (hid : id ∈ a.hbaBuses f) : id ∉ a.hbaBuses g := by
  rw [hf.buses] at hid
  obtain ⟨number, -, rfl⟩ := List.mem_map.1 hid
  exact hg.text_notMem (fun h => h) fun _ heq => hne (BusName.hba.inj heq).1

theorem hbaBuses_install (hpart : part ≠ .hba hba) :
    (part.install a placement).hbaBuses hba = a.hbaBuses hba := by
  cases part with
  | hba f =>
    have hne : f ≠ hba := fun h => hpart (congrArg _ h)
    rw [hbaBuses, hbaBuses, Part.hbas_install_hba, List.filter_append,
      List.filter_cons_of_neg (by simpa using hne), List.filter_nil, List.append_nil]
  | _ => rfl

theorem adapterBus_next :
    Part.id a (.hba hba) ++ ".0" = a.adapterBus hba (a.hbaBuses hba).length := by
  rw [Part.id, hbaStem_eq]
  rfl

theorem hbaBuses_install_hba : ((Part.hba hba).install a placement).hbaBuses hba =
    a.hbaBuses hba ++ [a.adapterBus hba (a.hbaBuses hba).length] := by
  rw [hbaBuses, Part.hbas_install_hba, List.filter_append, List.map_append, adapterBus_next,
    List.filter_cons_of_pos (by simp)]
  rfl

theorem adapters_install (hpart : part ≠ .hba hba) :
    (part.install a placement).adapters hba = a.adapters hba := by
  have hnot : (part.controller a placement).isAdapter hba = false := by
    cases part with
    | hba f =>
      have hne : f ≠ hba := fun h => hpart (congrArg _ h)
      simpa [Controller.isAdapter, Part.controller, Part.kind] using hne
    | _ => rfl
  rw [adapters, Part.controllers_install, List.filter_append,
    List.filter_cons_of_neg (by simp [hnot]), List.filter_nil, List.append_nil, adapters]

theorem adapters_install_hba : ((Part.hba hba).install a placement).adapters hba =
    a.adapters hba ++ [a.adapter hba (a.hbaBuses hba).length] := by
  have his : ((Part.hba hba).controller a placement).isAdapter hba = true := beq_self_eq_true hba
  rw [adapters, Part.controllers_install, List.filter_append, List.filter_cons_of_pos his,
    List.map_append, adapters]
  rfl

theorem adapterBus_congr (hba : HbaFamily) (hfamily : b.family = a.family) :
    b.adapterBus hba = a.adapterBus hba := by
  unfold adapterBus
  rw [hfamily]

theorem adapter_congr (hba : HbaFamily) (hfamily : b.family = a.family)
    (hconfig : b.config = a.config) : b.adapter hba = a.adapter hba := by
  have hdriver : b.hbaDriver hba = a.hbaDriver hba := by
    cases hba with
    | virtioScsi => rw [hbaDriver, hbaDriver, hfamily]
    | lsi => rfl
  have hstem : b.hbaStem hba = a.hbaStem hba := by rw [hbaStem, hbaStem, hdriver]
  funext number
  rw [adapter, adapter, hdriver, hstem, Part.geometry, Part.geometry, hconfig]

namespace Numbers

theorem start (family : MachineFamily) (machine : String) (config : AllocatorConfig)
    (hba : HbaFamily) : (BusAllocator.start family machine config).Numbers hba :=
  ⟨rfl, rfl⟩

theorem granted {ask : Option Placement} {owner : String} {p : Placement} (h : a.Numbers hba)
    (hg : Granted ask a owner p b) : b.Numbers hba := by
  obtain ⟨_, -, -, -, -, rfl⟩ := hg
  exact ⟨h.buses, h.adapters⟩

theorem install (h : a.Numbers hba) (part : Part) (placement : Option Placement) :
    (part.install a placement).Numbers hba := by
  have hfamily : (part.install a placement).family = a.family := part.family_install
  have hbus := adapterBus_congr hba hfamily
  have hadapter := adapter_congr hba hfamily part.config_install
  by_cases hpart : part = .hba hba
  · obtain rfl := hpart
    have hlength : (((Part.hba hba).install a placement).hbaBuses hba).length =
        (a.hbaBuses hba).length + 1 := by
      rw [hbaBuses_install_hba, List.length_append, List.length_singleton]
    constructor
    · rw [hlength, hbaBuses_install_hba, hbus, List.range_succ, List.map_append, ← h.buses]
      rfl
    · rw [hlength, adapters_install_hba, hadapter, List.range_succ, List.map_append, ← h.adapters]
      rfl
  · constructor
    · rw [hbaBuses_install hpart, hbus]
      exact h.buses
    · rw [hbaBuses_install hpart, adapters_install hpart, hadapter]
      exact h.adapters

theorem inserted (h : a.Numbers hba) (hi : Inserted part a b) : b.Numbers hba := by
  obtain ⟨placement, c, hs, rfl⟩ := hi
  have hc : c.Numbers hba := hs.preserves (I := fun c => c.Numbers hba) (fun hg => h.granted hg) h
  exact hc.install part placement

end Numbers

end BusAllocator

theorem numbers_run (family : MachineFamily) (machine : String) (config : AllocatorConfig)
    (hba : HbaFamily) (calls : List BusCall) :
    ((start family machine config).afterAll calls).Numbers hba :=
  run_induction (I := fun a => a.Numbers hba) (fun _ _ _ _ _ hg h => h.granted hg)
    (fun _ _ _ _ hi h => h.inserted hi) (.start family machine config)
    (.start family machine config hba) calls

end GuestSpec
