import GuestSpec.Proofs.Bus.Places
import GuestSpec.Proofs.Bus.Sparing
import Mathlib.Order.Bounds.Defs

/-!
# Places of SCSI devices

SCSI devices without coordinates fill the adapters of their family one after the other, and on each
adapter all targets at one unit before the next unit. Another adapter is put in only when all others
are full. So the place of a device follows from its number, whatever else is placed in between.
-/

namespace GuestSpec

open Alloc BusAllocator

namespace BusCall

/-- A call that places a device that gives no coordinates. -/
def automatic (device : String × BusRequest) : BusCall := .place device.1 device.2 .empty

def request? : BusCall → Option BusRequest
  | place _ request _ => some request
  | addUsb .. => none

end BusCall

namespace BusAllocator

/-- The places that calls get which ask for the same, in order. -/
def placements (a : BusAllocator) (request : BusRequest) : List BusCall → List Placement
  | [] => []
  | call :: calls =>
    (if call.request? = some request then (call.granted a).toList.map Grant.placement else []) ++
      (a.after call).placements request calls

def adapterShape (a : BusAllocator) (hba : HbaFamily) : Shape :=
  .scsi (Part.geometry a hba).1 (Part.geometry a hba).2

def adapterSize (a : BusAllocator) (hba : HbaFamily) : Nat := (a.adapterShape hba).space.size

/-- The place of a SCSI device by its number in its family. -/
def scsiPlace (a : BusAllocator) (hba : HbaFamily) (number : Nat) : Placement where
  bus := a.adapterBus hba (number / a.adapterSize hba)
  coordinate := (a.adapterShape hba).space.coordinate (number % a.adapterSize hba)

/-- The first devices of a family have filled adapters in order. -/
structure Fills (a : BusAllocator) (hba : HbaFamily) (devices adapters : Nat) : Prop where
  length : (a.hbaBuses hba).length = adapters
  seat : ∀ i < adapters, ∃ n, a.node? (a.adapterBus hba i) = some n ∧
    n.shape = a.adapterShape hba ∧ n.FilledUpTo (devices - i * a.adapterSize hba)

/-- They have filled no more adapters than they need. -/
def FillsLeast (a : BusAllocator) (hba : HbaFamily) (devices : Nat) : Prop :=
  ∃ adapters, a.Fills hba devices adapters ∧
    IsLeast {n | devices ≤ n * a.adapterSize hba} adapters

variable {a b : BusAllocator} {hba : HbaFamily} {request : BusRequest}

theorem adapterShape_congr (hba : HbaFamily) (hconfig : b.config = a.config) :
    b.adapterShape hba = a.adapterShape hba := by
  rw [adapterShape, adapterShape, Part.geometry, Part.geometry, hconfig]

theorem scsiPlace_congr (hba : HbaFamily) (hfamily : b.family = a.family)
    (hconfig : b.config = a.config) : b.scsiPlace hba = a.scsiPlace hba := by
  funext number
  rw [scsiPlace, scsiPlace, adapterSize, adapterSize, adapterShape_congr hba hconfig,
    adapterBus_congr hba hfamily]

theorem placements_append (calls more : List BusCall) :
    a.placements request (calls ++ more) =
      a.placements request calls ++ (a.afterAll calls).placements request more := by
  induction calls generalizing a with
  | nil => rfl
  | cons call calls ih => rw [List.cons_append, placements, ih, placements, List.append_assoc,
      afterAll_cons]

/-- The least number of adapters that take a number of devices. -/
theorem isLeast_succ_iff {size devices m : Nat} :
    IsLeast {n | devices ≤ n * size} (m + 1) ↔
      m * size < devices ∧ devices ≤ (m + 1) * size := by
  constructor
  · rintro ⟨henough, hleast⟩
    refine ⟨?_, henough⟩
    by_contra hle
    exact absurd (hleast (Nat.le_of_not_lt hle)) (by omega)
  · rintro ⟨hlt, hle⟩
    refine ⟨hle, fun n hn => ?_⟩
    exact Nat.lt_of_mul_lt_mul_right (hlt.trans_le hn)

theorem scsiPlace_eq {m number : Nat} (hlo : m * a.adapterSize hba ≤ number)
    (hhi : number < (m + 1) * a.adapterSize hba) :
    a.scsiPlace hba number = ⟨a.adapterBus hba m,
      (a.adapterShape hba).space.coordinate (number - m * a.adapterSize hba)⟩ := by
  have hdiv : number / a.adapterSize hba = m := Nat.div_eq_of_lt_le hlo hhi
  rw [scsiPlace, Nat.mod_eq_sub_mul_div, hdiv, Nat.mul_comm]

namespace Fills

variable {devices m i : Nat}

section Search

variable (h : a.Fills hba devices m)

include h

theorem mem_buses (hn : a.Numbers hba) (hi : i < m) : a.adapterBus hba i ∈ a.hbaBuses hba := by
  rw [hn.buses, h.length]
  exact List.mem_map_of_mem (List.mem_range.2 hi)

/-- What leaves the adapters alone. -/
theorem spares (hn : a.Numbers hba) (hab : Spares hba a b) : b.Fills hba devices m := by
  have hbus := adapterBus_congr hba hab.family
  have hshape := adapterShape_congr hba hab.config
  refine ⟨hab.buses ▸ h.length, fun i hi => ?_⟩
  obtain ⟨n, hnode, hfilled⟩ := h.seat i hi
  rw [hbus, adapterSize, hshape]
  exact ⟨n, hab.node _ (h.mem_buses hn hi) n hnode, hfilled⟩

theorem shape_eq (hn : a.Numbers hba) :
    ∀ id ∈ a.hbaBuses hba,
      ∃ n targets luns, a.node? id = some n ∧ n.shape = .scsi targets luns := by
  intro id hid
  rw [hn.buses, h.length] at hid
  obtain ⟨i, hi, rfl⟩ := List.mem_map.1 hid
  obtain ⟨n, hnode, hshape, -⟩ := h.seat i (List.mem_range.1 hi)
  exact ⟨n, _, _, hnode, hshape⟩

theorem firstFree?_seat (hi : i < m) : ∃ n, a.node? (a.adapterBus hba i) = some n ∧
    n.firstFree? = (a.adapterShape hba).places[devices - i * a.adapterSize hba]? := by
  obtain ⟨n, hnode, hshape, hfilled⟩ := h.seat i hi
  exact ⟨n, hnode, hshape ▸ hfilled.firstFree?_eq⟩

theorem firstOn?_older {k : Nat} (hk : k ≤ m) (hfull : k * a.adapterSize hba ≤ devices) :
    firstOn? a ((List.range k).map (a.adapterBus hba)) = none := by
  rw [firstOn?, List.findSome?_eq_none_iff]
  intro id hid
  obtain ⟨i, hi, rfl⟩ := List.mem_map.1 hid
  have hi : i < k := List.mem_range.1 hi
  obtain ⟨n, hnode, hfree⟩ := h.firstFree?_seat (hi.trans_le hk)
  have hnone : (a.adapterShape hba).places[devices - i * a.adapterSize hba]? = none := by
    have hlast : (i + 1) * a.adapterSize hba ≤ devices :=
      (Nat.mul_le_mul_right _ hi).trans hfull
    rw [Nat.succ_mul] at hlast
    rw [List.getElem?_eq_none_iff, Shape.places, List.length_map, List.length_range]
    exact Nat.le_sub_of_add_le' hlast
  simp [hnode, hfree, hnone]

end Search

variable (h : a.Fills hba devices (m + 1)) (hlo : m * a.adapterSize hba ≤ devices)

include h hlo

/-- Only the newest adapter can have room. -/
theorem firstOn?_hbaBuses (hn : a.Numbers hba) :
    firstOn? a (a.hbaBuses hba) = firstOn? a [a.adapterBus hba m] := by
  have hold := h.firstOn?_older (Nat.le_succ m) hlo
  rw [firstOn?] at hold
  rw [hn.buses, h.length, List.range_succ, List.map_append, firstOn?, List.findSome?_append, hold,
    Option.none_or]
  rfl

variable (hhi : devices < (m + 1) * a.adapterSize hba)

include hhi

theorem exists_next : ∃ n, a.node? (a.scsiPlace hba devices).bus = some n ∧
    n.firstFree? = some (a.scsiPlace hba devices).coordinate := by
  obtain ⟨n, hnode, hfree⟩ := h.firstFree?_seat (Nat.lt_succ_self m)
  rw [scsiPlace_eq hlo hhi]
  refine ⟨n, hnode, hfree.trans ?_⟩
  rw [Nat.succ_mul] at hhi
  have hlt : devices - m * a.adapterSize hba < (a.adapterShape hba).space.size :=
    Nat.sub_lt_left_of_lt_add hlo hhi
  simp [Shape.places, hlt]

theorem firstOn?_next : firstOn? a [a.adapterBus hba m] =
    some ((a.scsiPlace hba devices).bus, (a.scsiPlace hba devices).coordinate) := by
  obtain ⟨n, hnode, hfree⟩ := h.exists_next hlo hhi
  have hbus : (a.scsiPlace hba devices).bus = a.adapterBus hba m := by rw [scsiPlace_eq hlo hhi]
  rw [hbus] at hnode ⊢
  simp [firstOn?, hnode, hfree]

theorem claim (owner : String) : (a.addClaim (a.scsiPlace hba devices).bus
    (a.scsiPlace hba devices).coordinate owner).Fills hba (devices + 1) (m + 1) := by
  rw [scsiPlace_eq hlo hhi]
  refine ⟨h.length, fun i hi => ?_⟩
  obtain ⟨n, hnode, hshape, hfilled⟩ := h.seat i hi
  change ∃ n, (a.addClaim _ _ owner).node? (a.adapterBus hba i) = some n ∧
    n.shape = a.adapterShape hba ∧ n.FilledUpTo (devices + 1 - i * a.adapterSize hba)
  rw [node?_addClaim, hnode, Option.map_some]
  obtain hlt | rfl := Nat.lt_succ_iff_lt_or_eq.1 hi
  · -- an older adapter stays full
    have hne : a.adapterBus hba i ≠ a.adapterBus hba m := fun heq => hlt.ne (adapterBus_inj heq).2
    have hfull : i * a.adapterSize hba + a.adapterSize hba ≤ devices := by
      rw [← Nat.succ_mul]
      exact (Nat.mul_le_mul_right _ hlt).trans hlo
    have hsize : n.shape.space.size = a.adapterSize hba := by rw [hshape, adapterSize]
    rw [if_neg hne]
    exact ⟨n, rfl, hshape, hfilled.of_size_le (by omega) (by omega)⟩
  · rw [if_pos rfl, Nat.sub_add_comm hlo]
    rw [Nat.succ_mul] at hhi
    refine ⟨_, rfl, hshape, ?_⟩
    rw [← hshape]
    refine hfilled.claim ?_ owner
    rw [hshape]
    exact Nat.sub_lt_left_of_lt_add hlo hhi

theorem ensures_claim (owner : String) (e : CompileError) :
    Succeeds (match firstOn? a [a.adapterBus hba m] with
      | some (bus, c) => Alloc.claim owner bus c
      | none => throw e) a fun p b => p = a.scsiPlace hba devices ∧
        b.FillsLeast hba (devices + 1) := by
  obtain ⟨n, hnode, hfree⟩ := h.exists_next hlo hhi
  rw [h.firstOn?_next hlo hhi]
  refine (succeeds_claim owner hnode (BusNode.contains_of_firstFree? hfree)
    (BusNode.isFree_of_firstFree? hfree)).imp ?_
  rintro p b ⟨rfl, hg⟩
  obtain ⟨_, -, -, -, -, rfl⟩ := hg
  exact ⟨rfl, m + 1, h.claim hlo hhi owner, isLeast_succ_iff.2 ⟨Nat.lt_succ_of_le hlo, hhi⟩⟩

end Fills

theorem Fills.added {devices m : Nat} (h : a.Fills hba devices m) (hu : a.Undisturbed)
    (hpci : hba = .lsi → a.family.hasPci = true) (hfull : devices ≤ m * a.adapterSize hba)
    (hadd : Added (.hba hba) a b) : b.Fills hba devices (m + 1) := by
  have hbus := adapterBus_congr hba hadd.family_eq
  have hshape := adapterShape_congr hba hadd.config_eq
  have hnew := hadd.node? hu (fun _ _ _ _ _ => ⟨hpci, rfl⟩) List.mem_cons_self
  change b.node? (Part.id a (.hba hba) ++ ".0") = _ at hnew
  rw [adapterBus_next, h.length] at hnew
  obtain ⟨c, q, hsits, rfl⟩ := hadd
  have hac : Spares hba a c := .sits hu hsits
  refine ⟨?_, fun i hi => ?_⟩
  · rw [hbaBuses_install_hba, List.length_append, hac.buses, h.length, List.length_singleton]
  · rw [hbus, adapterSize, hshape]
    obtain hlt | rfl := Nat.lt_succ_iff_lt_or_eq.1 hi
    · obtain ⟨n, hnode, hfilled⟩ := h.seat i hlt
      have hold := hac.node _ (h.mem_buses (hu.numbers hba) hlt) n hnode
      exact ⟨n, Part.node?_install_of_node? hold, hfilled⟩
    · refine ⟨_, hnew, rfl, ?_⟩
      rw [BusNode.FilledUpTo, ← adapterSize, Nat.sub_eq_zero_of_le hfull, List.take_zero]
      rfl

/-! ## Calls -/

/-- A SCSI device gets the next place of its family, or nothing happens. -/
theorem FillsLeast.ensures_placeScsi {devices : Nat} (h : a.FillsLeast hba devices)
    (hu : a.Undisturbed) (hsize : 0 < a.adapterSize hba) (owner : String) :
    Ensures (placeScsi owner hba .empty) a
      (fun p b => p = a.scsiPlace hba devices ∧ b.FillsLeast hba (devices + 1))
      fun _ b => b = a := by
  obtain ⟨m, hm, hleast⟩ := h
  have hnumbers := hu.numbers hba
  apply ensures_get_bind
  dsimp only
  split
  · exact Ensures.failing (ensures_unsupported fun _ => rfl)
  · rename_i hlsi
    change Ensures (match firstScsi? a none none (a.hbaBuses hba) with
      | some (bus, c) => Alloc.claim owner bus c
      | none => do
        let bus ← addHba hba
        match firstScsi? (← get) none none [bus] with
        | some (bus, c) => Alloc.claim owner bus c
        | none => throw (.collision (.outOfRange owner bus (.scsi 0 0)))) a _ _
    rw [firstScsi?_any (hm.shape_eq hnumbers)]
    have henough : devices ≤ m * a.adapterSize hba := hleast.1
    obtain hroom | hfull := henough.lt_or_eq
    · obtain _ | m := m
      · rw [Nat.zero_mul] at hroom
        cases hroom
      · obtain ⟨hlo, -⟩ := isLeast_succ_iff.1 hleast
        have hclaim := hm.ensures_claim hlo.le hroom owner .overflow
        rw [hm.firstOn?_hbaBuses hlo.le hnumbers]
        rw [hm.firstOn?_next hlo.le hroom] at hclaim ⊢
        exact hclaim.imp_error fun _ _ h => h.elim
    · have hnone : firstOn? a (a.hbaBuses hba) = none := by
        rw [hnumbers.buses, hm.length]
        exact hm.firstOn?_older le_rfl hfull.ge
      rw [hnone]
      have hpci : hba = .lsi → a.family.hasPci = true := by simpa using hlsi
      refine Ensures.bind ((failsOn_addHba hu hba hpci).imp_error fun _ _ he => he.2.1) ?_
      rintro bus b ⟨-, rfl, hadd⟩
      have hb := hm.added hu hpci hfull.le hadd
      -- the adapter that was put in has room for the device
      have hbsize : b.adapterSize hba = a.adapterSize hba := by
        rw [adapterSize, adapterSize, adapterShape_congr hba hadd.config_eq]
      have hlo : m * b.adapterSize hba ≤ devices := by rw [hbsize, hfull]
      have hhi : devices < (m + 1) * b.adapterSize hba := by
        rw [hbsize, hfull, Nat.succ_mul]
        exact Nat.lt_add_of_pos_right hsize
      obtain ⟨n, hnode, hshape, -⟩ := hb.seat m (Nat.lt_succ_self m)
      rw [adapterBus_next, hm.length, ← adapterBus_congr hba hadd.family_eq]
      apply ensures_get_bind
      rw [firstScsi?_any (List.forall_mem_singleton.2 ⟨n, _, _, hnode, hshape⟩)]
      rw [← scsiPlace_congr hba hadd.family_eq hadd.config_eq]
      exact (hb.ensures_claim hlo hhi owner _).imp_error fun _ _ h => h.elim

theorem FillsLeast.after {devices : Nat} (h : a.FillsLeast hba devices) (hu : a.Undisturbed)
    (hsize : 0 < a.adapterSize hba) (owner : String) :
    let call := BusCall.automatic (owner, .scsi hba)
    (call.granted a = none ∧ a.after call = a) ∨
      (call.granted a = some ⟨owner, a.scsiPlace hba devices⟩ ∧
        (a.after call).FillsLeast hba (devices + 1)) := by
  intro call
  have hplace := ensures_some (h.ensures_placeScsi hu hsize owner)
  rw [BusAllocator.after, BusCall.granted]
  cases hout : outcome call.perform a with
  | mk r b =>
    cases r with
    | error e => exact .inl ⟨rfl, hplace.error hout⟩
    | ok placement =>
      obtain ⟨p, rfl, rfl, hb⟩ := hplace.ok hout
      exact .inr ⟨rfl, hb⟩

theorem FillsLeast.after_other {devices : Nat} (h : a.FillsLeast hba devices) (hu : a.Undisturbed)
    {device : String × BusRequest} (hne : device.2 ≠ .scsi hba) :
    (a.after (.automatic device)).FillsLeast hba devices := by
  have hspares : Spares hba a (a.after (.automatic device)) := by
    have hplace : Sparing hba _ a a := sparing_place hu device.1 device.2 hne
    rw [BusAllocator.after]
    cases hout : outcome (BusCall.automatic device).perform a with
    | mk r b =>
      cases r with
      | error e => exact hplace.error hout
      | ok placement => exact hplace.ok hout
  obtain ⟨m, hm, hleast⟩ := h
  refine ⟨m, hm.spares (hu.numbers hba) hspares, ?_⟩
  rwa [adapterSize, adapterShape_congr hba hspares.config]

end BusAllocator

section Run

variable (family : MachineFamily) (machine : String) (config : AllocatorConfig)

theorem undisturbed_automatic (devices : List (String × BusRequest)) :
    ((start family machine config).afterAll (devices.map BusCall.automatic)).Undisturbed := by
  refine undisturbed_run family machine config ?_
  rw [usbIds, List.filterMap_map, List.filterMap_eq_nil_iff]
  exact fun _ _ => rfl

/-- After any devices, those of a family of SCSI adapters have the first places of the family, on as
few adapters as they need. -/
theorem fillsLeast_run (hba : HbaFamily)
    (hsize : 0 < (start family machine config).adapterSize hba)
    (devices : List (String × BusRequest)) :
    let s := start family machine config
    ∃ count, s.placements (.scsi hba) (devices.map BusCall.automatic) =
        (List.range count).map (s.scsiPlace hba) ∧
      (s.afterAll (devices.map BusCall.automatic)).FillsLeast hba count := by
  intro s
  induction devices using List.reverseRecOn with
  | nil =>
    have hnone : s.FillsLeast hba 0 :=
      ⟨0, ⟨rfl, fun _ h => nomatch h⟩, Nat.zero_le _, fun _ _ => Nat.zero_le _⟩
    exact ⟨0, rfl, hnone⟩
  | append_singleton devices device ih =>
    obtain ⟨count, hplaces, hfills⟩ := ih
    have hu := undisturbed_automatic family machine config devices
    have hfamily := family_afterAll (.start family machine config) (devices.map BusCall.automatic)
    have hconfig := config_afterAll (.start family machine config) (devices.map BusCall.automatic)
    have hsize' : 0 < (s.afterAll (devices.map BusCall.automatic)).adapterSize hba := by
      rwa [adapterSize, adapterShape_congr hba hconfig]
    rw [List.map_append, List.map_singleton, placements_append, hplaces, afterAll_append,
      afterAll_cons, afterAll_nil, placements, placements, List.append_nil]
    by_cases hrequest : device.2 = .scsi hba
    · obtain ⟨owner, request⟩ := device
      obtain rfl : request = .scsi hba := hrequest
      have hasked : (BusCall.automatic (owner, .scsi hba)).request? = some (.scsi hba) := rfl
      rw [if_pos hasked]
      obtain ⟨hnone, hsame⟩ | ⟨hsome, hnext⟩ := hfills.after hu hsize' owner
      · refine ⟨count, ?_, hsame.symm ▸ hfills⟩
        rw [hnone]
        exact List.append_nil _
      · refine ⟨count + 1, ?_, hnext⟩
        rw [hsome, scsiPlace_congr hba hfamily hconfig, List.range_succ, List.map_append]
        rfl
    · have hother : (BusCall.automatic device).request? ≠ some (.scsi hba) :=
        fun h => hrequest (Option.some.inj h)
      refine ⟨count, ?_, hfills.after_other hu hrequest⟩
      rw [if_neg hother, List.append_nil]

/-- SCSI devices are placed in closed form. After any devices without coordinates, those of a family
of adapters with a number of targets and units are at the places that follow from their numbers: on
each adapter all targets at one unit before the next unit, and the next adapter when all are taken.
The adapters are named after their driver, and there are no more of them than are needed. -/
theorem scsiPlaces_run (hba : HbaFamily)
    (htargets : 0 < config.scsiMaxTargets.getD hba.defaultGeometry.1)
    (hluns : 0 < config.scsiMaxLuns.getD hba.defaultGeometry.2)
    (devices : List (String × BusRequest)) :
    let s := start family machine config
    let calls := devices.map BusCall.automatic
    let targets := (config.scsiMaxTargets.getD hba.defaultGeometry.1).toNat
    let size := targets * (config.scsiMaxLuns.getD hba.defaultGeometry.2).toNat
    ∃ count adapters,
      s.placements (.scsi hba) calls = (List.range count).map (fun j =>
        ⟨numbered (s.hbaStem hba) (j / size) ++ ".0",
          .scsi (UInt16.ofNat (j % size % targets)) (UInt16.ofNat (j % size / targets))⟩) ∧
      (s.afterAll calls).adapters hba = (List.range adapters).map (s.adapter hba) ∧
      IsLeast {m | count ≤ m * size} adapters := by
  intro s calls targets size
  have hsize : 0 < s.adapterSize hba :=
    Nat.mul_pos (UInt16.lt_iff_toNat_lt.1 htargets) (UInt16.lt_iff_toNat_lt.1 hluns)
  obtain ⟨count, hplaces, adapters, hfills, hleast⟩ :=
    fillsLeast_run family machine config hba hsize devices
  have hfamily : (s.afterAll calls).family = s.family := family_afterAll (.start _ _ _) calls
  have hconfig : (s.afterAll calls).config = s.config := config_afterAll (.start _ _ _) calls
  refine ⟨count, adapters, ?_, ?_, ?_⟩
  · rw [hplaces]
    refine List.map_congr_left fun j _ => ?_
    rw [hbaStem_eq]
    rfl
  · rw [(numbers_run family machine config hba calls).adapters, hfills.length,
      adapter_congr hba hfamily hconfig]
  · rwa [adapterSize, adapterShape_congr hba hconfig] at hleast

end Run

/-- The third device does not fit on an adapter for two, whatever is placed in between. -/
theorem scsiPlaces_run_two :
    let config : AllocatorConfig := ⟨true, true, some 1, some 2⟩
    let s := start .q35 "q35" config
    let calls := [("a", .scsi .lsi), ("b", .usb none), ("c", .scsi .lsi), ("d", .scsi .virtioScsi),
      ("e", .scsi .lsi)].map BusCall.automatic
    (0 < config.scsiMaxTargets.getD HbaFamily.lsi.defaultGeometry.1 ∧
      0 < config.scsiMaxLuns.getD HbaFamily.lsi.defaultGeometry.2) ∧
      s.placements (.scsi .lsi) calls = [⟨"lsi53c895a0.0", .scsi 0 0⟩,
        ⟨"lsi53c895a0.0", .scsi 0 1⟩, ⟨"lsi53c895a1.0", .scsi 0 0⟩] ∧
      (s.afterAll calls).adapters .lsi = [s.adapter .lsi 0, s.adapter .lsi 1] := by
  intro config s calls
  refine ⟨by decide, ?_⟩
  obtain ⟨count, adapters, hplaces, hadapters, hleast⟩ :=
    scsiPlaces_run .q35 "q35" config .lsi (by decide) (by decide)
      [("a", .scsi .lsi), ("b", .usb none), ("c", .scsi .lsi), ("d", .scsi .virtioScsi),
        ("e", .scsi .lsi)]
  have hlength : (s.placements (.scsi .lsi) calls).length = 3 := by decide +kernel
  obtain rfl : count = 3 := by
    rw [← hlength, hplaces, List.length_map, List.length_range]
  obtain rfl : adapters = 2 := by
    have henough : 3 ≤ adapters * 2 := hleast.1
    have hle : adapters ≤ 2 := hleast.2 (by decide : 3 ≤ 2 * 2)
    omega
  exact ⟨hplaces.trans (by decide +kernel), hadapters⟩

end GuestSpec
