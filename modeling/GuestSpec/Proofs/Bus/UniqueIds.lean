import GuestSpec.Proofs.Bus.Names

/-!
# Bus ids identify buses

The allocator searches for a bus by its id and takes the first one. Its own names never clash with
each other. A caller who adds a USB controller can take a name away from the allocator, or the other
way round, since nothing checks the ids of controllers. When callers keep off the ids that the
allocator uses itself, every id belongs to one bus.
-/

namespace GuestSpec

open Alloc BusAllocator

open BusName (Issued)

/-- Whether the machine has a bus `<id>.0` built in, or the allocator may put in a controller `id`
whose first bus has this name. -/
def MachineFamily.KeepsId (family : MachineFamily) (id : String) : Prop :=
  id ++ ".0" ∈ (builtInBuses family).map (·.bus.id) ∨
    (∃ hba n, (hba = .lsi → family.hasPci = true) ∧ id = numbered (family.hbaStem hba) n) ∨
    ((family = .i440fx ∨ family = .armVirt false) ∧ id = "ahci0") ∨
    (family = .q35 ∧ id = "fdc0") ∨ id = "virtio_serial0"

namespace BusName

variable {a : BusAllocator} {x : BusName}

theorem id_of_ahci {n : Nat} {id : String} (hn : n < 6) (h : numbered "ahci0." n = id ++ ".0") :
    id = "ahci0" := by
  have hlast : (numbered "ahci0." n).toList.getLast? = some '0' := by
    rw [h, String.toList_append]
    exact List.getLast?_append_of_ne_nil _ (List.cons_ne_nil _ _)
  have hzero : ∀ n < 6, (numbered "ahci0." n).toList.getLast? = some '0' → n = 0 := by decide
  obtain rfl := hzero n hn hlast
  exact ((String.append_left_inj ".0").1 h).symm

/-- The allocator keeps the ids behind its own names to itself. -/
theorem keepsId_of_issued {id : String} (hx : Issued a x) (hu : ¬x.IsUsb)
    (h : x.text a.family = id ++ ".0") : a.family.KeepsId id := by
  cases x with
  | root | ide | floppy | isa =>
    left
    rw [← h, ← map_text_builtIn]
    exact List.mem_map_of_mem hx
  | rootPort | pciBridge => exact absurd h (numbered_ne_append _ _ (by decide))
  | pcieBridge =>
    exact absurd h (numbered_ne_append "pcie-pci-bridge-" 0 (by decide))
  | hba f n => exact .inr (.inl ⟨f, n, hx.2, ((String.append_left_inj ".0").1 h).symm⟩)
  | ahci n => exact .inr (.inr (.inl ⟨hx.2.2, id_of_ahci hx.1 h⟩))
  | fdc =>
    have hid : "fdc0" = id := (String.append_left_inj ".0").1 h
    exact .inr (.inr (.inr (.inl ⟨hx.2, hid.symm⟩)))
  | virtioSerial =>
    have hid : "virtio_serial0" = id := (String.append_left_inj ".0").1 h
    exact .inr (.inr (.inr (.inr hid.symm)))
  | usb => exact absurd trivial hu

end BusName

/-- The id of the USB controller that the allocator puts in itself is not among them. -/
theorem not_keepsId_usb0 (family : MachineFamily) : ¬family.KeepsId "usb0" := by
  rintro (h | ⟨f, n, -, h⟩ | ⟨-, h⟩ | ⟨-, h⟩ | h)
  -- no scheme has the stem "usb"
  · rw [← BusName.map_text_builtIn] at h
    obtain ⟨x, hx, h⟩ := List.mem_map.1 h
    have hstem : BusName.schemes.lookup (BusName.stem (x.text family)) = none := by
      rw [h]
      rfl
    cases x with
    | usb id => cases family <;> simp [BusName.builtIn] at hx
    | _ => cases hstem.symm.trans (BusName.lookup_stem id)
  · have hstem := congrArg BusName.stem h
    rw [BusName.stem_numbered] at hstem
    cases f with
    | lsi => exact absurd (a := BusName.stem "usb0" = BusName.stem "lsi53c895a") hstem (by decide)
    | virtioScsi =>
      rw [MachineFamily.hbaStem] at hstem
      cases h : family.virtioTransport <;> rw [h] at hstem <;> exact absurd hstem (by decide)
  · exact absurd h (by decide)
  · exact absurd h (by decide)
  · exact absurd h (by decide)

/-- Every id belongs to one bus, and callers keep off the ids that the allocator uses. -/
structure BusAllocator.Distinct (a : BusAllocator) : Prop where
  named : a.Named
  nodup : (a.buses.map (·.bus.id)).Nodup
  free : ∀ id, Issued a (.usb id) → ¬a.family.KeepsId id

namespace BusAllocator.Distinct

variable {a b : BusAllocator} {part : Part}

theorem start (family : MachineFamily) (machine : String) (config : AllocatorConfig) :
    (BusAllocator.start family machine config).Distinct where
  named := Named.start family machine config
  nodup := by
    exact BusName.nodup_ids_builtInBuses family
  free _ h := nomatch h

theorem granted {ask : Option Placement} {owner : String} {p : Placement} (h : a.Distinct)
    (hg : Granted ask a owner p b) : b.Distinct := by
  have hnamed := h.named.granted hg
  obtain ⟨-, -, -, -, -, rfl⟩ := hg
  refine ⟨hnamed, ?_, h.free⟩
  have hids : ∀ ns : List BusNode, ns.map (·.bus.id) = (ns.map BusNode.bus).map Bus.id :=
    fun ns => (List.map_map ..).symm
  rw [hids, map_bus_addClaim, ← hids]
  exact h.nodup

theorem seated {placement : Option Placement} (h : a.Distinct) (hs : Seated part a placement b) :
    b.Distinct :=
  hs.preserves h.granted h

/-- The names of a part are those of no bus, if a caller who chose its id did so with care. -/
theorem fresh (h : a.Distinct) (hadm : part.Admitted a)
    (hid : ∀ id, .usb id ∈ part.names a → ¬a.family.KeepsId id ∧ ¬Issued a (.usb id)) {x : BusName}
    (hx : x ∈ part.names a) {n : BusNode} (hn : n ∈ a.buses) : n.bus.id ≠ x.text a.family := by
  intro heq
  by_cases hu : x.IsUsb
  · cases x with
    | usb id =>
      obtain ⟨hkeeps, hissued⟩ := hid id hx
      obtain ⟨y, hy, hidy⟩ := h.named n hn
      by_cases hyu : y.IsUsb
      · cases y with
        | usb id' =>
          obtain rfl : id = id' := (String.append_left_inj ".0").1 (heq.symm.trans hidy)
          exact hissued hy
        | _ => exact hyu
      · exact hkeeps (BusName.keepsId_of_issued hy hyu (hidy.symm.trans heq))
    | _ => exact hu
  · have hdue : part.Due a := by
      apply hadm.due
      rintro id model ports ask rfl
      obtain rfl := List.mem_singleton.1 hx
      exact hu trivial
    have hnot := Part.not_issued_of_mem_names hdue hx
    obtain ⟨id, hissued, htext⟩ := h.named.exists_usb hnot hu hn heq
    -- the name is not in use yet, but it will be
    have hafter : Issued (part.install a none) x := Part.issued_of_mem_names hadm hx
    have hkeeps : (part.install a none).family.KeepsId id :=
      BusName.keepsId_of_issued hafter hu (by rwa [Part.family_install])
    rw [Part.family_install] at hkeeps
    exact h.free id hissued hkeeps

theorem install (h : a.Distinct) (hadm : part.Admitted a)
    (hid : ∀ id, .usb id ∈ part.names a → ¬a.family.KeepsId id ∧ ¬Issued a (.usb id))
    (placement : Option Placement) : (part.install a placement).Distinct where
  named := h.named.install hadm placement
  nodup := by
    rw [Part.buses_install, List.map_append, ← Part.map_text_names]
    apply h.nodup.append Part.nodup_text_names
    intro id hid' hx
    obtain ⟨n, hn, rfl⟩ := List.mem_map.1 hid'
    obtain ⟨x, hx, heq⟩ := List.mem_map.1 hx
    exact h.fresh hadm hid hx hn heq.symm
  free id hissued := by
    rw [Part.family_install]
    obtain hissued | hmem := Part.issued_usb_install hissued
    · exact h.free id hissued
    · exact (hid id hmem).1

theorem inserted (h : a.Distinct) (hadm : part.Admitted a)
    (hid : ∀ id, .usb id ∈ part.names a → ¬a.family.KeepsId id ∧ ¬Issued a (.usb id))
    (hi : Inserted part a b) : b.Distinct := by
  obtain ⟨placement, c, hs, rfl⟩ := hi
  refine (h.seated hs).install (hs.admitted hadm) ?_ placement
  intro id hmem
  rw [hs.names_eq] at hmem
  rw [hs.issued_iff, hs.eq_with]
  exact hid id hmem

/-- The allocator itself never gives two buses one id. -/
theorem insertions {S : Part → Prop} (h : a.Distinct) (hi : Insertions S a b) : b.Distinct := by
  refine hi.induction (fun part a b hdue hi h => ?_) h
  refine h.inserted (.inl hdue) ?_ hi
  intro id hmem
  refine ⟨?_, Part.not_issued_of_mem_names hdue hmem⟩
  obtain ⟨model, ports, ask, rfl⟩ := Part.eq_usb_of_mem_names hmem
  rw [hdue.2.1]
  exact not_keepsId_usb0 _

end BusAllocator.Distinct

/-! ## USB controllers that callers add -/

def BusCall.usbId? : BusCall → Option String
  | place .. => none
  | addUsb id .. => some id

def usbIds (calls : List BusCall) : List String := calls.filterMap BusCall.usbId?

def BusAllocator.UsbRecorded (a : BusAllocator) : Prop :=
  ∀ id, Issued a (.usb id) → ∃ d ∈ a.controllers, d.id = id

section Usb

variable {a b : BusAllocator} {part : Part}

theorem Insertions.issued_usb {S : Part → Prop} {id : String} (h : Insertions S a b)
    (hissued : Issued b (.usb id)) : Issued a (.usb id) ∨ id = "usb0" := by
  refine h.induction (I := fun b => Issued b (.usb id) → Issued a (.usb id) ∨ id = "usb0")
    (fun part b c hdue hi ih hissued => ?_) .inl hissued
  obtain ⟨placement, d, hs, rfl⟩ := hi
  obtain hissued | hmem := Part.issued_usb_install hissued
  · exact ih (hs.issued_iff.1 hissued)
  · obtain ⟨model, ports, ask, rfl⟩ := Part.eq_usb_of_mem_names hmem
    exact .inr hdue.2.1

theorem BusAllocator.UsbRecorded.inserted (h : a.UsbRecorded) (hi : Inserted part a b) :
    b.UsbRecorded := by
  obtain ⟨placement, c, hs, rfl⟩ := hi
  intro id hissued
  obtain hissued | hmem := Part.issued_usb_install hissued
  · obtain ⟨d, hd, hid⟩ := h id (hs.issued_iff.1 hissued)
    refine ⟨d, ?_, hid⟩
    rw [Part.controllers_install, hs.eq_with]
    exact List.mem_append_left _ hd
  · refine ⟨part.controller c placement, ?_, ?_⟩
    · rw [Part.controllers_install]
      exact List.mem_append_right _ List.mem_cons_self
    · obtain ⟨model, ports, ask, rfl⟩ := Part.eq_usb_of_mem_names hmem
      rfl

theorem BusAllocator.UsbRecorded.granted {ask : Option Placement} {owner : String} {p : Placement}
    (h : a.UsbRecorded) (hg : Granted ask a owner p b) : b.UsbRecorded := by
  obtain ⟨-, -, -, -, -, rfl⟩ := hg
  exact h

variable {call : BusCall} {grant : Option Grant}

namespace BusCall.Effect

theorem usbRecorded (h : call.Effect a b grant) (ha : a.UsbRecorded) : b.UsbRecorded :=
  h.preserves (I := UsbRecorded) (fun _ _ _ _ _ hg ha => ha.granted hg)
    (fun _ _ _ _ hi ha => ha.inserted hi) ha

/-- A USB bus comes from a caller, or it is the one that the allocator adds. -/
theorem issued_usb {id : String} (h : call.Effect a b grant) (hissued : Issued b (.usb id)) :
    (Issued a (.usb id) ∨ id = "usb0") ∨ call.usbId? = some id := by
  cases h with
  | nothing h => exact .inl (Insertions.issued_usb h hissued)
  | placed h hg =>
    obtain ⟨-, -, -, -, -, rfl⟩ := hg
    exact .inl (Insertions.issued_usb h hissued)
  | added h hi =>
    obtain ⟨placement, d, hs, rfl⟩ := hi
    obtain hissued | hmem := Part.issued_usb_install hissued
    · exact .inl (Insertions.issued_usb h (hs.issued_iff.1 hissued))
    · exact .inr (congrArg some (BusName.usb.inj (List.mem_singleton.1 hmem)).symm)

theorem distinct (h : call.Effect a b grant) (ha : a.Distinct)
    (hcaller : ∀ id, call.usbId? = some id → ¬a.family.KeepsId id ∧ ¬Issued a (.usb id)) :
    b.Distinct := by
  cases h with
  | nothing h => exact ha.insertions h
  | placed h hg => exact (ha.insertions h).granted hg
  | added h hi =>
    refine (ha.insertions h).inserted (.inr ⟨_, _, _, _, rfl⟩) ?_ hi
    intro id hmem
    obtain ⟨_, _, _, _, _, rfl⟩ := Bridges.eq_with h
    exact hcaller id (congrArg some (BusName.usb.inj (List.mem_singleton.1 hmem)).symm)

end BusCall.Effect

end Usb

section Run

variable (family : MachineFamily) (machine : String) (config : AllocatorConfig)

theorem usbRecorded_run (calls : List BusCall) :
    ((start family machine config).afterAll calls).UsbRecorded :=
  afterAll_induction (fun _ call ha h => (call.effect ha).usbRecorded h)
    (.start family machine config) (fun _ h => nomatch h) calls

theorem distinct_run (calls : List BusCall) (hdiff : (usbIds calls).Nodup)
    (hkeeps : ∀ id ∈ usbIds calls, ¬family.KeepsId id)
    (husb : ∀ pre model ports hint post, calls = pre ++ .addUsb "usb0" model ports hint :: post →
      ∀ d ∈ ((start family machine config).afterAll pre).controllers, d.id ≠ "usb0") :
    ((start family machine config).afterAll calls).Distinct ∧
      ∀ id, Issued ((start family machine config).afterAll calls) (.usb id) →
        id ∈ usbIds calls ∨ id = "usb0" := by
  -- from the last call backwards, since callers choose ids by what is there
  induction calls using List.reverseRecOn with
  | nil => exact ⟨Distinct.start family machine config, fun _ h => nomatch h⟩
  | append_singleton pre call ih =>
    have hsplit : usbIds (pre ++ [call]) = usbIds pre ++ call.usbId?.toList := by
      rw [usbIds, List.filterMap_append]
      cases h : call.usbId? <;> simp [h, usbIds]
    rw [hsplit] at hdiff hkeeps ⊢
    obtain ⟨hdistinct, hissued⟩ := ih (List.Nodup.of_append_left hdiff)
      (fun id hid => hkeeps id (List.mem_append_left _ hid)) (by
        rintro p model ports hint q rfl
        exact husb p model ports hint (q ++ [call]) (by simp))
    have heffect := call.effect (grounded_run family machine config pre)
    rw [afterAll_append]
    refine ⟨heffect.distinct hdistinct ?_, ?_⟩
    · intro id hid
      rw [hid] at hdiff hkeeps
      rw [family_afterAll (.start family machine config)]
      refine ⟨hkeeps id (List.mem_append_right _ List.mem_cons_self), fun h => ?_⟩
      obtain hmem | rfl := hissued id h
      · exact List.disjoint_of_nodup_append hdiff hmem List.mem_cons_self
      · obtain ⟨d, hd, hname⟩ := usbRecorded_run family machine config pre _ h
        cases call with
        | place => cases hid
        | addUsb id model ports hint =>
          obtain rfl : id = "usb0" := Option.some.inj hid
          exact husb pre model ports hint [] rfl d hd hname
    · intro id h
      obtain (h | rfl) | h := heffect.issued_usb h
      · exact (hissued id h).imp (List.mem_append_left _) (fun h => h)
      · exact .inr rfl
      · exact .inl (List.mem_append_right _ (by simp [h]))

/-- Bus ids identify buses: when the ids that callers give to USB controllers are pairwise
different, none is an id that the allocator keeps to itself, and "usb0" is not given once there is
a controller of this name, then the published bus ids are pairwise different, and looking for a bus
by its id always reaches it. -/
theorem nodup_busIds (calls : List BusCall) (hdiff : (usbIds calls).Nodup)
    (hkeeps : ∀ id ∈ usbIds calls, ¬family.KeepsId id)
    (husb : ∀ pre model ports hint post, calls = pre ++ .addUsb "usb0" model ports hint :: post →
      ∀ d ∈ ((start family machine config).afterAll pre).controllers, d.id ≠ "usb0") :
    (((start family machine config).afterAll calls).parts.1.map Bus.id).Nodup ∧
      ∀ n ∈ ((start family machine config).afterAll calls).buses,
        ((start family machine config).afterAll calls).node? n.bus.id = some n := by
  have hnodup := (distinct_run family machine config calls hdiff hkeeps husb).1.nodup
  refine ⟨?_, fun n hn => ?_⟩
  · rw [parts, List.map_map]
    exact hnodup
  · cases hm : ((start family machine config).afterAll calls).node? n.bus.id with
    | none => exact absurd (List.find?_eq_none.1 hm n hn) (by simp)
    | some m =>
      have hid := id_of_node? hm
      rw [List.inj_on_of_nodup_map hnodup (mem_of_node? hm) hn hid]

end Run

/-- A caller may use the id "usb0" before the allocator does. -/
theorem nodup_busIds_usb0 :
    let calls := [BusCall.addUsb "usb0" "qemu-xhci" 4 .empty, .place "keyboard" (.usb none) .empty]
    let config := ⟨true, true, none, none⟩
    (usbIds calls).Nodup ∧ (∀ id ∈ usbIds calls, ¬MachineFamily.q35.KeepsId id) ∧
      (((start .q35 "q35" config).afterAll calls).parts.1.map Bus.id).Nodup := by
  intro calls config
  have hids : usbIds calls = ["usb0"] := rfl
  have hdiff : (usbIds calls).Nodup := by
    rw [hids]
    exact List.nodup_singleton _
  have hkeeps : ∀ id ∈ usbIds calls, ¬MachineFamily.q35.KeepsId id := by
    rw [hids, List.forall_mem_singleton]
    exact not_keepsId_usb0 _
  refine ⟨hdiff, hkeeps, (nodup_busIds .q35 "q35" config calls hdiff hkeeps ?_).1⟩
  intro pre model ports hint post h
  obtain _ | ⟨first, pre⟩ := pre
  · exact fun _ h => nomatch h
  · have hmem : BusCall.addUsb "usb0" model ports hint ∈
        [BusCall.place "keyboard" (.usb none) .empty] := by
      rw [(List.cons.inj h).2]
      exact List.mem_append_right _ List.mem_cons_self
    exact nomatch List.mem_singleton.1 hmem

/-- A caller may take the name of a bus that is built in, or one that the allocator has given to a
controller of its own. -/
theorem busIds_clash :
    let config := ⟨true, true, none, none⟩
    let ide := [BusCall.addUsb "ide" "qemu-xhci" 4 .empty]
    let usb := [BusCall.place "keyboard" (.usb none) .empty, .addUsb "usb0" "qemu-xhci" 4 .empty]
    ((usbIds ide).Nodup ∧
      ¬(((start .q35 "q35" config).afterAll ide).parts.1.map Bus.id).Nodup) ∧
    (usbIds usb).Nodup ∧
      ¬(((start .q35 "q35" config).afterAll usb).parts.1.map Bus.id).Nodup := by
  decide +kernel

end GuestSpec
