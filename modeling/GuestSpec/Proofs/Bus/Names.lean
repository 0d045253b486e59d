import GuestSpec.Proofs.Bus.Run

/-!
# Names of buses

The buses that a machine has built in and those of controllers are named by several independent
schemes. `BusName` has one constructor for each scheme; no two of them, and no two numbers of one
scheme, give the same text. A caller who adds a USB controller chooses a name freely.
-/

namespace GuestSpec

open Alloc BusAllocator

def MachineFamily.hbaStem (family : MachineFamily) : HbaFamily → String
  | .virtioScsi =>
    match family.virtioTransport with
    | .pci => "virtio_scsi_pci"
    | .ccw => "virtio_scsi_ccw"
    | .mmio => "virtio_scsi_device"
  | .lsi => "lsi53c895a"

theorem BusAllocator.hbaStem_eq (a : BusAllocator) (hba : HbaFamily) :
    a.hbaStem hba = a.family.hbaStem hba := by
  cases hba with
  | lsi =>
    change String.ofList ("lsi53c895a".toList.map fun c => if c = '-' then '_' else c) =
      "lsi53c895a"
    decide
  | virtioScsi =>
    rw [hbaStem, hbaDriver, MachineFamily.hbaStem]
    cases a.family.virtioTransport <;> rfl

/-- The name of a bus: one that is built in, one that the allocator numbers, or one that a caller
chose. -/
inductive BusName where
  | root
  | ide (n : Nat)
  | floppy
  | isa
  | rootPort (n : Nat)
  | pcieBridge
  | pciBridge (n : Nat)
  | hba (hba : HbaFamily) (n : Nat)
  | ahci (n : Nat)
  | fdc
  | virtioSerial
  | usb (id : String)
  deriving DecidableEq

namespace BusName

variable {family : MachineFamily} {x y : BusName}

def text (family : MachineFamily) : BusName → BusId
  | root => family.rootBus
  | ide n => numbered "ide." n
  | floppy => "floppy-bus.0"
  | isa => isaBus
  | rootPort n => numbered "pcie-root-port-" n
  | pcieBridge => "pcie-pci-bridge-0"
  | pciBridge n => numbered "pci-bridge-" n
  | hba h n => numbered (family.hbaStem h) n ++ ".0"
  | ahci n => numbered "ahci0." n
  | fdc => "fdc0.0"
  | virtioSerial => "virtio_serial0.0"
  | usb id => id ++ ".0"

def IsUsb : BusName → Prop
  | usb _ => True
  | _ => False

/-! ## Texts of different names are different -/

theorem numbered_inj {base : String} {n m : Nat} (h : numbered base n = numbered base m) :
    n = m := by
  have h : toString n = toString m := (String.append_right_inj base).1 h
  rw [Nat.toString_eq_ofList_toDigits, Nat.toString_eq_ofList_toDigits] at h
  have h : Nat.toDigits 10 n = Nat.toDigits 10 m := String.ofList_injective h
  rw [← Nat.ofDigitChars_ten_toDigits (n := n), h, Nat.ofDigitChars_ten_toDigits]

/-- The letters that a text begins with, up to the first digit or full stop. -/
def stem (s : String) : List Char := s.toList.takeWhile fun c => !(c.isDigit || c == '.')

theorem stem_toString_append (n : Nat) (s : String) : stem (toString n ++ s) = [] := by
  rw [stem, Nat.toString_eq_ofList_toDigits, String.toList_append, String.toList_ofList]
  cases h : Nat.toDigits 10 n with
  | nil => exact absurd h Nat.toDigits_ne_nil
  | cons c cs =>
    have hc : c.isDigit = true :=
      Nat.isDigit_of_mem_toDigits (by decide) (by decide) (h ▸ List.mem_cons_self)
    simp [hc]

theorem stem_numbered_append (base s : String) (n : Nat) :
    stem (numbered base n ++ s) = stem base := by
  have hn := stem_toString_append n s
  rw [stem] at hn
  rw [stem, numbered, String.append_assoc, String.toList_append, List.takeWhile_append, hn,
    List.append_nil]
  split
  · rename_i h
    rw [stem, (List.takeWhile_prefix _).eq_of_length h]
  · rfl

theorem stem_numbered (base : String) (n : Nat) : stem (numbered base n) = stem base := by
  rw [← stem_numbered_append base "" n, String.append_empty]

def schemes : List (List Char × BusName) :=
  [("pci".toList, root), ("pcie".toList, root), ("virtual-css".toList, root),
    ("virtio-mmio-bus".toList, root), ("ide".toList, ide 0), ("floppy-bus".toList, floppy),
    ("isa".toList, isa), ("pcie-root-port-".toList, rootPort 0),
    ("pcie-pci-bridge-".toList, pcieBridge), ("pci-bridge-".toList, pciBridge 0),
    ("virtio_scsi_pci".toList, hba .virtioScsi 0), ("virtio_scsi_ccw".toList, hba .virtioScsi 0),
    ("virtio_scsi_device".toList, hba .virtioScsi 0), ("lsi".toList, hba .lsi 0),
    ("ahci".toList, ahci 0), ("fdc".toList, fdc), ("virtio_serial".toList, virtioSerial)]

def scheme : BusName → BusName
  | ide _ => ide 0
  | rootPort _ => rootPort 0
  | pciBridge _ => pciBridge 0
  | hba h _ => hba h 0
  | ahci _ => ahci 0
  | x => x

theorem lookup_stem (hx : ¬x.IsUsb) :
    schemes.lookup (stem (x.text family)) = some x.scheme := by
  cases x with
  | root =>
    have hroot : ∀ family : MachineFamily, schemes.lookup (stem family.rootBus) = some root := by
      decide
    exact hroot family
  | ide n | rootPort n | pciBridge n | ahci n =>
    rw [text, stem_numbered]
    rfl
  | hba h n =>
    rw [text, stem_numbered_append]
    cases h with
    | lsi =>
      change schemes.lookup (stem "lsi53c895a") = some (hba .lsi 0)
      rfl
    | virtioScsi =>
      rw [MachineFamily.hbaStem]
      cases family.virtioTransport <;> rfl
  | floppy =>
    change schemes.lookup (stem "floppy-bus.0") = some floppy
    rfl
  | isa =>
    change schemes.lookup (stem isaBus) = some isa
    rfl
  | pcieBridge =>
    change schemes.lookup (stem "pcie-pci-bridge-0") = some pcieBridge
    rfl
  | fdc =>
    change schemes.lookup (stem "fdc0.0") = some fdc
    rfl
  | virtioSerial =>
    change schemes.lookup (stem "virtio_serial0.0") = some virtioSerial
    rfl
  | usb id => exact absurd trivial hx

/-- The names that nobody chooses have different texts. -/
theorem text_inj (hx : ¬x.IsUsb) (hy : ¬y.IsUsb) (h : x.text family = y.text family) : x = y := by
  -- the stem tells schemes apart, the number the names of one scheme
  have hscheme : x.scheme = y.scheme := by
    have hlookup : schemes.lookup (stem (x.text family)) = some x.scheme := lookup_stem hx
    rw [h, lookup_stem hy] at hlookup
    exact (Option.some.inj hlookup).symm
  cases x with
  | ide n | rootPort n | pciBridge n | ahci n =>
    cases y <;> first | exact congrArg _ (numbered_inj h) | cases hscheme
  | hba f n =>
    cases y with
    | hba g m =>
      obtain rfl : f = g := by simpa [scheme] using hscheme
      exact congrArg _ (numbered_inj ((String.append_left_inj ".0").1 h))
    | _ => cases hscheme
  | root | floppy | isa | pcieBridge | fdc | virtioSerial =>
    cases y <;> first | rfl | cases hscheme
  | usb id => exact absurd trivial hx

/-- The names of root ports and bridges are not of the form that a caller may choose. -/
theorem numbered_ne_append (base : String) (n : Nat) {id : String} (hbase : '.' ∉ base.toList) :
    numbered base n ≠ id ++ ".0" := by
  intro h
  -- the full stop is neither in the base nor a digit
  have hdot : '.' ∈ (numbered base n).toList := by
    rw [h, String.toList_append]
    exact List.mem_append_right _ List.mem_cons_self
  rw [numbered, String.toList_append, Nat.toString_eq_ofList_toDigits, String.toList_ofList] at hdot
  obtain hdot | hdot := List.mem_append.1 hdot
  · exact hbase hdot
  · have := Nat.isDigit_of_mem_toDigits (by decide) (by decide) hdot
    exact absurd this (by decide)

/-! ## Names that are in use -/

def builtIn : MachineFamily → List BusName
  | .i440fx => [root, ide 0, ide 1, floppy, isa]
  | .q35 => root :: (List.range 6).map ide ++ [isa]
  | .microvm => [root, isa]
  | .armVirt _ | .pseries | .s390Ccw => [root]

theorem map_text_builtIn :
    ∀ family, (builtIn family).map (text family) = (builtInBuses family).map (·.bus.id) := by
  decide

theorem nodup_ids_builtInBuses : ∀ family, ((builtInBuses family).map (·.bus.id)).Nodup := by
  decide

/-- Whether a name is in use. -/
def Issued (a : BusAllocator) : BusName → Prop
  | rootPort n => n < a.rootPorts
  | pcieBridge => a.pciePciBridge ≠ none
  | pciBridge n => n + 1 < a.pciChain.length
  | hba h n => n < (a.hbaBuses h).length ∧ (h = .lsi → a.family.hasPci = true)
  | ahci n => n < 6 ∧ a.ahciBuses ≠ [] ∧ (a.family = .i440fx ∨ a.family = .armVirt false)
  | fdc => a.floppyBus ≠ none ∧ a.family = .q35
  | virtioSerial => a.virtioSerialBus ≠ none
  | usb id => id ++ ".0" ∈ a.usb.map (·.2)
  | x => x ∈ builtIn a.family

theorem issued_of_mem_builtIn {a : BusAllocator} (h : x ∈ builtIn a.family) : x.Issued a := by
  cases x with
  | root | ide | floppy | isa => exact h
  | _ => cases hf : a.family <;> simp [hf, builtIn] at h

end BusName

open BusName (Issued)

def Part.names (a : BusAllocator) : Part → List BusName
  | rootPort => [.rootPort a.rootPorts]
  | pcieBridge => [.pcieBridge]
  | pciBridge => [.pciBridge (a.pciChain.length - 1)]
  | hba h => [.hba h (a.hbaBuses h).length]
  | ahci => (List.range 6).map .ahci
  | usb id _ _ _ => [.usb id]
  | fdc => [.fdc]
  | virtioSerial => [.virtioSerial]

namespace Part

variable {a b : BusAllocator} {part : Part} {placement : Option Placement} {x : BusName}

theorem map_text_names :
    (part.names a).map (BusName.text a.family) = (part.nodes a).map (·.bus.id) := by
  cases part with
  | hba h => exact congrArg (fun s => [numbered s _ ++ ".0"]) (a.hbaStem_eq h).symm
  | _ => rfl

theorem nodup_text_names : ((part.names a).map (BusName.text a.family)).Nodup := by
  cases part with
  | ahci =>
    rw [names, List.map_map]
    exact List.nodup_range.map fun _ _ => BusName.numbered_inj
  | _ => exact List.nodup_singleton _

/-- The bus behind a root port or a bridge has the id of the part, which ends in a number. -/
theorem exists_numbered_of_isBridge (a : BusAllocator) (hpart : part.IsBridge) :
    ∃ x base n, x ∈ part.names a ∧ ¬x.IsUsb ∧ part.id a = numbered base n ∧
      x.text a.family = numbered base n ∧ '.' ∉ base.toList := by
  cases part with
  | rootPort =>
    exact ⟨.rootPort a.rootPorts, "pcie-root-port-", a.rootPorts, List.mem_cons_self,
      fun h => h, rfl, rfl, by decide⟩
  | pcieBridge =>
    exact ⟨.pcieBridge, "pcie-pci-bridge-", 0, List.mem_cons_self, fun h => h, rfl, rfl, by decide⟩
  | pciBridge =>
    exact ⟨.pciBridge (a.pciChain.length - 1), "pci-bridge-", a.pciChain.length - 1,
      List.mem_cons_self, fun h => h, rfl, rfl, by decide⟩
  | _ => exact hpart.elim

theorem not_issued_of_mem_names (hdue : part.Due a) (hx : x ∈ part.names a) : ¬Issued a x := by
  cases part with
  | rootPort | pciBridge =>
    obtain rfl := List.mem_singleton.1 hx
    simp only [Issued]
    omega
  | hba h =>
    obtain rfl := List.mem_singleton.1 hx
    exact fun h => lt_irrefl _ h.1
  | pcieBridge =>
    obtain rfl := List.mem_singleton.1 hx
    exact fun h => h hdue.2.2
  | ahci =>
    obtain ⟨n, -, rfl⟩ := List.mem_map.1 hx
    exact fun h => h.2.1 hdue.1
  | usb =>
    obtain rfl := List.mem_singleton.1 hx
    rw [Issued, hdue.1]
    exact List.not_mem_nil
  | fdc =>
    obtain rfl := List.mem_singleton.1 hx
    exact fun h => h.1 hdue.1
  | virtioSerial =>
    obtain rfl := List.mem_singleton.1 hx
    exact fun h => h hdue

theorem hbas_install_hba {h : HbaFamily} :
    ((hba h).install a placement).hbas = a.hbas ++ [(h, (hba h).id a ++ ".0")] := rfl

theorem issued_install (h : Issued a x) : Issued (part.install a placement) x := by
  cases x with
  | rootPort n => cases part <;> first | exact h | exact Nat.lt_succ_of_lt h
  | pcieBridge => cases part <;> first | exact h | exact nofun
  | pciBridge n =>
    cases part with
    | pciBridge =>
      change n + 1 < (a.pciChain ++ [_]).length
      rw [List.length_append]
      exact Nat.lt_add_right _ h
    | _ => exact h
  | hba f n =>
    cases part with
    | hba g =>
      refine ⟨h.1.trans_le ?_, h.2⟩
      rw [hbaBuses, List.length_map, hbaBuses, List.length_map]
      exact ((List.prefix_append a.hbas _).filter _).length_le
    | _ => exact h
  | ahci n => cases part <;> first | exact h | exact ⟨h.1, List.cons_ne_nil _ _, h.2.2⟩
  | fdc => cases part <;> first | exact h | exact ⟨nofun, h.2⟩
  | virtioSerial => cases part <;> first | exact h | exact nofun
  | usb id =>
    cases part with
    | usb id' model ports ask =>
      change _ ∈ (a.usb ++ [_]).map _
      rw [List.map_append]
      exact List.mem_append_left _ h
    | _ => exact h
  | root | ide | floppy | isa =>
    change _ ∈ BusName.builtIn _
    rw [family_install]
    exact h

theorem Admitted.due (h : part.Admitted a)
    (hne : ∀ id model ports ask, part ≠ .usb id model ports ask) : part.Due a :=
  h.resolve_right fun ⟨id, model, ports, ask, he⟩ => hne id model ports ask he

theorem issued_of_mem_names (hadm : part.Admitted a) (hx : x ∈ part.names a) :
    Issued (part.install a placement) x := by
  cases part with
  | rootPort =>
    obtain rfl := List.mem_singleton.1 hx
    exact Nat.lt_succ_self _
  | pcieBridge | virtioSerial =>
    obtain rfl := List.mem_singleton.1 hx
    exact nofun
  | pciBridge =>
    obtain rfl := List.mem_singleton.1 hx
    have hlength := List.length_pos_of_ne_nil (hadm.due nofun).2.1
    change a.pciChain.length - 1 + 1 < (a.pciChain ++ [_]).length
    rw [List.length_append, List.length_singleton]
    omega
  | hba f =>
    obtain rfl := List.mem_singleton.1 hx
    refine ⟨?_, hadm.due nofun⟩
    rw [hbaBuses, hbaBuses, hbas_install_hba, List.filter_append,
      List.filter_cons_of_pos (by simp), List.map_append, List.length_append]
    exact Nat.lt_add_of_pos_right (Nat.succ_pos _)
  | ahci =>
    obtain ⟨n, hn, rfl⟩ := List.mem_map.1 hx
    exact ⟨List.mem_range.1 hn, List.cons_ne_nil _ _, (hadm.due nofun).2⟩
  | fdc =>
    obtain rfl := List.mem_singleton.1 hx
    exact ⟨nofun, (hadm.due nofun).2⟩
  | usb id model ports ask =>
    obtain rfl := List.mem_singleton.1 hx
    change id ++ ".0" ∈ (a.usb ++ [(model, id ++ ".0")]).map (·.2)
    simp

theorem eq_usb_of_mem_names {id : String} (h : .usb id ∈ part.names a) :
    ∃ model ports ask, part = .usb id model ports ask := by
  cases part with
  | usb id' model ports ask =>
    obtain rfl : id = id' := BusName.usb.inj (List.mem_singleton.1 h)
    exact ⟨model, ports, ask, rfl⟩
  | ahci => simp [names] at h
  | _ => exact nomatch List.mem_singleton.1 h

theorem issued_usb_install {id : String} (h : Issued (part.install a placement) (.usb id)) :
    Issued a (.usb id) ∨ .usb id ∈ part.names a := by
  cases part with
  | usb id' model ports ask =>
    change id ++ ".0" ∈ (a.usb ++ [(model, id' ++ ".0")]).map (·.2) at h
    rw [List.map_append, List.mem_append] at h
    refine h.imp (fun h => h) fun h => ?_
    rw [(String.append_left_inj ".0").1 (List.mem_singleton.1 h)]
    exact List.mem_singleton_self _
  | _ => exact .inl h

end Part

section Seated

variable {a b : BusAllocator} {part : Part} {placement : Option Placement} {x : BusName}

theorem Seated.issued_iff (h : Seated part a placement b) : Issued b x ↔ Issued a x := by
  rw [h.eq_with]
  cases x <;> rfl

theorem Seated.names_eq (h : Seated part a placement b) : part.names b = part.names a := by
  rw [h.eq_with]
  cases part <;> rfl

theorem Seated.admitted (h : Seated part a placement b) (hadm : part.Admitted a) :
    part.Admitted b := by
  rw [h.eq_with]
  exact hadm.imp (by cases part <;> exact id) id

end Seated

/-- Every bus has a name that is in use. -/
def BusAllocator.Named (a : BusAllocator) : Prop :=
  ∀ n ∈ a.buses, ∃ x, Issued a x ∧ n.bus.id = x.text a.family

namespace BusAllocator.Named

variable {a b : BusAllocator} {part : Part}

theorem start (family : MachineFamily) (machine : String) (config : AllocatorConfig) :
    (BusAllocator.start family machine config).Named := by
  intro n hn
  have hid : n.bus.id ∈ (BusName.builtIn family).map (BusName.text family) := by
    rw [BusName.map_text_builtIn]
    exact List.mem_map_of_mem hn
  obtain ⟨x, hx, hid⟩ := List.mem_map.1 hid
  exact ⟨x, BusName.issued_of_mem_builtIn (a := .start family machine config) hx, hid.symm⟩

theorem granted {ask : Option Placement} {owner : String} {p : Placement} (h : a.Named)
    (hg : Granted ask a owner p b) : b.Named := by
  obtain ⟨-, -, -, -, -, rfl⟩ := hg
  intro n hn
  have hbus : n.bus ∈ a.buses.map BusNode.bus := by
    rw [← map_bus_addClaim]
    exact List.mem_map_of_mem hn
  obtain ⟨m, hm, hbus⟩ := List.mem_map.1 hbus
  rw [← hbus]
  obtain ⟨x, hx, hid⟩ := h m hm
  refine ⟨x, ?_, hid⟩
  cases x <;> exact hx

theorem install (h : a.Named) (hadm : part.Admitted a) (placement : Option Placement) :
    (part.install a placement).Named := by
  intro n hn
  rw [Part.family_install]
  rw [Part.buses_install, List.mem_append] at hn
  rcases hn with hn | hn
  · obtain ⟨x, hx, hid⟩ := h n hn
    exact ⟨x, Part.issued_install hx, hid⟩
  · have hid : n.bus.id ∈ (part.names a).map (BusName.text a.family) := by
      rw [Part.map_text_names]
      exact List.mem_map_of_mem hn
    obtain ⟨x, hx, hid⟩ := List.mem_map.1 hid
    exact ⟨x, Part.issued_of_mem_names hadm hx, hid.symm⟩

/-- Only a caller can have taken the text of a name that is not in use. -/
theorem exists_usb {x : BusName} {n : BusNode} (h : a.Named) (hx : ¬Issued a x) (hu : ¬x.IsUsb)
    (hn : n ∈ a.buses) (hid : n.bus.id = x.text a.family) :
    ∃ id, Issued a (.usb id) ∧ x.text a.family = id ++ ".0" := by
  obtain ⟨y, hy, hidy⟩ := h n hn
  by_cases hyu : y.IsUsb
  · cases y with
    | usb id => exact ⟨id, hy, hid.symm.trans hidy⟩
    | _ => exact hyu.elim
  · obtain rfl : x = y := BusName.text_inj hu hyu (hid.symm.trans hidy)
    exact absurd hy hx

/-- The bus behind a root port or a bridge that the allocator inserts has an id that no bus has. -/
theorem ne_bridge (h : a.Named) (hdue : part.Due a) (hpart : part.IsBridge) {n : BusNode}
    (hn : n ∈ a.buses) : n.bus.id ≠ part.id a := by
  obtain ⟨x, base, number, hx, hu, hid, htext, hbase⟩ := Part.exists_numbered_of_isBridge a hpart
  have hnot : ¬Issued a x := Part.not_issued_of_mem_names hdue hx
  rw [hid, ← htext]
  intro heq
  obtain ⟨id, -, hchosen⟩ := h.exists_usb hnot hu hn heq
  rw [htext] at hchosen
  exact BusName.numbered_ne_append base number hbase hchosen

end BusAllocator.Named

end GuestSpec
