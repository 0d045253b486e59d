import GuestSpec.Proofs.Bus.Run

/-!
# The layout of buses

What is published about a bus agrees with what can be taken on it, every bus behind a controller has
its controller on record, and a controller is recorded after the one that provides its seat.
-/

namespace GuestSpec

open Alloc BusAllocator

def Controller.Provides (d : Controller) (b : Bus) : Prop :=
  b.controller = some d.id ∧ b.id ∈ d.buses

/-- Whether a coordinate is of the kind of a bus and lies in its address space. The address space of
a SCSI bus is the geometry of its adapter. -/
def Bus.Accepts (controllers : List Controller) (b : Bus) : Coordinate → Prop
  | .pci addr => b.kind.isPci = true ∧ addr.slot.val < b.capacity.toNat
  | .ccw devno => b.kind = .ccw ∧ devno ≤ 0xFFFE
  | .mmio transport => b.kind = .virtioMmio ∧ transport.toNat < b.capacity.toNat
  | .scsi target lun => b.kind = .scsi ∧ ∃ d ∈ controllers, d.Provides b ∧
      ∃ family targets luns, d.kind = .scsiHba family targets luns ∧ target < targets ∧ lun < luns
  | .unit n => (b.kind = .ide ∨ b.kind = .floppy ∨ b.kind = .isaSerial) ∧
      n.toNat < b.capacity.toNat
  | .port n => (b.kind = .usb ∨ b.kind = .virtioSerial) ∧ 1 ≤ n.toNat ∧
      n.toNat ≤ b.capacity.toNat

def BusKind.fits : BusKind → Shape → Bool
  | kind, .pci _ => kind.isPci
  | .ccw, .ccw | .virtioMmio, .mmio _ | .scsi, .scsi _ _ | .ide, .units _ | .floppy, .units _
  | .isaSerial, .units _ | .usb, .ports _ | .virtioSerial, .ports _ => true
  | _, _ => false

namespace BusKind

variable {kind : BusKind}

@[simp] theorem fits_pci {slots : Fin 33} : kind.fits (.pci slots) = kind.isPci := by
  cases kind <;> rfl

@[simp] theorem fits_ccw : kind.fits .ccw = true ↔ kind = .ccw := by
  cases kind <;> decide

@[simp] theorem fits_mmio {n : UInt8} : kind.fits (.mmio n) = true ↔ kind = .virtioMmio := by
  cases kind <;> simp [fits]

@[simp] theorem fits_units {n : UInt8} :
    kind.fits (.units n) = true ↔ kind = .ide ∨ kind = .floppy ∨ kind = .isaSerial := by
  cases kind <;> simp [fits]

@[simp] theorem fits_ports {n : UInt8} :
    kind.fits (.ports n) = true ↔ kind = .usb ∨ kind = .virtioSerial := by
  cases kind <;> simp [fits]

@[simp] theorem fits_scsi {targets luns : UInt16} :
    kind.fits (.scsi targets luns) = true ↔ kind = .scsi := by
  cases kind <;> simp [fits]

end BusKind

/-- What is published about a bus agrees with its shape. A SCSI bus has the geometry of the adapter
that provides it. -/
structure BusNode.Published (controllers : List Controller) (n : BusNode) : Prop where
  fits : n.bus.kind.fits n.shape = true
  capacity : n.bus.capacity = n.shape.capacity
  scsi : ∀ targets luns, n.shape = .scsi targets luns →
    ∃ d ∈ controllers, d.Provides n.bus ∧ ∃ family, d.kind = .scsiHba family targets luns

namespace BusNode.Published

variable {controllers more : List Controller} {n : BusNode} {c : Coordinate}

theorem mono (h : n.Published controllers) (hsub : controllers ⊆ more) : n.Published more where
  fits := h.fits
  capacity := h.capacity
  scsi targets luns hshape := by
    obtain ⟨d, hd, hp⟩ := h.scsi targets luns hshape
    exact ⟨d, hsub hd, hp⟩

theorem accepts (h : n.Published controllers) (hc : n.shape.contains c = true) :
    n.bus.Accepts controllers c := by
  obtain ⟨hfits, hcapacity, hscsi⟩ := h
  -- each shape has coordinates of one form only
  cases hs : n.shape with
  | pci slots =>
    rw [hs, BusKind.fits_pci] at hfits
    rw [hs] at hc hcapacity
    cases c with
    | pci addr =>
      have hslot : addr.slot.val < slots.val := by simpa [Shape.contains] using hc
      refine ⟨hfits, ?_⟩
      rw [hcapacity, Shape.capacity, UInt32.toNat_ofNat', Nat.mod_eq_of_lt (by omega)]
      exact hslot
    | _ => cases hc
  | ccw =>
    rw [hs, BusKind.fits_ccw] at hfits
    rw [hs] at hc
    cases c with
    | ccw devno => exact ⟨hfits, by simpa [Shape.contains] using hc⟩
    | _ => cases hc
  | mmio transports =>
    rw [hs, BusKind.fits_mmio] at hfits
    rw [hs] at hc hcapacity
    cases c with
    | mmio transport =>
      refine ⟨hfits, ?_⟩
      rw [hcapacity, Shape.capacity, UInt8.toNat_toUInt32]
      exact UInt8.lt_iff_toNat_lt.1 (by simpa [Shape.contains] using hc)
    | _ => cases hc
  | units count =>
    rw [hs, BusKind.fits_units] at hfits
    rw [hs] at hc hcapacity
    cases c with
    | unit number =>
      refine ⟨hfits, ?_⟩
      rw [hcapacity, Shape.capacity, UInt8.toNat_toUInt32]
      exact UInt8.lt_iff_toNat_lt.1 (by simpa [Shape.contains] using hc)
    | _ => cases hc
  | ports count =>
    rw [hs, BusKind.fits_ports] at hfits
    rw [hs] at hc hcapacity
    cases c with
    | port number =>
      have hrange : 1 ≤ number ∧ number ≤ count := by simpa [Shape.contains] using hc
      refine ⟨hfits, UInt8.le_iff_toNat_le.1 hrange.1, ?_⟩
      rw [hcapacity, Shape.capacity, UInt8.toNat_toUInt32]
      exact UInt8.le_iff_toNat_le.1 hrange.2
    | _ => cases hc
  | scsi targets luns =>
    rw [hs, BusKind.fits_scsi] at hfits
    rw [hs] at hc
    obtain ⟨d, hd, hp, family, hkind⟩ := hscsi targets luns hs
    cases c with
    | scsi target lun =>
      have hrange : target < targets ∧ lun < luns := by simpa [Shape.contains] using hc
      exact ⟨hfits, d, hd, hp, family, targets, luns, hkind, hrange⟩
    | _ => cases hc

end BusNode.Published

/-! ## Parts -/

namespace Part

variable {a : BusAllocator} {part : Part} {placement : Option Placement} {n : BusNode}

theorem provides_of_mem_nodes (hn : n ∈ part.nodes a) :
    (part.controller a placement).Provides n.bus := by
  obtain ⟨b, hb, rfl⟩ := List.mem_map.1 hn
  exact ⟨rfl, List.mem_map_of_mem hb⟩

theorem published_of_mem_nodes (hn : n ∈ part.nodes a) :
    n.Published (a.controllers ++ [part.controller a placement]) := by
  have hp : (part.controller a placement).Provides n.bus := provides_of_mem_nodes hn
  obtain ⟨b, hb, rfl⟩ := List.mem_map.1 hn
  refine ⟨?_, rfl, fun targets luns hshape => ?_⟩
  · cases part with
    | ahci =>
      obtain ⟨id, -, rfl⟩ := List.mem_map.1 hb
      rfl
    | _ =>
      obtain rfl := List.mem_singleton.1 hb
      rfl
  · refine ⟨_, List.mem_append_right _ List.mem_cons_self, hp, ?_⟩
    cases part with
    | ahci =>
      obtain ⟨id, -, rfl⟩ := List.mem_map.1 hb
      cases hshape
    | hba family =>
      obtain rfl := List.mem_singleton.1 hb
      obtain ⟨rfl, rfl⟩ := Shape.scsi.inj hshape
      exact ⟨family, rfl⟩
    | _ =>
      obtain rfl := List.mem_singleton.1 hb
      cases hshape

theorem inside_of_mem_nodes (hn : n ∈ part.nodes a) {c : Claim} (hc : c ∈ n.taken) :
    n.shape.contains c.coordinate = true := by
  obtain ⟨b, hb, rfl⟩ := List.mem_map.1 hn
  cases part with
  | pcieBridge | pciBridge =>
    obtain rfl := List.mem_singleton.1 hb
    obtain rfl := List.mem_singleton.1 hc
    rfl
  | ahci =>
    obtain ⟨id, -, rfl⟩ := List.mem_map.1 hb
    cases hc
  | _ =>
    obtain rfl := List.mem_singleton.1 hb
    cases hc

end Part

/-! ## All buses -/

/-- A bus that is built in, or provided by one of some controllers. -/
def Bus.ProvidedBy (controllers : List Controller) (b : Bus) : Prop :=
  b.controller = none ∨ ∃ d ∈ controllers, d.Provides b

theorem Bus.ProvidedBy.mono {controllers more : List Controller} {b : Bus}
    (h : b.ProvidedBy controllers) (hsub : controllers ⊆ more) : b.ProvidedBy more :=
  h.imp (fun h => h) fun ⟨d, hd, hp⟩ => ⟨d, hsub hd, hp⟩

/-- What is published about the buses is true, everything that is taken lies on its bus, and the
seat of every controller is on a bus that was there before it. -/
structure BusAllocator.LaidOut (a : BusAllocator) : Prop where
  published : ∀ n ∈ a.buses, n.Published a.controllers
  inside : ∀ n ∈ a.buses, ∀ c ∈ n.taken, n.shape.contains c.coordinate = true
  provided : ∀ n ∈ a.buses, n.bus.ProvidedBy a.controllers
  ordered : ∀ pre d post, a.controllers = pre ++ d :: post → ∀ p, d.placement = some p →
    ∃ n, a.node? p.bus = some n ∧ n.bus.ProvidedBy pre

namespace BusAllocator.LaidOut

variable {a b : BusAllocator} {part : Part}

theorem start (family : MachineFamily) (machine : String) (config : AllocatorConfig) :
    (BusAllocator.start family machine config).LaidOut where
  published := by
    change ∀ n ∈ builtInBuses family, n.Published []
    have hbuiltIn : ∀ family, ∀ n ∈ builtInBuses family, n.bus.kind.fits n.shape = true ∧
        n.bus.capacity = n.shape.capacity ∧ n.bus.kind ≠ .scsi := by
      decide
    intro n hn
    obtain ⟨hfits, hcapacity, hkind⟩ := hbuiltIn family n hn
    refine ⟨hfits, hcapacity, fun targets luns hshape => ?_⟩
    rw [hshape, BusKind.fits_scsi] at hfits
    exact absurd hfits hkind
  inside := by
    have hinside : ∀ family, ∀ n ∈ builtInBuses family, ∀ c ∈ n.taken,
        n.shape.contains c.coordinate = true := by
      decide
    exact hinside family
  provided := by
    change ∀ n ∈ builtInBuses family, n.bus.ProvidedBy []
    have hnone : ∀ family, ∀ n ∈ builtInBuses family, n.bus.controller = none := by
      decide
    exact fun n hn => .inl (hnone family n hn)
  ordered pre d post h := absurd h (by simp [BusAllocator.start])

theorem granted {ask : Option Placement} {owner : String} {p : Placement} (h : a.LaidOut)
    (hg : Granted ask a owner p b) : b.LaidOut := by
  have hgrows := Grows.granted hg
  obtain ⟨n, hn, hcontains, -, -, rfl⟩ := hg
  refine ⟨?_, ?_, ?_, ?_⟩
  · intro m hm
    obtain hm | ⟨k, hk, rfl⟩ := mem_updateFirst hm
    · exact h.published m hm
    · obtain ⟨hfits, hcapacity, hscsi⟩ := h.published k (mem_of_node? hk)
      exact ⟨hfits, hcapacity, hscsi⟩
  · intro m hm
    obtain hm | ⟨k, hk, rfl⟩ := mem_updateFirst hm
    · exact h.inside m hm
    · obtain rfl : n = k := Option.some.inj (hn.symm.trans hk)
      intro c hc
      rw [BusNode.taken_claim, List.mem_append, List.mem_singleton] at hc
      obtain hc | rfl := hc
      · exact h.inside n (mem_of_node? hn) c hc
      · exact hcontains
  · intro m hm
    obtain hm | ⟨k, hk, rfl⟩ := mem_updateFirst hm
    · exact h.provided m hm
    · exact h.provided k (mem_of_node? hk)
  · intro pre d post hsplit q hq
    obtain ⟨k, hk, hp⟩ := h.ordered pre d post hsplit q hq
    obtain ⟨m, hm, hbus, -⟩ := hgrows _ k hk
    exact ⟨m, hm, hbus ▸ hp⟩

theorem seated {placement : Option Placement} (h : a.LaidOut) (hs : Seated part a placement b) :
    b.LaidOut :=
  hs.preserves h.granted h

theorem install {placement : Option Placement} (h : a.LaidOut)
    (hseat : ∀ p, placement = some p → ∃ n, a.node? p.bus = some n) :
    (part.install a placement).LaidOut where
  published := by
    rw [Part.buses_install, Part.controllers_install]
    intro n hn
    obtain hn | hn := List.mem_append.1 hn
    · exact (h.published n hn).mono (List.subset_append_left _ _)
    · exact Part.published_of_mem_nodes hn
  inside := by
    rw [Part.buses_install]
    intro n hn c hc
    obtain hn | hn := List.mem_append.1 hn
    · exact h.inside n hn c hc
    · exact Part.inside_of_mem_nodes hn hc
  provided := by
    rw [Part.buses_install, Part.controllers_install]
    intro n hn
    obtain hn | hn := List.mem_append.1 hn
    · exact (h.provided n hn).mono (List.subset_append_left _ _)
    · exact .inr ⟨_, List.mem_append_right _ List.mem_cons_self, Part.provides_of_mem_nodes hn⟩
  ordered := by
    rw [Part.controllers_install]
    intro pre d post hsplit p hp
    have hgrows : Grows a (part.install a placement) := Grows.install placement
    obtain rfl | ⟨rest, last, rfl⟩ := List.eq_nil_or_concat post
    · -- the controller of this part: its seat is on a bus of one that is on record
      obtain ⟨rfl, hlast⟩ := List.append_inj' hsplit rfl
      obtain rfl := List.singleton_inj.1 hlast
      obtain ⟨n, hn⟩ := hseat p hp
      obtain ⟨m, hm, hbus, -⟩ := hgrows _ n hn
      exact ⟨m, hm, hbus ▸ h.provided n (mem_of_node? hn)⟩
    · have hsplit : a.controllers ++ [part.controller a placement] =
          (pre ++ d :: rest) ++ [last] := by simpa using hsplit
      obtain ⟨hold, -⟩ := List.append_inj' hsplit rfl
      obtain ⟨n, hn, hprovided⟩ := h.ordered pre d rest hold p hp
      obtain ⟨m, hm, hbus, -⟩ := hgrows _ n hn
      exact ⟨m, hm, hbus ▸ hprovided⟩

theorem inserted (h : a.LaidOut) (hi : Inserted part a b) : b.LaidOut := by
  obtain ⟨placement, c, hs, rfl⟩ := hi
  refine (h.seated hs).install fun p hp => ?_
  obtain ⟨-, rfl, -⟩ | ⟨q, rfl, hg⟩ := hs.eq_or_granted
  · cases hp
  · obtain rfl := Option.some.inj hp
    obtain ⟨n, hn, -⟩ := hg
    obtain ⟨m, hm, -⟩ := Grows.seated hs _ n hn
    exact ⟨m, hm⟩

theorem afterAll (h : a.LaidOut) (ha : a.Grounded) (calls : List BusCall) :
    (a.afterAll calls).LaidOut :=
  run_induction (I := LaidOut) (fun _ _ _ _ _ hg h => h.granted hg)
    (fun _ _ _ _ hi h => h.inserted hi) ha h calls

end BusAllocator.LaidOut

theorem laidOut_run (family : MachineFamily) (machine : String) (config : AllocatorConfig)
    (calls : List BusCall) : ((start family machine config).afterAll calls).LaidOut :=
  (LaidOut.start family machine config).afterAll (.start family machine config) calls

end GuestSpec
