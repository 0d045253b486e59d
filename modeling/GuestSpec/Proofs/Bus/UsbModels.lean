import GuestSpec.Proofs.Bus.Hints

/-!
# Models of USB controllers

A USB device may ask for a controller of a certain model. Which controllers there are of a model is
listed beside the controllers themselves, and the two lists agree. A device that names no bus goes
on a controller of the model it asks for; one that names a bus goes on that bus, of whatever model
its controller is.
-/

namespace GuestSpec

open Alloc BusAllocator

def Controller.IsUsb (text : String) (d : Controller) : Prop :=
  ∃ model, d.kind = .usb model ∧ Text.occurs text model = true

namespace BusAllocator

/-- Whether a placement on a bus of this name is on a bus of a USB controller of a model whose name
contains a text. -/
def OnUsbModel (a : BusAllocator) (text : String) (bus : BusId) : Prop :=
  ∃ n, a.node? bus = some n ∧ n.bus.kind = .usb ∧
    ∃ d ∈ a.controllers, d.Provides n.bus ∧ d.IsUsb text

/-- Whether some USB controller of a model whose name contains a text has a bus of this name. -/
def HasUsbModel (a : BusAllocator) (text : String) (bus : BusId) : Prop :=
  ∃ d ∈ a.controllers, bus ∈ d.buses ∧ d.IsUsb text

def ReachesUsb (a : BusAllocator) (bus : BusId) : Prop :=
  ∃ n, a.node? bus = some n ∧ n.bus.kind = .usb

/-- The USB buses that are listed are those of the USB controllers, each under the model of its
controller, and the name of a USB bus tells its controller. -/
structure ModelsListed (a : BusAllocator) : Prop where
  listed : ∀ u ∈ a.usb, ∃ d ∈ a.controllers, u.2 ∈ d.buses ∧ d.kind = .usb u.1
  buses : ∀ d ∈ a.controllers, ∀ model, d.kind = .usb model → d.buses = [d.id ++ ".0"]
  nodes : ∀ n ∈ a.buses, n.bus.kind = .usb →
    ∃ id, n.bus.controller = some id ∧ n.bus.id = id ++ ".0"

namespace ModelsListed

variable {a b : BusAllocator} {part : Part} {bus : BusId} {text : String}

theorem start (family : MachineFamily) (machine : String) (config : AllocatorConfig) :
    (BusAllocator.start family machine config).ModelsListed where
  listed _ h := nomatch h
  buses _ h := nomatch h
  nodes := by
    have hkind : ∀ family, ∀ n ∈ builtInBuses family, n.bus.kind ≠ .usb := by
      decide
    exact fun n hn husb => absurd husb (hkind family n hn)

theorem granted {ask : Option Placement} {owner : String} {p : Placement} (h : a.ModelsListed)
    (hg : Granted ask a owner p b) : b.ModelsListed := by
  obtain ⟨n, hn, -, -, -, rfl⟩ := hg
  refine ⟨h.listed, h.buses, fun m hm => ?_⟩
  obtain hm | ⟨k, hk, rfl⟩ := mem_updateFirst hm
  · exact h.nodes m hm
  · exact h.nodes k (mem_of_node? hk)

theorem install {placement : Option Placement} (h : a.ModelsListed) :
    (part.install a placement).ModelsListed where
  listed := by
    rw [Part.controllers_install]
    have hold : ∀ u ∈ a.usb, ∃ d ∈ a.controllers ++ [part.controller a placement],
        u.2 ∈ d.buses ∧ d.kind = .usb u.1 := by
      intro u hu
      obtain ⟨d, hd, hbus⟩ := h.listed u hu
      exact ⟨d, List.mem_append_left _ hd, hbus⟩
    cases part with
    | usb id model ports ask =>
      intro u hu
      obtain hu | hu := List.mem_append.1 hu
      · exact hold u hu
      · obtain rfl := List.mem_singleton.1 hu
        exact ⟨_, List.mem_append_right _ List.mem_cons_self, List.mem_cons_self, rfl⟩
    | _ => exact hold
  buses := by
    rw [Part.controllers_install]
    intro d hd model hkind
    obtain hd | hd := List.mem_append.1 hd
    · exact h.buses d hd model hkind
    · obtain rfl := List.mem_singleton.1 hd
      cases part with
      | usb => rfl
      | _ => cases hkind
  nodes := by
    rw [Part.buses_install]
    intro n hn hkind
    obtain hn | hn := List.mem_append.1 hn
    · exact h.nodes n hn hkind
    · obtain ⟨new, hnew, rfl⟩ := List.mem_map.1 hn
      cases part with
      | ahci =>
        obtain ⟨id, -, rfl⟩ := List.mem_map.1 hnew
        cases hkind
      | usb id =>
        obtain rfl := List.mem_singleton.1 hnew
        exact ⟨id, rfl, rfl⟩
      | _ =>
        obtain rfl := List.mem_singleton.1 hnew
        cases hkind

theorem inserted (h : a.ModelsListed) (hi : Inserted part a b) : b.ModelsListed := by
  obtain ⟨placement, c, hs, rfl⟩ := hi
  exact (hs.preserves h.granted h).install

theorem hasUsbModel (h : a.ModelsListed) (hbus : bus ∈ a.busesFor (.usb (some text))) :
    a.HasUsbModel text bus := by
  obtain ⟨u, hu, rfl⟩ := List.mem_map.1 hbus
  obtain ⟨hu, htext⟩ := List.mem_filter.1 hu
  obtain ⟨d, hd, hmem, hkind⟩ := h.listed u hu
  exact ⟨d, hd, hmem, u.1, hkind, htext⟩

/-- A placement is on a controller of a model as soon as its bus is a USB bus with the name of the
bus of such a controller. -/
theorem onUsbModel_iff (h : a.ModelsListed) :
    a.OnUsbModel text bus ↔ a.ReachesUsb bus ∧ a.HasUsbModel text bus := by
  constructor
  · rintro ⟨n, hn, hkind, d, hd, hprovides, husb⟩
    exact ⟨⟨n, hn, hkind⟩, d, hd, id_of_node? hn ▸ hprovides.2, husb⟩
  · rintro ⟨⟨n, hn, hkind⟩, d, hd, hmem, husb⟩
    obtain ⟨id, hid, hname⟩ := h.nodes n (mem_of_node? hn) hkind
    have ⟨model, hmodel, _⟩ := husb
    have hd0 : bus = d.id ++ ".0" := by
      rw [h.buses d hd model hmodel] at hmem
      exact List.mem_singleton.1 hmem
    have hids : id = d.id :=
      (String.append_left_inj ".0").1 (hname.symm.trans ((id_of_node? hn).trans hd0))
    refine ⟨n, hn, hkind, d, hd, ⟨hid.trans (congrArg some hids), ?_⟩, husb⟩
    rw [id_of_node? hn]
    exact hmem

end ModelsListed

end BusAllocator

theorem modelsListed_run (family : MachineFamily) (machine : String) (config : AllocatorConfig)
    (calls : List BusCall) : ((start family machine config).afterAll calls).ModelsListed :=
  run_induction (I := ModelsListed) (fun _ _ _ _ _ hg h => h.granted hg)
    (fun _ _ _ _ hi h => h.inserted hi) (.start family machine config)
    (.start family machine config) calls

section Run

variable (family : MachineFamily) (machine : String) (config : AllocatorConfig)

/-- The kind of controller that a USB device asks for. After any calls, a device that asks for a
model and gets a place is on a controller of such a model exactly when its bus is a USB bus, as it
always is unless a caller used the id of another bus again, and the bus that its hint names, if any,
has a controller of such a model. The named bus is taken whatever model its controller is. -/
theorem onUsbModel_iff_named (calls : List BusCall) (owner text : String) (hint : PlacementHint)
    {p : Placement} {b : BusAllocator}
    (h : outcome (place owner (.usb (some text)) hint)
      ((start family machine config).afterAll calls) = (.ok (some p), b)) :
    (∀ bus, hint.usbBus = some bus → p.bus = bus) ∧
      (b.OnUsbModel text p.bus ↔
        b.ReachesUsb p.bus ∧ ∀ bus, hint.usbBus = some bus → b.HasUsbModel text bus) := by
  have hb : b.ModelsListed := by
    have hafter := modelsListed_run family machine config
      (calls ++ [.place owner (.usb (some text)) hint])
    rw [afterAll_append, afterAll_cons, afterAll_nil, BusAllocator.after] at hafter
    rwa [show BusCall.perform _ = place owner (.usb (some text)) hint from rfl, h] at hafter
  obtain ⟨q, hq, -, ⟨hnamed, -⟩, hlisted⟩ :=
    (ensures_some (gives_placeUsb owner (some text))).ok h
  obtain rfl := Option.some.inj hq
  refine ⟨hnamed, ?_⟩
  rw [hb.onUsbModel_iff]
  refine and_congr_right fun _ => ?_
  constructor
  · intro hmodel bus hbus
    rwa [← hnamed bus hbus]
  · intro hmodel
    cases hbus : hint.usbBus with
    | none => exact hb.hasUsbModel (hlisted hbus)
    | some bus =>
      rw [hnamed bus hbus]
      exact hmodel bus hbus

end Run

/-- A device that asks for a model and names no bus passes over a controller of another model. -/
theorem onUsbModel_xhci :
    let calls := [BusCall.addUsb "old" "usb-ehci" 6 .empty, .addUsb "new" "qemu-xhci" 4 .empty]
    let a := (start .q35 "q35" ⟨true, true, none, none⟩).afterAll calls
    let p : Placement := ⟨"new.0", .port 1⟩
    let b := (outcome (place "tablet" (.usb (some "xhci")) .empty) a).2
    outcome (place "tablet" (.usb (some "xhci")) .empty) a = (.ok (some p), b) ∧
      b.OnUsbModel "xhci" p.bus := by
  intro calls a p b
  have hplace : (outcome (place "tablet" (.usb (some "xhci")) .empty) a).1 = .ok (some p) := by
    decide +kernel
  have hkind : (b.node? p.bus).map (·.bus.kind) = some .usb := by
    decide +kernel
  have h : outcome (place "tablet" (.usb (some "xhci")) .empty) a = (.ok (some p), b) :=
    Prod.ext hplace rfl
  refine ⟨h, ?_⟩
  have hmodel := (onUsbModel_iff_named .q35 "q35" ⟨true, true, none, none⟩ calls "tablet" "xhci"
    .empty h).2
  rw [hmodel]
  obtain ⟨n, hn, hkind⟩ := Option.map_eq_some_iff.1 hkind
  exact ⟨⟨n, hn, hkind⟩, nofun⟩

/-- A device that names a bus goes there although the controller is not of the model it asks for. -/
theorem not_onUsbModel_of_named :
    let a := (start .i440fx "pc" ⟨false, false, none, none⟩).after
      (.addUsb "x" "qemu-xhci" 4 .empty)
    let hint := { PlacementHint.empty with usbBus := some "x.0" }
    let p : Placement := ⟨"x.0", .port 1⟩
    let b := (outcome (place "tablet" (.usb (some "ehci")) hint) a).2
    outcome (place "tablet" (.usb (some "ehci")) hint) a = (.ok (some p), b) ∧
      ¬b.OnUsbModel "ehci" p.bus := by
  intro a hint p b
  have hplace : (outcome (place "tablet" (.usb (some "ehci")) hint) a).1 = .ok (some p) := by
    decide +kernel
  have hkinds : b.controllers.map Controller.kind = [.usb "qemu-xhci"] := by
    decide +kernel
  refine ⟨Prod.ext hplace rfl, ?_⟩
  rintro ⟨n, -, -, d, hd, -, model, hkind, htext⟩
  have hmem : d.kind ∈ b.controllers.map Controller.kind := List.mem_map_of_mem hd
  rw [hkinds, hkind] at hmem
  obtain rfl := ControllerKind.usb.inj (List.mem_singleton.1 hmem)
  exact absurd htext (by decide)

end GuestSpec
