import GuestSpec.Proofs.Device.Queues

/-!
# Overflow in the devices of a guest

The only number that a plan of devices works out is that of the vectors of a network card, which
leaves its 32 bits when a virtio card asks for too many pairs of queues. All other families take the
numbers that are given, and they hand out no addresses.
-/

namespace GuestSpec

open Guarantee

/-- A virtio card asks for so many pairs of queues that there is no number for its vectors. -/
def Parameters.Overqueued (p : Parameters) (name : String) : Prop :=
  p.nicModel name = "virtio" ∧ ∃ q, (p.scopedTo name).uint32? "queues" = .ok (some q) ∧
    UInt32.size ≤ 2 * q.toNat + 2

/-- A card that is planned does not ask for too many. -/
theorem UnplacedNic.QueuedFor.not_overqueued {p : Parameters} {name : String} {n : UnplacedNic}
    {props : NicProps} {queues : Option UInt32} (h : n.QueuedFor p name props queues) :
    ¬ p.Overqueued name := by
  rintro ⟨hmodel, q, hq, hlarge⟩
  obtain ⟨given, hgiven, hqueues⟩ := h.asked
  obtain rfl : given = some q := Except.ok.inj (hgiven.symm.trans hq)
  have hlt : 1 < q := by
    simp only [UInt32.size] at hlarge
    rw [UInt32.lt_iff_toNat_lt]
    change 1 < q.toNat
    omega
  have hvectors := h.vectors
  have hfilter : (some q).filter (1 < ·) = some q := Option.filter_some_pos (decide_eq_true hlt)
  rw [if_pos hmodel, hqueues, hfilter] at hvectors
  obtain ⟨v, -, hv⟩ := Option.map_eq_some_iff.1 hvectors
  have hfits := v.toNat_lt_size
  dsimp only at hv
  omega

/-! ## Channels -/

namespace Leasing.Bounded

variable {H : Type} [HostResources H]

theorem tcpPort (owner : String) (explicit : Option UInt16) :
    Bounded fun l : HostLeases H => l.tcpPort owner explicit := by
  intro l h
  change l.tcpPort owner explicit = _ at h
  unfold HostLeases.tcpPort at h
  split at h
  · split at h <;> cases h
  · dsimp only at h
    split at h <;> cases h

theorem vsockCid (owner : String) (explicit : Option UInt32) :
    Bounded fun l : HostLeases H => l.vsockCid owner explicit := by
  intro l h
  change l.vsockCid owner explicit = _ at h
  unfold HostLeases.vsockCid at h
  split at h
  · split at h <;> cases h
  · dsimp only at h
    split at h <;> cases h

theorem hostEnd (owner vmName : String) (p : Parameters) :
    Bounded (Chardev.hostEnd owner vmName p : Leasing H _) := by
  refine bind (parameters _) fun server => bind (parameters _) fun wait => ?_
  split
  · exact ret _
  · exact bind (parameters _) fun explicit => bind (tcpPort owner explicit) fun port => ret _
  · exact ret _
  · exact ret _
  · exact ret _
  · exact throw nofun

end Leasing.Bounded

/-! ## Choices -/

namespace DevicePlan

section Choices

variable {m : Type → Type} (name : String) (p : Parameters) (t : Target m)

theorem nicModel_ne_overflow (model : String) : nicModel name t model ≠ .error .overflow := by
  intro h
  unfold nicModel at h
  split at h
  case h_5 => split at h <;> cases h
  all_goals cases h

theorem netdevBackend_ne_overflow (queues : Option UInt32) :
    netdevBackend name p queues ≠ .error .overflow := by
  intro h
  unfold netdevBackend at h
  split at h
  · cases h
  · cases hvhost : p.boolD "vhost" false with
    | error e =>
      rw [hvhost] at h
      cases h
    | ok vhost =>
      rw [hvhost] at h
      cases h
  · split at h <;> cases h
  · cases h

theorem size_le_of_vectors? {queues : Option UInt32} (h : vectors? queues = .error .overflow) :
    ∃ q, queues = some q ∧ UInt32.size ≤ 2 * q.toNat + 2 := by
  cases queues with
  | none => cases h
  | some q =>
    refine ⟨q, rfl, Nat.le_of_not_lt fun hlt => ?_⟩
    have hvectors : DevicePlan.vectors q = .ok (2 * q + 2) := if_pos hlt
    rw [vectors?, hvectors] at h
    cases h

theorem serialBus_ne_overflow (type : String) : serialBus name p type ≠ .error .overflow := by
  intro h
  unfold serialBus at h
  split at h <;> cases h

theorem watchdogBus_ne_overflow (model : String) : watchdogBus model ≠ .error .overflow := by
  intro h
  unfold watchdogBus at h
  split at h <;> cases h

theorem inputModel_ne_overflow (kind : String) : inputModel name p t kind ≠ .error .overflow := by
  intro h
  unfold inputModel at h
  split at h <;> cases h

theorem soundModel_ne_overflow (model : String) : soundModel model ≠ .error .overflow := by
  intro h
  unfold soundModel at h
  split at h <;> cases h

theorem displayDriver_ne_overflow : displayDriver p t ≠ .error .overflow := by
  intro h
  unfold displayDriver at h
  generalize p.getD "vga" _ = vga at h
  dsimp only at h
  split at h
  case h_5 => split at h <;> cases h
  all_goals cases h

end Choices

/-! ## Families -/

variable {m : Type → Type} [Monad m] [LawfulMonad m] {H I : Type} [Identifiers I]
  {G : Guarantee m} {t : Target m} {C : Prop}

theorem reckons_channel [HostResources H] (vmName owner : String) (p : Parameters) :
    G.Reckons H I C 0 (channel vmName owner p) :=
  reckons_leasing (.bind (.hostEnd owner vmName p) fun _ => .ret _)

variable (hG : G.Total)

include hG

theorem reckons_device (node : DeviceNode) (bus : BusRequest) (p : Parameters) :
    G.Reckons H I C 0 (device t node bus p) :=
  reckons_bind_quiet (reckons_lift (overflowsOnly_requireDevice hG t _)) fun _ =>
    reckons_bind_parameters fun _ _ => reckons_pure _

theorem reckons_ofDevice {f : UnplacedDevice → DeviceParts} (node : DeviceNode) (bus : BusRequest)
    (p : Parameters) : G.Reckons H I C 0 (do return f (← device t node bus p)) :=
  reckons_bind_quiet (reckons_device hG node bus p) fun _ => reckons_pure _

theorem reckons_serial [HostResources H] (vmName : String) (p : Parameters) (name : String) :
    G.Reckons H I C 0 (serial vmName p t name) := by
  refine reckons_bind_attempt (absurd · (serialBus_ne_overflow _ _ _)) fun (bus, portName) _ => ?_
  exact reckons_bind_quiet (reckons_channel vmName name _) fun _ => reckons_ofDevice hG _ _ _

omit hG in
theorem reckons_rngBackend [HostResources H] (vmName name : String) (p : Parameters) :
    G.Reckons H I C 0 (rngBackend vmName name p) := by
  unfold rngBackend
  split
  · exact reckons_pure _
  · exact reckons_pure _
  · exact reckons_bind_quiet (reckons_channel vmName name _) fun _ => reckons_pure _
  · exact reckons_throw nofun

theorem reckons_rng [HostResources H] (vmName : String) (p : Parameters) (name : String) :
    G.Reckons H I C 0 (rng vmName p t name) := by
  refine reckons_bind_quiet (reckons_rngBackend vmName name _) fun (kind, chardevs) => ?_
  refine reckons_bind_quiet (reckons_lift (overflowsOnly_requireObject hG t _)) fun _ => ?_
  refine reckons_bind_parameters fun maxBytes _ => reckons_bind_parameters fun period _ => ?_
  exact reckons_ofDevice hG _ _ _

omit hG in
theorem reckons_tpmBackend [HostResources H] (vmName name : String) (p : Parameters) :
    G.Reckons H I C 0 (tpmBackend vmName name p) := by
  unfold tpmBackend
  split
  · exact reckons_bind_quiet (reckons_channel vmName name _) fun _ => reckons_pure _
  · exact reckons_pure _
  · exact reckons_throw nofun

theorem reckons_tpm [HostResources H] (vmName : String) (p : Parameters) (name : String) :
    G.Reckons H I C 0 (tpm vmName p t name) := by
  refine reckons_bind_quiet (reckons_tpmBackend vmName name _) fun (kind, chardevs) => ?_
  cases defaultTpm? t.family with
  | none => exact reckons_throw nofun
  | some default => exact reckons_ofDevice hG _ _ _

theorem reckons_vsock [HostResources H] (p : Parameters) (name : String) :
    G.Reckons H I C 0 (vsock p t name) := by
  refine reckons_bind_parameters fun explicit _ => ?_
  split
  · exact reckons_throw nofun
  · refine reckons_bind_quiet (reckons_leasing (.vsockCid name explicit)) fun cid => ?_
    exact reckons_ofDevice hG _ _ _

theorem reckons_balloon (p : Parameters) (name : String) :
    G.Reckons H I C 0 (balloon p t name) :=
  reckons_bind_parameters fun _ _ => reckons_bind_parameters fun _ _ => reckons_ofDevice hG _ _ _

theorem reckons_watchdog (p : Parameters) : G.Reckons H I C 0 (watchdog p t) := by
  refine reckons_bind_parameters fun enabled _ => ?_
  split
  · split
    · exact reckons_throw nofun
    · exact reckons_bind_attempt (absurd · (watchdogBus_ne_overflow _)) fun bus _ =>
        reckons_ofDevice hG _ _ p
  · exact reckons_pure _

theorem reckons_input (p : Parameters) (name : String) :
    G.Reckons H I C 0 (input p t name) := by
  unfold input
  dsimp only
  split
  · exact reckons_bind_attempt (absurd · (inputModel_ne_overflow _ _ t _)) fun (driver, bus) _ =>
      reckons_ofDevice hG _ _ _
  · exact reckons_throw nofun

theorem reckons_soundcard (p : Parameters) (index : Nat) (model : String) :
    G.Reckons H I C 0 (soundcard p t index model) := by
  refine reckons_bind_attempt (absurd · (soundModel_ne_overflow _)) fun (driver, codec) _ => ?_
  cases codec with
  | none => exact reckons_ofDevice hG _ _ _
  | some codec =>
    exact reckons_bind_quiet (reckons_lift (overflowsOnly_requireDevice hG t _)) fun _ =>
      reckons_ofDevice hG _ _ _

theorem reckons_usbDevice (p : Parameters) (name : String) :
    G.Reckons H I C 0 (usbDevice p t name) :=
  reckons_ofDevice hG _ _ _

theorem reckons_display (p : Parameters) : G.Reckons H I C 0 (display p t) := by
  refine reckons_bind_attempt (absurd · (displayDriver_ne_overflow p t)) fun driver _ => ?_
  cases driver with
  | none => exact reckons_pure _
  | some driver => exact reckons_ofDevice hG _ _ p

omit hG in
theorem reckons_join {α : Type} {f : α → Compiling H I m DeviceParts}
    (hf : ∀ a, G.Reckons H I C 0 (f a)) (as : List α) :
    G.Reckons H I C 0 (do return DeviceParts.join (← as.mapM f)) :=
  reckons_bind_quiet (reckons_mapM fun a _ => hf a) fun _ => reckons_pure _

theorem reckons_others [HostResources H] (vmName : String) (p : Parameters) :
    G.Reckons H I C 0 (others vmName p t) := by
  refine reckons_bind_quiet (reckons_join (reckons_serial hG vmName p) _) fun serials => ?_
  refine reckons_bind_quiet (reckons_join (reckons_rng hG vmName p) _) fun rngs => ?_
  refine reckons_bind_quiet (reckons_join (reckons_tpm hG vmName p) _) fun tpms => ?_
  refine reckons_bind_quiet (reckons_join (reckons_vsock hG p) _) fun vsocks => ?_
  refine reckons_bind_quiet (reckons_join (reckons_balloon hG p) _) fun balloons => ?_
  refine reckons_bind_quiet (reckons_watchdog hG p) fun watchdog => ?_
  refine reckons_bind_quiet (reckons_join (reckons_input hG p) _) fun inputs => ?_
  refine reckons_bind_quiet (reckons_join
    (fun card : String × Nat => reckons_soundcard hG p card.2 card.1) _) fun sounds => ?_
  refine reckons_bind_quiet (reckons_join (reckons_usbDevice hG p) _) fun usbDevices => ?_
  exact reckons_bind_quiet (reckons_display hG p) fun display => reckons_pure _

theorem overflowsOnly_usbController (p : Parameters) (id : String) :
    G.OverflowsOnly C (usbController p t id) := by
  unfold usbController
  dsimp only
  split
  · exact overflowsOnly_throw nofun
  · refine overflowsOnly_bind (overflowsOnly_requireDevice hG t _) fun _ => ?_
    refine overflowsOnly_bind (overflowsOnly_parameters _) fun ports => ?_
    exact overflowsOnly_bind (overflowsOnly_parameters _) fun hint => overflowsOnly_pure _

/-! ## Network cards -/

theorem reckons_nic (p : Parameters) (name : String) :
    G.Reckons H I (p.Overqueued name) 1 (nic p t name) := by
  refine reckons_bind_attempt (absurd · (nicModel_ne_overflow _ _ _)) fun (driver, bus) _ => ?_
  refine reckons_bind_quiet (reckons_lift (overflowsOnly_requireDevice hG t driver)) fun _ => ?_
  refine reckons_bind_parameters fun given hgiven => ?_
  refine reckons_bind_attempt (absurd · (netdevBackend_ne_overflow _ _ _)) fun backend _ => ?_
  have hvectors : vectors? (if p.nicModel name = "virtio" then given.filter (1 < ·) else none) =
      .error .overflow → p.Overqueued name := by
    intro h
    obtain ⟨q, hq, hlarge⟩ := size_le_of_vectors? h
    split at hq
    · next hmodel =>
      obtain ⟨rfl, -⟩ := Option.filter_eq_some_iff.1 hq
      exact ⟨hmodel, q, hgiven, hlarge⟩
    · cases hq
  extract_lets queues netdev rest
  -- what follows the address, which is given or comes from the source
  have hrest : ∀ mac, G.Reckons H I (p.Overqueued name) 0 (rest mac) := fun mac =>
    reckons_bind_attempt hvectors fun vectors _ => reckons_bind_parameters fun extra _ =>
      reckons_bind_parameters fun request _ => reckons_pure _
  split
  · exact reckons_bind (reckons_mono (reckons_pure _) id (Nat.zero_le 1)) hrest
  · exact reckons_bind (reckons_mac _) hrest

/-- Only the vectors of a card can be too many, and there is one address for each card at most. -/
theorem reckons_build [HostResources H] (vmName : String) (p : Parameters) :
    G.Reckons H I (∃ name ∈ p.objects "nics", p.Overqueued name) (p.objects "nics").length
      (build vmName p t) := by
  have hnics : G.Reckons H I (∃ name ∈ p.objects "nics", p.Overqueued name)
      (p.objects "nics").length ((p.objects "nics").mapM (nic p t)) := by
    rw [← Nat.mul_one (p.objects "nics").length]
    exact reckons_mapM fun name hname =>
      reckons_mono (reckons_nic hG p name) (fun h => ⟨name, hname, h⟩) (Nat.le_refl 1)
  rw [build_eq]
  refine reckons_bind_quiet
    (reckons_lift (overflowsOnly_mapM (overflowsOnly_usbController hG p) _))
    fun usbControllers => ?_
  rw [← Nat.add_zero (p.objects "nics").length]
  refine reckons_bind hnics fun nics => ?_
  exact reckons_bind_quiet (reckons_others hG vmName p) fun all => reckons_pure _

end DevicePlan

end GuestSpec
