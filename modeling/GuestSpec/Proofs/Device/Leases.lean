import GuestSpec.Proofs.Device.Parts
import GuestSpec.Proofs.Host.Leases
import Mathlib.Data.List.Forall2
import Mathlib.Data.List.Nodup

/-!
# Leases of devices

TCP channels lease ports, and vsock devices lease context ids. All steps of a compilation share one
record of what was leased, so what the parts of a plan hold is what was handed out on the way, and
nothing else was. `Granting` says so of a step: it is a guarantee that also speaks of what the step
hands out.
-/

namespace GuestSpec

open Guarantee

/-! ## What is held -/

def Chardev.tcpPort? (c : Chardev) : Option UInt16 :=
  match c.backend with
  | .tcpSocket _ port _ _ => some port
  | _ => none

def DeviceNode.guestCid? (d : DeviceNode) : Option UInt32 :=
  match d.props with
  | .vsock cid => some cid
  | _ => none

namespace Lease

def port? : Lease → Option UInt16
  | port n => some n
  | cid _ => none

def cid? : Lease → Option UInt32
  | port _ => none
  | cid n => some n

theorem nodup_ports {ls : List Lease} (h : ls.Nodup) : (ls.filterMap port?).Nodup :=
  h.filterMap fun a b n ha hb => by cases a <;> cases b <;> simp_all [port?]

theorem nodup_cids {ls : List Lease} (h : ls.Nodup) : (ls.filterMap cid?).Nodup :=
  h.filterMap fun a b n ha hb => by cases a <;> cases b <;> simp_all [cid?]

end Lease

/-- The context id of a vsock device is the one that its parameters give, or one that the host has
found. -/
structure Parameters.AllowsCid (p : Parameters) (name : String) (cid : UInt32) : Prop where
  low : HostLeases.firstCid ≤ cid
  chosen : (p.scopedTo name).uint32? "guest_cid" = .ok (some cid) ∨
    (p.scopedTo name).uint32? "guest_cid" = .ok none ∧ cid ≤ Host.lastCid

/-- What some parts hold is what was leased for them. Their vsock devices have the given names. -/
structure DeviceParts.Leased (p : Parameters) (names : List String) (ls : List Lease)
    (parts : DeviceParts) : Prop where
  ports : parts.chardevs.filterMap Chardev.tcpPort? = ls.filterMap Lease.port?
  cids : parts.devices.filterMap (·.node.guestCid?) = ls.filterMap Lease.cid?
  allowed : List.Forall₂ p.AllowsCid names (ls.filterMap Lease.cid?)

namespace DeviceParts.Leased

variable {p : Parameters} {a b : DeviceParts} {names names' : List String} {ls ls' : List Lease}

theorem empty : DeviceParts.empty.Leased p [] [] := ⟨rfl, rfl, .nil⟩

theorem append (ha : a.Leased p names ls) (hb : b.Leased p names' ls') :
    (a.append b).Leased p (names ++ names') (ls ++ ls') where
  ports := by
    rw [DeviceParts.append, List.filterMap_append, List.filterMap_append, ha.ports, hb.ports]
  cids := by
    rw [DeviceParts.append, List.filterMap_append, List.filterMap_append, ha.cids, hb.cids]
  allowed := by
    rw [List.filterMap_append]
    exact List.rel_append ha.allowed hb.allowed

theorem ofChannels {d : UnplacedDevice} {objects : List ObjectSpec} {chardevs : List Chardev}
    (h : DeviceParts.Leased p names ls ⟨[], [], chardevs⟩) (hd : d.node.guestCid? = none) :
    DeviceParts.Leased p names ls ⟨[d], objects, chardevs⟩ where
  ports := h.ports
  cids := by
    rw [← h.cids]
    exact List.filterMap_cons_none hd
  allowed := h.allowed

end DeviceParts.Leased

/-! ## Steps that hand something out -/

namespace HostLeases

variable {H : Type}

/-- What was handed out between two states has a property. -/
def Handed (l : HostLeases H) (Q : List Lease → Prop) (l' : HostLeases H) : Prop :=
  ∃ gs, l.HandsOut gs l' ∧ Q (gs.map Prod.fst)

variable {l l' l'' : HostLeases H} {P Q : List Lease → Prop}

theorem Handed.none (l : HostLeases H) (h : Q []) : l.Handed Q l := ⟨[], .refl l, h⟩

theorem Handed.trans (h : l.Handed P l')
    (h' : l'.Handed (fun ls' => ∀ ls, P ls → Q (ls ++ ls')) l'') : l.Handed Q l'' := by
  obtain ⟨gs, hgs, hP⟩ := h
  obtain ⟨gs', hgs', hQ⟩ := h'
  refine ⟨gs ++ gs', hgs.trans hgs', ?_⟩
  rw [List.map_append]
  exact hQ _ hP

theorem Handed.mono (h : l.Handed P l') (hPQ : ∀ ls, P ls → Q ls) : l.Handed Q l' := by
  obtain ⟨gs, hgs, hP⟩ := h
  exact ⟨gs, hgs, hPQ _ hP⟩

end HostLeases

/-- A way to say what all results of a step have in common with what the step hands out. -/
structure Granting (m : Type → Type) [Monad m] where
  Holds : {α : Type} → m α → (α → List Lease → Prop) → Prop
  ret : ∀ {α : Type} {a : α} {Q : α → List Lease → Prop}, Q a [] → Holds (pure a) Q
  bind : ∀ {α β : Type} {x : m α} {f : α → m β} {P : α → List Lease → Prop}
    {Q : β → List Lease → Prop},
    Holds x P → (∀ a, Holds (f a) fun b ls' => ∀ ls, P a ls → Q b (ls ++ ls')) → Holds (x >>= f) Q
  mono : ∀ {α : Type} {x : m α} {P Q : α → List Lease → Prop},
    Holds x P → (∀ a ls, P a ls → Q a ls) → Holds x Q

namespace Granting

variable {m : Type → Type} [Monad m] {α β H : Type}

def leases (H : Type) : Granting (Leasing H) where
  Holds x Q := ∀ l, attempt.Holds (x.run l) fun r => l.Handed (Q r.1) r.2
  ret h l := attempt.ret (.none l h)
  bind hx hf l := attempt.bind (hx l) fun r => attempt.mono (hf r.1 r.2) fun _ h' h => h.trans h'
  mono hx h l := attempt.mono (hx l) fun r hr => hr.mono (h r.1)

section Rules

variable (L : Granting m) {Q : β → List Lease → Prop}

theorem bind_quiet {x : m α} {f : α → m β} (hx : L.Holds x fun _ ls => ls = [])
    (hf : ∀ a, L.Holds (f a) Q) : L.Holds (x >>= f) Q :=
  L.bind hx fun a => L.mono (hf a) fun _ _ h => by
    rintro _ rfl
    exact h

theorem bind_pure {x : m α} {f : α → β} (hx : L.Holds x fun a ls => Q (f a) ls) :
    L.Holds (x >>= fun a => pure (f a)) Q :=
  L.bind hx fun a => L.ret fun ls h => by rwa [List.append_nil]

variable [LawfulMonad m]

theorem mapM {f : α → m β} {R : α → β → List Lease → Prop}
    {J : List α → List β → List Lease → Prop} (hf : ∀ a, L.Holds (f a) (R a)) (hnil : J [] [] [])
    (hcons : ∀ {x xs y ys ls ls'}, R x y ls → J xs ys ls' → J (x :: xs) (y :: ys) (ls ++ ls'))
    (xs : List α) : L.Holds (xs.mapM f) (J xs) := by
  induction xs with
  | nil =>
    rw [List.mapM_nil]
    exact L.ret hnil
  | cons x xs ih =>
    rw [List.mapM_cons]
    refine L.bind (hf x) fun y => L.bind ih fun ys => L.ret fun ls' hys ls hy => ?_
    rw [List.append_nil]
    exact hcons hy hys

end Rules

section Leases

variable {Q : α → List Lease → Prop}

theorem throw_leases (e : CompileError) : (leases H).Holds (throw e) Q :=
  fun _ _ h => nomatch h

theorem attempt_leases (x : Except CompileError α) :
    (leases H).Holds (liftM x) fun _ ls => ls = [] := by
  intro l r hr
  cases x with
  | error e => cases hr
  | ok a =>
    obtain rfl := Except.ok.inj hr
    exact .none l rfl

/-- The memory of a host is no resource that is handed out. -/
theorem memoryMib_leases [HostResources H] :
    (leases H).Holds (fun l => .ok l.memoryMib) fun _ ls => ls = [] := by
  rintro l _ ⟨⟩
  exact ⟨[], ⟨.refl _, id⟩, rfl⟩

end Leases

end Granting

/-- Steps that ask, may fail and may hand something out. -/
def Guarantee.granting {m : Type → Type} [Monad m] (G : Guarantee m) (H I : Type) :
    Granting (Compiling H I m) where
  Holds x Q := ∀ s, G.Holds (x.run.run s) fun r => ∀ a, r.1 = .ok a →
    s.leases.Handed (Q a) r.2.leases
  ret h s := G.ret fun a ha => .none _ (Except.ok.inj ha ▸ h)
  bind hx hf s := G.bind (hx s) fun (r, s') => by
    cases r with
    | error e => exact G.ret fun _ b hb => nomatch hb
    | ok a => exact G.mono (hf a s') fun _ h' h b hb => (h a rfl).trans (h' b hb)
  mono hx h s := G.mono (hx s) fun _ hr a ha => (hr a ha).mono (h a)

/-! ## Steps of a compilation -/

namespace Compiling

variable {m : Type → Type} [Monad m] {α β H I : Type}

theorem run_attempt (x : Except CompileError α) (s : Supply H I) :
    (liftM x : Compiling H I m α).run.run s = pure (x, s) := rfl

variable [LawfulMonad m]

theorem run_bind_ok {x : Compiling H I m α} (f : α → Compiling H I m β) {s s' : Supply H I}
    {a : α} (h : x.run.run s = pure (.ok a, s')) :
    (x >>= f).run.run s = (f a).run.run s' := by
  rw [ExceptT.run_bind, StateT.run_bind, h, pure_bind]

theorem run_bind_error {x : Compiling H I m α} (f : α → Compiling H I m β) {s s' : Supply H I}
    {e : CompileError} (h : x.run.run s = pure (.error e, s')) :
    (x >>= f).run.run s = pure (.error e, s') := by
  rw [ExceptT.run_bind, StateT.run_bind, h, pure_bind]
  rfl

theorem run_get (s : Supply H I) :
    (get : Compiling H I m (Supply H I)).run.run s = pure (.ok s, s) := by
  change (Except.ok <$> (get : StateT (Supply H I) m (Supply H I))).run s = _
  simp

theorem run_set (s s' : Supply H I) :
    (set s' : Compiling H I m PUnit).run.run s = pure (.ok ⟨⟩, s') := by
  change (Except.ok <$> (set s' : StateT (Supply H I) m PUnit)).run s = _
  simp

theorem run_leasing (x : Leasing H α) (s : Supply H I) :
    (leasing x : Compiling H I m α).run.run s = pure (match x.run s.leases with
      | .ok (a, leases) => (.ok a, { s with leases })
      | .error e => (.error e, s)) := by
  rw [leasing, run_bind_ok _ (run_get s)]
  have hrun := run_attempt (m := m) (x.run s.leases) s
  cases hx : x.run s.leases with
  | error e =>
    rw [hx] at hrun
    exact run_bind_error _ hrun
  | ok r =>
    rw [hx] at hrun
    rw [run_bind_ok _ hrun, run_bind_ok _ (run_set s _)]
    rfl

theorem run_identifier (x : StateM I α) (s : Supply H I) :
    (identifier x : Compiling H I m α).run.run s =
      pure (.ok (x.run s.ids).1, { s with ids := (x.run s.ids).2 }) := by
  rw [identifier, run_bind_ok _ (run_get s)]
  obtain ⟨a, ids⟩ := x.run s.ids
  exact run_bind_ok _ (run_set s _)

end Compiling

namespace Guarantee

variable {m : Type → Type} [Monad m] {α β H I : Type} {G : Guarantee m} {P : α → Prop}
  {Q : α → List Lease → Prop} {R : β → List Lease → Prop}

theorem granting_throw (e : CompileError) : (G.granting H I).Holds (throw e) Q :=
  fun _ => G.ret fun _ h => nomatch h

theorem granting_lift {x : Build m α} (h : G.build.Holds x P) :
    (G.granting H I).Holds (liftM x) fun _ ls => ls = [] :=
  fun s => G.bind h fun _ => G.ret fun _ _ _ => .none s.leases rfl

theorem granting_attempt (x : Except CompileError α) :
    (G.granting H I).Holds (liftM x) fun a ls => ls = [] ∧ x = .ok a :=
  fun s => G.ret fun _ ha => .none s.leases ⟨rfl, ha⟩

variable [LawfulMonad m]

theorem granting_bind_attempt {x : Except CompileError α} {f : α → Compiling H I m β}
    (h : ∀ a, x = .ok a → (G.granting H I).Holds (f a) R) :
    (G.granting H I).Holds ((liftM x : Compiling H I m α) >>= f) R := by
  intro s
  cases x with
  | error e =>
    rw [Compiling.run_bind_error f (Compiling.run_attempt _ s)]
    exact granting_throw e s
  | ok a =>
    rw [Compiling.run_bind_ok f (Compiling.run_attempt _ s)]
    exact h a rfl s

theorem granting_bind_parameters {x : Except Parameters.Error α} {f : α → Compiling H I m β}
    (h : ∀ a, x = .ok a → (G.granting H I).Holds (f a) R) :
    (G.granting H I).Holds ((liftM x : Compiling H I m α) >>= f) R := by
  change (G.granting H I).Holds
    ((liftM (CompileError.ofParameters x) : Compiling H I m α) >>= f) R
  exact granting_bind_attempt fun a ha => h a (eq_ok_of_ofParameters ha)

theorem granting_leasing {x : Leasing H α} (h : (Granting.leases H).Holds x Q) :
    (G.granting H I).Holds (Compiling.leasing x) Q := by
  intro s
  rw [Compiling.run_leasing]
  refine G.ret fun a ha => ?_
  cases hx : x.run s.leases with
  | error e =>
    rw [hx] at ha
    cases ha
  | ok r =>
    rw [hx] at ha
    obtain rfl := Except.ok.inj ha
    exact h s.leases r hx

theorem granting_identifier (x : StateM I α) :
    (G.granting H I).Holds (Compiling.identifier x) fun _ ls => ls = [] := by
  intro s
  rw [Compiling.run_identifier]
  exact G.ret fun _ _ => .none s.leases rfl

end Guarantee

open Granting

/-! ## Channels -/

namespace Chardev

variable {H : Type} [HostResources H] [LawfulHost H] (q : Parameters)

theorem leased_leasePort (owner : String) (explicit : Option UInt16) :
    (leases H).Holds (leasePort owner explicit) fun port ls => ls = [.port port] :=
  fun _ _ h => ⟨_, HostLeases.handsOut_of_tcpPort h, rfl⟩

theorem leased_hostEnd (id owner vmName : String) (p : Parameters) :
    (leases H).Holds (hostEnd owner vmName p) fun b ls =>
      DeviceParts.Leased q [] ls ⟨[], [], [⟨id, b⟩]⟩ := by
  refine (leases H).bind_quiet (attempt_leases _) fun server => ?_
  refine (leases H).bind_quiet (attempt_leases _) fun wait => ?_
  split
  · exact (leases H).ret ⟨rfl, rfl, .nil⟩
  · refine (leases H).bind_quiet (attempt_leases _) fun explicit => (leases H).bind_pure ?_
    refine (leases H).mono (leased_leasePort owner explicit) fun port ls h => ?_
    rw [h]
    exact ⟨rfl, rfl, .nil⟩
  · exact (leases H).ret ⟨rfl, rfl, .nil⟩
  · exact (leases H).ret ⟨rfl, rfl, .nil⟩
  · exact (leases H).ret ⟨rfl, rfl, .nil⟩
  · exact throw_leases _

theorem leased_build (id owner vmName : String) (p : Parameters) :
    (leases H).Holds (build id owner vmName p) fun c ls =>
      DeviceParts.Leased q [] ls ⟨[], [], [c]⟩ :=
  (leases H).bind_pure (leased_hostEnd q id owner vmName p)

end Chardev

namespace Monitor

variable {H : Type} [HostResources H] [LawfulHost H] (q : Parameters)

theorem leased_build (vmName : String) (p : Parameters) (name : String) :
    (leases H).Holds (build vmName p name) fun r ls =>
      DeviceParts.Leased q [] ls ⟨[], [], [r.2]⟩ :=
  (leases H).bind_quiet (attempt_leases _) fun _ =>
    (leases H).bind_pure (Chardev.leased_build q _ name vmName _)

theorem leased_buildAll (vmName : String) (p : Parameters) :
    (leases H).Holds (buildAll vmName p) fun rs ls =>
      DeviceParts.Leased q [] ls ⟨[], [], rs.map Prod.snd⟩ :=
  (leases H).mapM (J := fun _ rs ls => DeviceParts.Leased q [] ls ⟨[], [], rs.map Prod.snd⟩)
    (leased_build q vmName p) .empty (fun h h' => h.append h') _

end Monitor

/-! ## Devices -/

namespace DevicePlan

variable {m : Type → Type} [Monad m] [LawfulMonad m] {H I : Type} {G : Guarantee m}
  {t : Target m} {K : Findings} (q : Parameters)

theorem leased_channel [HostResources H] [LawfulHost H] (vmName owner : String) (p : Parameters) :
    (G.granting H I).Holds (channel vmName owner p) fun c ls =>
      DeviceParts.Leased q [] ls ⟨[], [], [c]⟩ :=
  granting_leasing (Chardev.leased_build q _ owner vmName p)

variable (hK : G.Finds t.oracle K)

include hK

theorem leased_device (node : DeviceNode) (bus : BusRequest) (p : Parameters) :
    (G.granting H I).Holds (device t node bus p) fun d ls => ls = [] ∧ d.node = node :=
  (G.granting H I).bind_quiet (granting_lift (holds_requireDevice hK _)) fun _ =>
    granting_bind_parameters fun _ _ => (G.granting H I).ret ⟨rfl, rfl⟩

theorem leased_withChannels {node : DeviceNode} (hnode : node.guestCid? = none) (bus : BusRequest)
    (p : Parameters) (objects : List ObjectSpec) (chardevs : List Chardev) :
    (G.granting H I).Holds (do return ⟨[← device t node bus p], objects, chardevs⟩)
      fun (parts : DeviceParts) ls' => ∀ ls, DeviceParts.Leased q [] ls ⟨[], [], chardevs⟩ →
        parts.Leased q [] (ls ++ ls') := by
  refine (G.granting H I).bind_pure ((G.granting H I).mono (leased_device hK node bus p) ?_)
  rintro d _ ⟨rfl, rfl⟩ ls hchardevs
  rw [List.append_nil]
  exact hchardevs.ofChannels hnode

theorem leased_ofDevice {node : DeviceNode} (hnode : node.guestCid? = none) (bus : BusRequest)
    (p : Parameters) :
    (G.granting H I).Holds (do return .ofDevice (← device t node bus p))
      fun (parts : DeviceParts) ls => parts.Leased q [] ls :=
  (G.granting H I).mono (leased_withChannels q hK hnode bus p [] []) fun _ _ h => h [] .empty

theorem leased_serial [HostResources H] [LawfulHost H] (vmName : String) (p : Parameters)
    (name : String) :
    (G.granting H I).Holds (serial vmName p t name) fun parts ls => parts.Leased q [] ls := by
  refine granting_bind_attempt fun (bus, portName) _ => ?_
  refine (G.granting H I).bind (leased_channel q vmName name _) fun chardev => ?_
  exact leased_withChannels q hK rfl bus _ [] [chardev]

omit hK in
theorem leased_rngBackend [HostResources H] [LawfulHost H] (vmName name : String) (p : Parameters) :
    (G.granting H I).Holds (rngBackend vmName name p) fun r ls =>
      DeviceParts.Leased q [] ls ⟨[], [], r.2⟩ := by
  unfold rngBackend
  split
  · exact (G.granting H I).ret .empty
  · exact (G.granting H I).ret .empty
  · exact (G.granting H I).bind_pure (leased_channel q vmName name _)
  · exact granting_throw _

theorem leased_rng [HostResources H] [LawfulHost H] (vmName : String) (p : Parameters)
    (name : String) :
    (G.granting H I).Holds (rng vmName p t name) fun parts ls => parts.Leased q [] ls := by
  refine (G.granting H I).bind (leased_rngBackend q vmName name _) fun (kind, chardevs) => ?_
  refine (G.granting H I).bind_quiet (granting_lift (holds_requireObject hK _)) fun _ => ?_
  refine granting_bind_parameters fun maxBytes _ => granting_bind_parameters fun period _ => ?_
  exact leased_withChannels q hK rfl _ _ _ chardevs

omit hK in
theorem leased_tpmBackend [HostResources H] [LawfulHost H] (vmName name : String) (p : Parameters) :
    (G.granting H I).Holds (tpmBackend vmName name p) fun r ls =>
      DeviceParts.Leased q [] ls ⟨[], [], r.2⟩ := by
  unfold tpmBackend
  split
  · exact (G.granting H I).bind_pure (leased_channel q vmName name _)
  · exact (G.granting H I).ret .empty
  · exact granting_throw _

theorem leased_tpm [HostResources H] [LawfulHost H] (vmName : String) (p : Parameters)
    (name : String) :
    (G.granting H I).Holds (tpm vmName p t name) fun parts ls => parts.Leased q [] ls := by
  refine (G.granting H I).bind (leased_tpmBackend q vmName name _) fun (kind, chardevs) => ?_
  cases defaultTpm? t.family with
  | none => exact granting_throw _
  | some default => exact leased_withChannels q hK rfl _ _ _ chardevs

theorem leased_vsock [HostResources H] [LawfulHost H] (p : Parameters) (name : String) :
    (G.granting H I).Holds (vsock p t name) fun parts ls => parts.Leased p [name] ls := by
  refine granting_bind_parameters fun explicit hexplicit => ?_
  cases hlow : explicit.filter (· < HostLeases.firstCid) with
  | some cid => exact granting_throw _
  | none =>
    have hlease : (leases H).Holds (fun l => l.vsockCid name explicit) fun cid ls =>
        ls = [.cid cid] ∧ p.AllowsCid name cid := by
      rintro l ⟨cid, l'⟩ h
      obtain ⟨hgiven, hcid⟩ := HostLeases.handsOut_of_vsockCid h
      refine ⟨_, hgiven, rfl, ?_⟩
      obtain rfl | ⟨rfl, hfirst, hlast⟩ := hcid
      · have hlow : HostLeases.firstCid ≤ cid := by simpa using hlow
        exact ⟨hlow, .inl hexplicit⟩
      · exact ⟨hfirst, .inr ⟨hexplicit, hlast⟩⟩
    refine (G.granting H I).bind (granting_leasing hlease) fun cid => ?_
    refine (G.granting H I).bind (leased_device hK _ _ _) fun d => (G.granting H I).ret ?_
    rintro _ ⟨rfl, hnode⟩ _ ⟨rfl, hcid⟩
    refine ⟨rfl, ?_, .cons hcid .nil⟩
    exact List.filterMap_cons_some (by rw [hnode]; rfl)

theorem leased_balloon (p : Parameters) (name : String) :
    (G.granting H I).Holds (balloon p t name) fun parts ls => parts.Leased q [] ls :=
  granting_bind_parameters fun _ _ => granting_bind_parameters fun _ _ =>
    leased_ofDevice q hK rfl _ _

theorem leased_watchdog (p : Parameters) :
    (G.granting H I).Holds (watchdog p t) fun parts ls => parts.Leased q [] ls := by
  refine granting_bind_parameters fun enabled _ => ?_
  split
  · split
    · exact granting_throw _
    · exact granting_bind_attempt fun bus _ => leased_ofDevice q hK rfl bus p
  · exact (G.granting H I).ret .empty

theorem leased_input (p : Parameters) (name : String) :
    (G.granting H I).Holds (input p t name) fun parts ls => parts.Leased q [] ls := by
  unfold input
  dsimp only
  split
  · exact granting_bind_attempt fun (driver, bus) _ => leased_ofDevice q hK rfl bus _
  · exact granting_throw _

theorem leased_soundcard (p : Parameters) (index : Nat) (model : String) :
    (G.granting H I).Holds (soundcard p t index model) fun parts ls => parts.Leased q [] ls := by
  refine granting_bind_attempt fun (driver, codec) _ => ?_
  cases codec with
  | none => exact leased_ofDevice q hK rfl _ _
  | some codec =>
    refine (G.granting H I).bind_quiet (granting_lift (holds_requireDevice hK _)) fun _ => ?_
    exact leased_ofDevice q hK rfl _ _

theorem leased_usbDevice (p : Parameters) (name : String) :
    (G.granting H I).Holds (usbDevice p t name) fun parts ls => parts.Leased q [] ls :=
  leased_ofDevice q hK rfl _ _

theorem leased_display (p : Parameters) :
    (G.granting H I).Holds (display p t) fun parts ls => parts.Leased q [] ls := by
  refine granting_bind_attempt fun driver _ => ?_
  cases driver with
  | none => exact (G.granting H I).ret .empty
  | some driver => exact leased_ofDevice q hK rfl _ p

theorem leased_nic [Identifiers I] (p : Parameters) (name : String) :
    (G.granting H I).Holds (nic p t name) fun _ ls => ls = [] := by
  refine granting_bind_attempt fun (driver, bus) _ => ?_
  refine (G.granting H I).bind_quiet (granting_lift (holds_requireDevice hK driver)) fun _ => ?_
  refine granting_bind_parameters fun queues _ => granting_bind_attempt fun backend _ => ?_
  dsimp only
  split
  all_goals
    first
    | refine (G.granting H I).bind_quiet (granting_identifier _) fun mac => ?_
    | refine (G.granting H I).bind_quiet ((G.granting H I).ret rfl) fun mac => ?_
    refine granting_bind_attempt fun vectors _ => granting_bind_parameters fun extra _ => ?_
    exact granting_bind_parameters fun request _ => (G.granting H I).ret rfl

/-! ## All devices -/

omit hK in
theorem leased_join {α : Type} {f : α → Compiling H I m DeviceParts} {names : α → List String}
    (hf : ∀ a, (G.granting H I).Holds (f a) fun parts ls => parts.Leased q (names a) ls)
    (as : List α) :
    (G.granting H I).Holds (do return DeviceParts.join (← as.mapM f)) fun parts ls =>
      parts.Leased q (as.flatMap names) ls :=
  (G.granting H I).bind_pure ((G.granting H I).mapM
    (J := fun as l ls => (DeviceParts.join l).Leased q (as.flatMap names) ls) hf .empty
    (fun h h' => h.append h') as)

omit hK in
theorem leased_parts (p : Parameters) (key : String) {f : String → Compiling H I m DeviceParts}
    (hf : ∀ name, (G.granting H I).Holds (f name) fun parts ls => parts.Leased q [] ls) :
    (G.granting H I).Holds (parts p key f) fun parts ls => parts.Leased q [] ls := by
  refine (G.granting H I).mono (leased_join q hf _) fun parts ls h => ?_
  rwa [List.flatMap_eq_nil_iff.2 fun _ _ => rfl] at h

theorem leased_vsocks [HostResources H] [LawfulHost H] (p : Parameters) :
    (G.granting H I).Holds (parts p "vsocks" (vsock p t)) fun parts ls =>
      parts.Leased p (p.objects "vsocks") ls := by
  refine (G.granting H I).mono (leased_join p (leased_vsock hK p) _) fun parts ls h => ?_
  rwa [List.flatMap_singleton'] at h

theorem leased_soundcards (p : Parameters) :
    (G.granting H I).Holds (soundcards p t) fun parts ls => parts.Leased q [] ls := by
  refine (G.granting H I).mono (leased_join q
    (fun card : String × Nat => leased_soundcard q hK p card.2 card.1) _) fun parts ls h => ?_
  rwa [List.flatMap_eq_nil_iff.2 fun _ _ => rfl] at h

/-- What the devices of a guest hold is what was leased for them. -/
theorem leased_build [HostResources H] [LawfulHost H] [Identifiers I] (vmName : String)
    (p : Parameters) :
    (G.granting H I).Holds (build vmName p t) fun plan ls =>
      DeviceParts.Leased p (p.objects "vsocks") ls
        ⟨plan.devices, plan.objects, plan.chardevs⟩ := by
  refine (G.granting H I).bind_quiet (granting_lift (G.build.mapM_all (holds_usbController hK p) _))
    fun usbControllers => ?_
  refine (G.granting H I).bind_quiet ((G.granting H I).mapM (J := fun _ _ ls => ls = [])
    (leased_nic hK p) rfl (fun h h' => by rw [h, h']; rfl) _) fun nics => ?_
  refine (G.granting H I).bind (leased_parts p p _ (leased_serial p hK vmName p)) fun serials => ?_
  refine (G.granting H I).bind (leased_parts p p _ (leased_rng p hK vmName p)) fun rngs => ?_
  refine (G.granting H I).bind (leased_parts p p _ (leased_tpm p hK vmName p)) fun tpms => ?_
  refine (G.granting H I).bind (leased_vsocks hK p) fun vsocks => ?_
  refine (G.granting H I).bind (leased_parts p p _ (leased_balloon p hK p)) fun balloons => ?_
  refine (G.granting H I).bind (leased_watchdog p hK p) fun watchdog => ?_
  refine (G.granting H I).bind (leased_parts p p _ (leased_input p hK p)) fun inputs => ?_
  refine (G.granting H I).bind (leased_soundcards p hK p) fun sounds => ?_
  refine (G.granting H I).bind (leased_parts p p _ (leased_usbDevice p hK p)) fun usbDevices => ?_
  refine (G.granting H I).bind (leased_display p hK p) fun display => (G.granting H I).ret ?_
  intro _ hdisplay _ husbDevices _ hsounds _ hinputs _ hwatchdog _ hballoons _ hvsocks _ htpms
    _ hrngs _ hserials
  have hall := hserials.append (hrngs.append (htpms.append (hvsocks.append (hballoons.append
    (hwatchdog.append (hinputs.append (hsounds.append (husbDevices.append
      (hdisplay.append .empty)))))))))
  simp only [List.nil_append, List.append_nil] at hall ⊢
  exact hall

end DevicePlan

end GuestSpec
