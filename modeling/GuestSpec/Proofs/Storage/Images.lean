import GuestSpec.Proofs.Oracle.Guarantee
import GuestSpec.Proofs.Storage.Backend
import GuestSpec.Storage.Plan

/-!
# Planned images

A planned image is attached to its own backend, its backend names groups and secrets that the plan
has, and device and backend are of kinds that the hypervisor has.
-/

namespace GuestSpec

open Storage

/-! ## What holds of an image -/

/-- The groups and secrets that a backend names are among some objects, with these kinds. -/
structure StorageBackend.Linked (objects : List ObjectSpec) (b : StorageBackend) : Prop where
  throttleGroups : ∀ group ∈ b.throttleGroups, ∃ limits, ⟨group, .throttleGroup limits⟩ ∈ objects
  keySecrets : ∀ id ∈ b.keySecrets, ∃ secret, ⟨id, .secret secret⟩ ∈ objects

/-- A device is attached to a backend; only to a drive without a medium there is nothing. -/
structure DeviceNode.AttachedTo (b : StorageBackend) (d : DeviceNode) : Prop where
  drive : ∃ props, d.props = .disk props ∧ props.drive = b.top?
  none_iff : b.top? = none ↔ b = .empty

structure UnplacedDisk.Planned (K : Findings) (objects : List ObjectSpec) (d : UnplacedDisk) :
    Prop where
  attached : d.device.node.AttachedTo d.backend
  linked : d.backend.Linked objects
  driver : K.allows (.hasDevice d.device.node.driver) true
  layered : d.backend = .empty ∨ K.allows (.probe .blockdev) d.backend.isLayered
  bare : d.backend.isBareProtocol = true → K.allows (.probe .rawProtocolAttach) true

structure ObjectSpec.ForImages (K : Findings) (o : ObjectSpec) : Prop where
  kind : (∃ limits, o.kind = .throttleGroup limits) ∨ ∃ secret, o.kind = .secret secret
  type : K.allows (.hasObject o.kind.typeName) true

structure StoragePlan.Planned (K : Findings) (plan : StoragePlan) : Prop where
  objects : ∀ o ∈ plan.objects, o.ForImages K
  disks : ∀ d ∈ plan.disks, d.Planned K plan.objects

theorem StorageBackend.Linked.mono {b : StorageBackend} {objects more : List ObjectSpec}
    (h : b.Linked objects) (hsub : objects ⊆ more) : b.Linked more where
  throttleGroups group hg := (h.throttleGroups group hg).imp fun _ ho => hsub ho
  keySecrets id hid := (h.keySecrets id hid).imp fun _ ho => hsub ho

theorem UnplacedDisk.Planned.mono {K : Findings} {d : UnplacedDisk}
    {objects more : List ObjectSpec} (h : d.Planned K objects) (hsub : objects ⊆ more) :
    d.Planned K more :=
  { h with linked := h.linked.mono hsub }

/-! ## Backends -/

namespace Storage

/-- The backend of an image with a medium, in the form of a mode. -/
def Mode.backend (mode : Mode) (image file : String) (locator : Locator) (o : ImageOptions)
    (secretId : Option String) : StorageBackend :=
  if mode.layered then layeredBackend image locator o mode.rawAttach secretId
  else legacyBackend image file locator o secretId

/-- What a mode makes of the medium of an image: nothing without one, else the backend that its
locator and its secret lead to. -/
def Mode.Makes (mode : Mode) (image : String) (o : ImageOptions) (secret : Option ObjectSpec)
    (b : StorageBackend) : (medium : Option String) → Prop
  | none => secret = none ∧ b = .empty
  | some file => ∃ locator, classify image file = .ok locator ∧
      b = mode.backend image file locator o (secret.map ObjectSpec.id)

structure SecretOf (o : ImageOptions) (secret : Option ObjectSpec) : Prop where
  kind : ∀ s ∈ secret, ∃ data, s.kind = .secret data
  encrypted : o.format = .raw → secret = none

theorem SecretOf.none (o : ImageOptions) : SecretOf o none := ⟨fun _ h => (nomatch h), fun _ => rfl⟩

/-- What a backend owes to the options and the secret of its image. -/
structure Backs (mode : Mode) (o : ImageOptions) (secret : Option ObjectSpec)
    (b : StorageBackend) : Prop where
  throttleGroups : ∀ group ∈ b.throttleGroups, o.throttleGroup = some group
  keySecrets : ∀ id ∈ b.keySecrets, ∃ s, secret = some s ∧ s.id = id
  none_iff : b.top? = none ↔ b = .empty
  layered : b = .empty ∨ b.isLayered = mode.layered
  bare : b.isBareProtocol = true → mode.rawAttach = true

theorem Backs.empty (mode : Mode) (o : ImageOptions) (secret : Option ObjectSpec) :
    Backs mode o secret .empty where
  throttleGroups _ hg := nomatch hg
  keySecrets _ hid := nomatch hid
  none_iff := ⟨fun _ => rfl, fun _ => rfl⟩
  layered := .inl rfl
  bare h := nomatch h

theorem backs_backend (mode : Mode) (image file : String) (locator : Locator) {o : ImageOptions}
    {secret : Option ObjectSpec} (hsecret : SecretOf o secret) :
    Backs mode o secret (mode.backend image file locator o (secret.map ObjectSpec.id)) := by
  have hraw : o.format = .raw → secret.map ObjectSpec.id = none := by
    intro h
    rw [hsecret.encrypted h, Option.map_none]
  unfold Mode.backend
  split
  · next hlayered =>
    refine ⟨?_, ?_, ?_, .inr hlayered.symm, rawAttach_of_isBareProtocol _ _ _ _ _⟩
    · rw [throttleGroups_layeredBackend]
      exact fun _ hg => Option.mem_toList.1 hg
    · rw [keySecrets_layeredBackend _ _ _ _ _ hraw]
      exact fun _ hid => Option.map_eq_some_iff.1 (Option.mem_toList.1 hid)
    · have hsome := isSome_top?_layeredBackend image locator o mode.rawAttach
        (secret.map ObjectSpec.id)
      constructor
      · intro hnone
        rw [hnone] at hsome
        cases hsome
      · intro hempty
        cases hempty
  · next hlayered =>
    refine ⟨?_, ?_, ⟨fun h => (nomatch h), fun h => (nomatch h)⟩, .inr ?_, fun h => (nomatch h)⟩
    · exact fun _ hg => Option.mem_toList.1 hg
    · exact fun _ hid => Option.map_eq_some_iff.1 (Option.mem_toList.1 hid)
    · exact (eq_false_of_ne_true hlayered).symm

theorem exists_group_of_ofParameters (image : String) (media : Media) (p : Parameters)
    (groups : List ObjectSpec) :
    Guarantee.attempt.Holds (ImageOptions.ofParameters image media p groups)
      fun o => ∀ group, o.throttleGroup = some group → ∃ g ∈ groups, g.id = group := by
  have hgroup : Guarantee.attempt.Holds (throttleGroupOf image p groups)
      fun r => ∀ group, r = some group → ∃ g ∈ groups, g.id = group := by
    intro r hr
    unfold throttleGroupOf at hr
    split at hr
    · obtain rfl := Except.ok.inj hr
      exact fun _ h => nomatch h
    · next group _ =>
      split at hr
      · next hany =>
        obtain rfl := Except.ok.inj hr
        intro group' h
        obtain rfl := Option.some.inj h
        simpa using hany
      · cases hr
  unfold ImageOptions.ofParameters
  cases media
  all_goals
    refine Guarantee.attempt.bind Guarantee.attempt_trivial fun format => ?_
    refine Guarantee.attempt.bind Guarantee.attempt_trivial fun cache => ?_
    refine Guarantee.attempt.bind Guarantee.attempt_trivial fun aio => ?_
    refine Guarantee.attempt.bind hgroup fun throttleGroup => ?_
    refine Guarantee.attempt.bind Guarantee.attempt_trivial fun readOnly => ?_
    refine Guarantee.attempt.bind Guarantee.attempt_trivial fun copyOnRead => ?_
    exact Guarantee.attempt.ret fun _ _ h _ _ _ => h

variable {m : Type → Type} [Monad m] [LawfulMonad m] {G : Guarantee m} {t : Target m}
  {K : Findings}

/-- Every image has the backend that the mode makes of its medium, and what is known of secrets is
known of its secret. -/
theorem makes_imageBackend {image : String} {o : ImageOptions} {Q : Option ObjectSpec → Prop}
    (hnone : Q none) (hsecret : G.build.Holds (imageSecret image o t) Q) (media : Media)
    (p : Parameters) (mode : Mode) :
    G.build.Holds (imageBackend image media p o t mode) fun r => Q r.2 ∧
      ∃ medium, imageLocator image media p o.format = .ok medium ∧
        mode.Makes image o r.2 r.1 medium := by
  refine G.bind_parameters fun medium hmedium => ?_
  cases medium with
  | none => exact G.build.ret ⟨hnone, none, hmedium, rfl, rfl⟩
  | some file =>
    dsimp only
    unfold mediumBackend
    split
    · exact G.except_throw
    · next locator hlocator =>
      split
      · exact G.except_throw
      · refine G.build.bind hsecret fun secret => G.build.ret fun hQ => ?_
        exact ⟨hQ, some file, hmedium, locator, hlocator, rfl⟩

variable (hK : G.Finds t.oracle K)

include hK

theorem holds_throttleGroups (p : Parameters) :
    G.build.Holds (throttleGroups p t) fun groups => ∀ g ∈ groups,
      (∃ limits, g.kind = .throttleGroup limits) ∧
        K.allows (.hasObject g.kind.typeName) true := by
  refine G.build.mapM_all (fun group => ?_) _
  refine G.build.bind (Guarantee.holds_requireObject hK _) fun _ => ?_
  refine G.bind_parameters fun limits _ => ?_
  exact G.build.ret fun h => ⟨⟨limits, rfl⟩, h⟩

theorem holds_imageSecret (image : String) (o : ImageOptions) :
    G.build.Holds (imageSecret image o t) fun secret => SecretOf o secret ∧
      ∀ s ∈ secret, K.allows (.hasObject s.kind.typeName) true := by
  have hnone : SecretOf o none ∧ ∀ s ∈ (none : Option ObjectSpec),
      K.allows (.hasObject s.kind.typeName) true := ⟨.none o, fun _ h => (nomatch h)⟩
  unfold imageSecret
  split
  · next data _ =>
    split
    · next hluks =>
      refine G.build.bind (Guarantee.holds_requireObject hK _) fun _ => G.build.ret fun h => ?_
      refine ⟨⟨fun s hs => ?_, fun hraw => ?_⟩, fun s hs => ?_⟩
      · obtain rfl := Option.some.inj hs
        exact ⟨_, rfl⟩
      · rw [hluks] at hraw
        cases hraw
      · obtain rfl := Option.some.inj hs
        exact h
    · exact G.build.ret hnone
  · exact G.build.ret hnone

theorem holds_imageBackend (image : String) (media : Media) (p : Parameters) (o : ImageOptions)
    (mode : Mode) :
    G.build.Holds (imageBackend image media p o t mode) fun r =>
      Backs mode o r.2 r.1 ∧ SecretOf o r.2 ∧
        ∀ s ∈ r.2, K.allows (.hasObject s.kind.typeName) true := by
  have hmakes := makes_imageBackend (Q := fun secret => SecretOf o secret ∧
    ∀ s ∈ secret, K.allows (.hasObject s.kind.typeName) true)
    ⟨.none o, fun _ h => (nomatch h)⟩ (holds_imageSecret hK image o) media p mode
  refine G.build.mono hmakes fun r ⟨hsecret, medium, _, hb⟩ => ⟨?_, hsecret⟩
  cases medium with
  | none =>
    rw [hb.2]
    exact .empty mode o r.2
  | some file =>
    obtain ⟨locator, -, hb⟩ := hb
    rw [hb]
    exact backs_backend mode image file locator hsecret.1

theorem holds_buildImage (image : String) (media : Media) (p : Parameters)
    (groups : List ObjectSpec) (mode : Mode) :
    G.build.Holds (buildImage image media p t groups mode) fun r =>
      (∀ s ∈ r.2, s.ForImages K) ∧
      ((∀ g ∈ groups, ∃ limits, g.kind = .throttleGroup limits) →
        K.allows (.probe .blockdev) mode.layered →
        K.allows (.probe .rawProtocolAttach) mode.rawAttach →
        r.1.Planned K (groups ++ r.2.toList)) := by
  refine G.bind_parameters fun o ho => ?_
  refine G.bind_attempt fun (driver, bus) _ => ?_
  refine G.build.bind (Guarantee.holds_requireDevice hK driver) fun _ => ?_
  refine G.build.bind (holds_imageBackend hK image media p o mode) fun (b, secret) => ?_
  refine G.bind_parameters fun removable _ => ?_
  refine G.bind_parameters fun extra _ => ?_
  refine G.bind_parameters fun request _ => G.build.ret fun hb hdriver => ?_
  obtain ⟨hbacks, hsecret, htype⟩ := hb
  refine ⟨fun s hs => ⟨.inr (hsecret.kind s hs), htype s hs⟩, fun hgroups hlayered hraw => ?_⟩
  refine ⟨⟨⟨_, rfl, rfl⟩, hbacks.none_iff⟩, ⟨fun group hg => ?_, fun id hid => ?_⟩, hdriver,
    hbacks.layered.imp_right fun h => ?_, fun h => ?_⟩
  · obtain ⟨g, hmem, rfl⟩ := exists_group_of_ofParameters image media p groups o ho group
      (hbacks.throttleGroups group hg)
    obtain ⟨limits, hlimits⟩ := hgroups g hmem
    refine ⟨limits, List.mem_append_left _ ?_⟩
    rw [← hlimits]
    exact hmem
  · obtain ⟨s, hs, rfl⟩ := hbacks.keySecrets id hid
    obtain ⟨data, hdata⟩ := hsecret.kind s hs
    refine ⟨data, List.mem_append_right _ ?_⟩
    rw [← hdata]
    exact Option.mem_toList.2 hs
  · rw [h]
    exact hlayered
  · rw [hbacks.bare h] at hraw
    exact hraw

/-- All images of a guest are linked within the plan and made for the hypervisor. -/
theorem holds_build (p : Parameters) :
    G.build.Holds (build p t) fun plan => plan.Planned K := by
  refine G.build.bind (P := fun mode => K.allows (.probe .blockdev) mode.layered ∧
    K.allows (.probe .rawProtocolAttach) mode.rawAttach) ?_ fun mode => ?_
  · refine G.build.bind (Guarantee.holds_probe hK _) fun layered => ?_
    refine G.build.bind (Guarantee.holds_probe hK _) fun rawAttach => ?_
    exact G.build.ret fun hraw hlayered => ⟨hlayered, hraw⟩
  · refine G.build.bind (holds_throttleGroups hK p) fun groups => ?_
    refine G.build.bind (G.build.mapM_all (fun _ => holds_buildImage hK _ _ _ groups mode) _)
      fun built => G.build.ret fun hbuilt hgroups hmode => ⟨fun o ho => ?_, fun d hd => ?_⟩
    · obtain ho | ho := List.mem_append.1 ho
      · exact ⟨.inl (hgroups o ho).1, (hgroups o ho).2⟩
      · obtain ⟨r, hr, hsecret⟩ := List.mem_filterMap.1 ho
        exact (hbuilt r hr).1 o hsecret
    · obtain ⟨r, hr, rfl⟩ := List.mem_map.1 hd
      refine ((hbuilt r hr).2 (fun g hg => (hgroups g hg).1) hmode.1 hmode.2).mono fun o ho => ?_
      refine (List.mem_append.1 ho).elim (List.mem_append_left _) fun ho => ?_
      exact List.mem_append_right _ (List.mem_filterMap.2 ⟨r, hr, Option.mem_toList.1 ho⟩)

end Storage

end GuestSpec
