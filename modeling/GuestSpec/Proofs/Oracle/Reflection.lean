import GuestSpec.Capability.Set

/-!
# Sets that reflect an oracle

A set derives capabilities from its version and its devices besides those that it lists. A set that
is taken of an oracle derives none that the oracle denies, as long as the oracle itself has every
capability that its version or its devices show. So the set answers like its oracle, apart from
names that it was not asked about.
-/

namespace GuestSpec

/-! ## Names in a set -/

theorem mem_insertName {a name : String} {names : List String} :
    a ∈ insertName name names ↔ a = name ∨ a ∈ names := by
  induction names with
  | nil => simp [insertName]
  | cons n names ih =>
    rw [insertName]
    split
    · simp
    · split
      · next heq => simp [heq]
      · rw [List.mem_cons, ih, List.mem_cons]
        exact or_left_comm

theorem mem_sortNames {a : String} {names : List String} : a ∈ sortNames names ↔ a ∈ names := by
  induction names with
  | nil => simp [sortNames]
  | cons n names ih =>
    rw [List.mem_cons, ← ih]
    exact mem_insertName

/-! ## Answers that hang together -/

/-- The version alone decides about intervals, and there is every capability that the version or the
devices show. -/
structure Oracle.Consistent (w : Oracle Id) : Prop where
  inInterval : ∀ i, w.inInterval i = i.containsKnown w.version
  version : ∀ c i, c.gate = .version i → i.containsKnown w.version = true → w.probe c = true
  device : ∀ c name, c.gate = .device name → w.hasDevice name = true → w.probe c = true

namespace CapabilitySet

/-- A set answers like an oracle, but it has only devices and objects of the given names. -/
structure Reflects (set : CapabilitySet) (devices objects : List String) (w : Oracle Id) :
    Prop where
  version : (set.oracle : Oracle Id).version = w.version
  inInterval : ∀ i, (set.oracle : Oracle Id).inInterval i = w.inInterval i
  probe : ∀ c, (set.oracle : Oracle Id).probe c = w.probe c
  hasDevice : ∀ name, (set.oracle : Oracle Id).hasDevice name = true ↔
    name ∈ devices ∧ w.hasDevice name = true
  hasObject : ∀ name, (set.oracle : Oracle Id).hasObject name = true ↔
    name ∈ objects ∧ w.hasObject name = true

variable {w : Oracle Id} {devices objects : List String} {set : CapabilitySet}

theorem filterM_eq_filter {α : Type} (p : α → Bool) (as : List α) :
    filterM (m := Id) p as = as.filter p := by
  induction as with
  | nil => rfl
  | cons a as ih =>
    rw [filterM, ih, List.filter_cons]
    rfl

theorem snapshot_eq (w : Oracle Id) (devices objects : List String) :
    (snapshot w devices objects).run =
      ofLists w.version (Named.all.filter w.probe) (devices.filter w.hasDevice)
        (objects.filter w.hasObject) := by
  rw [← filterM_eq_filter, ← filterM_eq_filter, ← filterM_eq_filter]
  rfl

theorem mem_all (c : Capability) : c ∈ (Named.all : List Capability) := by
  cases c <;> decide

theorem contains_filter_sortNames (p : String → Bool) (names : List String) (name : String) :
    (sortNames (names.filter p)).contains name = true ↔ name ∈ names ∧ p name = true := by
  rw [List.contains_iff_mem, mem_sortNames, List.mem_filter]

theorem contains_flags_snapshot (c : Capability) :
    (snapshot w devices objects).run.flags.contains c = w.probe c := by
  rw [snapshot_eq, Bool.eq_iff_iff, List.contains_iff_mem]
  simp [ofLists, mem_all]

/-- What a snapshot derives, its oracle has. -/
theorem probe_of_derives_snapshot (hw : w.Consistent) {c : Capability}
    (h : (snapshot w devices objects).run.derives c = true) : w.probe c = true := by
  rw [snapshot_eq, derives] at h
  cases hgate : c.gate with
  | help word =>
    rw [hgate] at h
    cases h
  | version i =>
    rw [hgate] at h
    exact hw.version c i hgate h
  | device name =>
    rw [hgate] at h
    exact hw.device c name hgate ((contains_filter_sortNames _ _ _).1 h).2

theorem reflects_snapshot (hw : w.Consistent) (devices objects : List String) :
    (snapshot w devices objects).run.Reflects devices objects w where
  version := by rw [snapshot_eq]; rfl
  inInterval i := by rw [hw.inInterval, snapshot_eq]; rfl
  probe c := by
    change (snapshot w devices objects).run.has c = w.probe c
    rw [has, contains_flags_snapshot, Bool.or_eq_left_iff_imp]
    exact probe_of_derives_snapshot hw
  hasDevice name := by
    rw [snapshot_eq]
    exact contains_filter_sortNames _ _ _
  hasObject name := by
    rw [snapshot_eq]
    exact contains_filter_sortNames _ _ _

/-- A set that was asked about all names that an oracle knows is no different from it. -/
theorem Reflects.oracle_eq (h : set.Reflects devices objects w)
    (hdevices : ∀ name, w.hasDevice name = true → name ∈ devices)
    (hobjects : ∀ name, w.hasObject name = true → name ∈ objects) : set.oracle = w := by
  have hprobe : (set.oracle : Oracle Id).probe = w.probe := funext h.probe
  have hinterval : (set.oracle : Oracle Id).inInterval = w.inInterval := funext h.inInterval
  have hdevice : (set.oracle : Oracle Id).hasDevice = w.hasDevice := by
    funext name
    rw [Bool.eq_iff_iff, h.hasDevice]
    exact and_iff_right_of_imp (hdevices name)
  have hobject : (set.oracle : Oracle Id).hasObject = w.hasObject := by
    funext name
    rw [Bool.eq_iff_iff, h.hasObject]
    exact and_iff_right_of_imp (hobjects name)
  have hversion := h.version
  cases w
  dsimp only at hprobe hinterval hdevice hobject hversion
  subst hprobe hinterval hdevice hobject hversion
  rfl

end CapabilitySet

end GuestSpec
