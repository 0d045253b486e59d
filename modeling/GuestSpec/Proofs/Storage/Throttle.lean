import GuestSpec.Proofs.Json.Sorted
import GuestSpec.Proofs.Text.Numeral
import GuestSpec.Storage.Throttle

/-!
# What becomes of the limits of a group

Every field of the object of limits is kept: six names have slots for numbers, and all other fields
go to the texts that are passed on. Reading fails only where a slot has no number to hold.
-/

namespace GuestSpec.Storage

/-! ## Values of limits -/

/-- A value is a count: an unsigned number of 64 bits, or a text that is the numeral of one. -/
inductive IsCount : Json → UInt64 → Prop where
  | number (n : UInt64) : IsCount (.int n.toNat) n
  | digits {s : String} {n : UInt64} (h : Numeral.IsDecimal s.toList n.toNat) :
      IsCount (.str s) n
  | plus {s : String} {digits : List Char} {n : UInt64} (hs : s.toList = '+' :: digits)
      (h : Numeral.IsDecimal digits n.toNat) : IsCount (.str s) n

/-- The text in which a value is passed on: a string verbatim, and the compact text of any other
value. -/
inductive IsPassedOn : Json → String → Prop where
  | verbatim (s : String) : IsPassedOn (.str s) s
  | compact {j : Json} (h : ∀ s, j ≠ .str s) : IsPassedOn j (Json.compact j.sorted)

theorem limitNumber?_eq_some_iff {j : Json} {n : UInt64} :
    limitNumber? j = some n ↔ IsCount j n := by
  cases j with
  | int i =>
    rw [limitNumber?]
    constructor
    · intro h
      split at h
      · next hi =>
        obtain ⟨hpos, hlt⟩ := hi
        cases h
        have hnat : (UInt64.ofNat i.toNat).toNat = i.toNat := UInt64.toNat_ofNat_of_lt' hlt
        have hcount := IsCount.number (UInt64.ofNat i.toNat)
        rwa [hnat, Int.toNat_of_nonneg hpos] at hcount
      · cases h
    · intro h
      cases h with
      | number =>
        rw [if_pos ⟨Int.natCast_nonneg _, n.toNat_lt⟩, Int.toNat_natCast, UInt64.ofNat_toNat]
  | str s =>
    rw [limitNumber?, Numeral.uint64?_eq_some_iff]
    constructor
    · rintro (h | ⟨digits, hs, h⟩)
      · exact .digits h
      · exact .plus hs h
    · intro h
      cases h with
      | digits h => exact .inl h
      | plus hs h => exact .inr ⟨_, hs, h⟩
  | null => exact iff_of_false nofun nofun
  | bool => exact iff_of_false nofun nofun
  | float => exact iff_of_false nofun nofun
  | arr => exact iff_of_false nofun nofun
  | obj => exact iff_of_false nofun nofun

theorem IsCount.unique {j : Json} {n n' : UInt64} (h : IsCount j n) (h' : IsCount j n') :
    n = n' :=
  Option.some.inj ((limitNumber?_eq_some_iff.2 h).symm.trans (limitNumber?_eq_some_iff.2 h'))

theorem limitText_eq_iff {j : Json} {s : String} : limitText j = s ↔ IsPassedOn j s := by
  unfold limitText
  split
  · next t =>
    constructor
    · rintro rfl
      exact .verbatim t
    · intro h
      cases h with
      | verbatim => rfl
      | compact h => exact absurd rfl (h t)
  · next hother =>
    constructor
    · rintro rfl
      exact .compact hother
    · intro h
      cases h with
      | verbatim => exact absurd rfl (hother s)
      | compact => rfl

theorem IsPassedOn.unique {j : Json} {s s' : String} (h : IsPassedOn j s) (h' : IsPassedOn j s') :
    s = s' :=
  (limitText_eq_iff.2 h).symm.trans (limitText_eq_iff.2 h')

theorem rel_unique {α β : Type} {r : α → β → Prop} (hr : ∀ a b b', r a b → r a b' → b = b')
    {a : Option α} {b b' : Option β} (h : Option.Rel r a b) (h' : Option.Rel r a b') : b = b' := by
  cases h with
  | none => cases h'; rfl
  | some h => cases h' with | some h' => exact congrArg some (hr _ _ _ h h')

/-! ## Slots -/

structure Slot where
  name : String
  get : ThrottleLimits → Option UInt64
  set : ThrottleLimits → UInt64 → ThrottleLimits
  get_set : ∀ l n, get (set l n) = some n
  extra_set : ∀ l n, (set l n).extra = l.extra
  get_extra : ∀ l extra, get { l with extra := extra } = get l
  get_empty : get .empty = none

def slots : List Slot := [
  ⟨"iops-total", (·.iopsTotal), fun l n => { l with iopsTotal := some n },
    fun _ _ => rfl, fun _ _ => rfl, fun _ _ => rfl, rfl⟩,
  ⟨"iops-read", (·.iopsRead), fun l n => { l with iopsRead := some n },
    fun _ _ => rfl, fun _ _ => rfl, fun _ _ => rfl, rfl⟩,
  ⟨"iops-write", (·.iopsWrite), fun l n => { l with iopsWrite := some n },
    fun _ _ => rfl, fun _ _ => rfl, fun _ _ => rfl, rfl⟩,
  ⟨"bps-total", (·.bpsTotal), fun l n => { l with bpsTotal := some n },
    fun _ _ => rfl, fun _ _ => rfl, fun _ _ => rfl, rfl⟩,
  ⟨"bps-read", (·.bpsRead), fun l n => { l with bpsRead := some n },
    fun _ _ => rfl, fun _ _ => rfl, fun _ _ => rfl, rfl⟩,
  ⟨"bps-write", (·.bpsWrite), fun l n => { l with bpsWrite := some n },
    fun _ _ => rfl, fun _ _ => rfl, fun _ _ => rfl, rfl⟩]

theorem map_name_slots : slots.map Slot.name = ThrottleLimits.names := rfl

theorem mem_names_iff {name : String} :
    name ∈ ThrottleLimits.names ↔ ∃ slot ∈ slots, slot.name = name := by
  rw [← map_name_slots, List.mem_map]

theorem eq_of_name_eq {a b : Slot} (ha : a ∈ slots) (hb : b ∈ slots) (h : a.name = b.name) :
    a = b := by
  have hnodup : (slots.map Slot.name).Nodup := by decide
  exact List.inj_on_of_nodup_map hnodup ha hb h

theorem get_set_of_name_ne {a b : Slot} (ha : a ∈ slots) (hb : b ∈ slots) (h : b.name ≠ a.name)
    (l : ThrottleLimits) (n : UInt64) : b.get (a.set l n) = b.get l := by
  fin_cases ha <;> fin_cases hb
  all_goals first | rfl | exact absurd rfl h

/-- Limits are known by what is in their slots and what they pass on. -/
theorem ext_of_slots {l l' : ThrottleLimits} (hslots : ∀ slot ∈ slots, slot.get l = slot.get l')
    (hextra : l.extra = l'.extra) : l = l' := by
  simp only [slots, List.forall_mem_cons] at hslots
  obtain ⟨h1, h2, h3, h4, h5, h6, -⟩ := hslots
  cases l
  cases l'
  exact ThrottleLimits.mk.injEq .. ▸ ⟨h1, h2, h3, h4, h5, h6, hextra⟩

/-! ## One field -/

section Step

variable {l l' : ThrottleLimits} {name : String} {j : Json}

theorem setLimit?_of_slot {slot : Slot} (h : slot ∈ slots) (l : ThrottleLimits) (j : Json) :
    setLimit? l (slot.name, j) = (limitNumber? j).map (slot.set l) := by
  fin_cases h
  all_goals
    cases hj : limitNumber? j <;> simp [setLimit?, hj]

theorem setLimit?_of_notMem (h : name ∉ ThrottleLimits.names) (l : ThrottleLimits) (j : Json) :
    setLimit? l (name, j) = some { l with extra := l.extra.insert name (limitText j) } := by
  simp only [ThrottleLimits.names, List.mem_cons, not_or] at h
  obtain ⟨h1, h2, h3, h4, h5, h6, -⟩ := h
  rw [setLimit?] <;> assumption

/-- A field can be taken over unless it has a slot and no number. -/
theorem exists_setLimit?_iff :
    (∃ l', setLimit? l (name, j) = some l') ↔
      (name ∈ ThrottleLimits.names → ∃ n, IsCount j n) := by
  by_cases hname : name ∈ ThrottleLimits.names
  · obtain ⟨slot, hslot, rfl⟩ := mem_names_iff.1 hname
    simp [setLimit?_of_slot hslot, hname, limitNumber?_eq_some_iff]
  · simp [setLimit?_of_notMem hname, hname]

/-- Limits hold what fields say. A slot is full where its name occurs, and holds the number of the
value that counts. No name with a slot is passed on; of the others each that occurs is passed on
with the text of the value that counts. -/
structure Keeps (fields : List (String × Json)) (l : ThrottleLimits) : Prop where
  slot : ∀ slot ∈ slots, Option.Rel IsCount (Json.lastValue? fields slot.name) (slot.get l)
  taken : ∀ name ∈ ThrottleLimits.names, l.extra.get? name = none
  other : ∀ name ∉ ThrottleLimits.names,
    Option.Rel IsPassedOn (Json.lastValue? fields name) (l.extra.get? name)

/-- Every name with a slot that occurs has a count. -/
def HasCounts (fields : List (String × Json)) : Prop :=
  ∀ name ∈ ThrottleLimits.names, ∀ j, Json.lastValue? fields name = some j → ∃ n, IsCount j n

theorem keeps_empty : Keeps [] .empty where
  slot slot _ := slot.get_empty ▸ .none
  taken _ _ := rfl
  other _ _ := .none

theorem Keeps.step {fields : List (String × Json)} (hl : Keeps fields l)
    (h : setLimit? l (name, j) = some l') : Keeps (fields ++ [(name, j)]) l' := by
  by_cases hname : name ∈ ThrottleLimits.names
  · obtain ⟨slot, hslot, rfl⟩ := mem_names_iff.1 hname
    rw [setLimit?_of_slot hslot, Option.map_eq_some_iff] at h
    obtain ⟨n, hn, rfl⟩ := h
    refine ⟨fun other hother => ?_, fun name hname => ?_, fun name hnot => ?_⟩
    · rw [Json.lastValue?_concat]
      by_cases heq : other.name = slot.name
      · rw [if_pos heq, eq_of_name_eq hother hslot heq, slot.get_set]
        exact .some (limitNumber?_eq_some_iff.1 hn)
      · rw [if_neg heq, get_set_of_name_ne hslot hother heq]
        exact hl.slot other hother
    · rw [slot.extra_set]
      exact hl.taken name hname
    · have hne : name ≠ slot.name := fun heq => hnot (heq ▸ hname)
      rw [slot.extra_set, Json.lastValue?_concat, if_neg hne]
      exact hl.other name hnot
  · rw [setLimit?_of_notMem hname] at h
    cases h
    refine ⟨fun slot hslot => ?_, fun taken htaken => ?_, fun other hother => ?_⟩
    · have hne : slot.name ≠ name := fun heq => hname (mem_names_iff.2 ⟨slot, hslot, heq⟩)
      rw [Json.lastValue?_concat, if_neg hne, slot.get_extra]
      exact hl.slot slot hslot
    · have hne : taken ≠ name := fun heq => hname (heq ▸ htaken)
      rw [TextMap.get?_insert, if_neg hne]
      exact hl.taken taken htaken
    · rw [TextMap.get?_insert, Json.lastValue?_concat]
      split
      · exact .some (limitText_eq_iff.1 rfl)
      · exact hl.other other hother

end Step

/-! ## All fields -/

section Run

variable {fields rest : List (String × Json)} {l l' : ThrottleLimits}

theorem Keeps.run (hl : Keeps fields l) (h : rest.foldlM setLimit? l = some l') :
    Keeps (fields ++ rest) l' := by
  induction rest generalizing fields l with
  | nil =>
    cases h
    rwa [List.append_nil]
  | cons f rest ih =>
    rw [List.foldlM_cons, Option.bind_eq_bind, Option.bind_eq_some_iff] at h
    obtain ⟨next, hnext, hrest⟩ := h
    have hkeeps := ih (hl.step hnext) hrest
    rwa [List.append_assoc] at hkeeps

theorem exists_foldlM_iff :
    (∃ l', fields.foldlM setLimit? l = some l') ↔
      ∀ f ∈ fields, f.1 ∈ ThrottleLimits.names → ∃ n, IsCount f.2 n := by
  induction fields generalizing l with
  | nil => simp
  | cons f fields ih =>
    rw [List.forall_mem_cons, ← exists_setLimit?_iff (l := l)]
    simp only [List.foldlM_cons, Option.bind_eq_bind, Option.bind_eq_some_iff]
    constructor
    · rintro ⟨l', next, hnext, hrest⟩
      exact ⟨⟨next, hnext⟩, ih.1 ⟨l', hrest⟩⟩
    · rintro ⟨⟨next, hnext⟩, hrest⟩
      obtain ⟨l', hl'⟩ := ih.2 hrest
      exact ⟨l', next, hnext, hl'⟩

theorem Keeps.unique (h : Keeps fields l) (h' : Keeps fields l') : l = l' := by
  refine ext_of_slots (fun slot hslot => ?_) (TextMap.ext_of_get? fun name => ?_)
  · exact rel_unique (fun _ _ _ hn hn' => hn.unique hn') (h.slot slot hslot) (h'.slot slot hslot)
  · by_cases hname : name ∈ ThrottleLimits.names
    · rw [h.taken name hname, h'.taken name hname]
    · exact rel_unique (fun _ _ _ hs hs' => hs.unique hs') (h.other name hname)
        (h'.other name hname)

theorem Keeps.congr (h : Keeps rest l)
    (hsame : ∀ name, Json.lastValue? rest name = Json.lastValue? fields name) : Keeps fields l where
  slot slot hslot := hsame slot.name ▸ h.slot slot hslot
  taken := h.taken
  other name hname := hsame name ▸ h.other name hname

theorem Keeps.hasCounts (h : Keeps fields l) : HasCounts fields := by
  intro name hname j hj
  obtain ⟨slot, hslot, rfl⟩ := mem_names_iff.1 hname
  have hrel := h.slot slot hslot
  rw [hj] at hrel
  generalize slot.get l = held at hrel
  cases hrel with
  | some hn => exact ⟨_, hn⟩

theorem keeps_of_foldlM (h : (Json.sortFields fields).foldlM setLimit? .empty = some l) :
    Keeps fields l :=
  (keeps_empty.run h).congr (Json.lastValue?_sortFields fields)

theorem exists_foldlM_sortFields_iff :
    (∃ l, (Json.sortFields fields).foldlM setLimit? .empty = some l) ↔ HasCounts fields := by
  rw [exists_foldlM_iff]
  constructor
  · exact fun h name hname j hj => h (name, j) (Json.mem_sortFields_iff.2 hj) hname
  · exact fun h f hf hname => h f.1 hname f.2 (Json.mem_sortFields_iff.1 hf)

theorem foldlM_sortFields_iff :
    (Json.sortFields fields).foldlM setLimit? .empty = some l ↔ Keeps fields l := by
  refine ⟨keeps_of_foldlM, fun h => ?_⟩
  obtain ⟨l', hl'⟩ := exists_foldlM_sortFields_iff.2 h.hasCounts
  rw [hl', (keeps_of_foldlM hl').unique h]

theorem exists_keeps_iff : (∃ l, Keeps fields l) ↔ HasCounts fields := by
  rw [← exists_foldlM_sortFields_iff]
  exact exists_congr fun l => foldlM_sortFields_iff.symm

end Run

theorem limits?_eq_some_iff {raw : String} {l : ThrottleLimits} :
    limits? raw = some l ↔ ∃ fields, Json.parse? raw = some (.obj fields) ∧ Keeps fields l := by
  unfold limits?
  split
  · next fields hfields =>
    rw [foldlM_sortFields_iff, hfields]
    simp
  · next hother => exact iff_of_false nofun fun ⟨fields, hfields, _⟩ => hother fields hfields

example :
    limits? "\x7b\"iops-read\": \"+9\", \"burst\": [1], \"bps-read\": [], \"bps-read\": 7\x7d" =
      some { ThrottleLimits.empty with
        iopsRead := some 9, bpsRead := some 7, extra := .ofList [("burst", "[1]")] } := by
  decide +kernel

theorem exists_limits?_iff {raw : String} :
    (∃ l, limits? raw = some l) ↔
      ∃ fields, Json.parse? raw = some (.obj fields) ∧ HasCounts fields := by
  simp only [limits?_eq_some_iff, ← exists_keeps_iff]
  constructor
  · rintro ⟨l, fields, hfields, hl⟩
    exact ⟨fields, hfields, l, hl⟩
  · rintro ⟨fields, hfields, l, hl⟩
    exact ⟨l, fields, hfields, hl⟩

/-- The text of the limits that a group sees; where there is none, no limits are set. -/
def limitsText (p : Parameters) : String := (p.get? "throttle_group_parameters").getD "\x7b\x7d"

theorem throttleLimits_of_some {group : String} {p : Parameters} {l : ThrottleLimits}
    (h : limits? (limitsText p) = some l) : throttleLimits group p = .ok l := by
  have htext : p.getD "throttle_group_parameters" "\x7b\x7d" = limitsText p := rfl
  simp only [throttleLimits, htext, h]

theorem throttleLimits_of_none {group : String} {p : Parameters}
    (h : limits? (limitsText p) = none) :
    throttleLimits group p = .error (.invalid ("throttle_group_parameters_" ++ group)
      (limitsText p) "a JSON object of limits") := by
  have htext : p.getD "throttle_group_parameters" "\x7b\x7d" = limitsText p := rfl
  simp only [throttleLimits, htext, h]
  rfl

/-- The limits of a group are read exactly where their text is an object that has a number for each
name with a slot. They keep what all fields say, and nothing else. Any other text is refused with an
error that names the parameter of the group and the text. -/
theorem throttleLimits_keeps (group : String) (p : Parameters) :
    (∀ l, throttleLimits group p = .ok l ↔
      ∃ fields, Json.parse? (limitsText p) = some (.obj fields) ∧ Keeps fields l) ∧
    ((∃ l, throttleLimits group p = .ok l) ↔
      ∃ fields, Json.parse? (limitsText p) = some (.obj fields) ∧ HasCounts fields) ∧
    ∀ e, throttleLimits group p = .error e ↔
      (¬ ∃ fields, Json.parse? (limitsText p) = some (.obj fields) ∧ HasCounts fields) ∧
        e = .invalid ("throttle_group_parameters_" ++ group) (limitsText p)
          "a JSON object of limits" := by
  simp only [← limits?_eq_some_iff, ← exists_limits?_iff]
  cases h : limits? (limitsText p) with
  | none => simp [throttleLimits_of_none h, eq_comm]
  | some l => simp [throttleLimits_of_some h]

end GuestSpec.Storage
