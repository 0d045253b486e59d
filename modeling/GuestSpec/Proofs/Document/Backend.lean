import GuestSpec.Document.Backend
import GuestSpec.Proofs.Json.RoundTrip
import Mathlib

/-!
# Backends of devices that are read back

The host side of network cards and character devices, monitors and auxiliary objects make a round
trip through their documents. A throttle group does when its further limits do not have the names
of those that are numbers.
-/

namespace GuestSpec

open Json

/-! ## Maps -/

namespace TextMap

theorem insertInto_eq_append {key value : String} {l : List (String × String)}
    (h : ∀ e ∈ l, e.1 < key) : insertInto key value l = l ++ [(key, value)] := by
  induction l with
  | nil => rfl
  | cons e l ih =>
    obtain ⟨he, hl⟩ := List.forall_mem_cons.1 h
    rw [insertInto, if_neg (lt_asymm he), if_neg he.ne', ih hl]
    rfl

theorem entries_foldl_insert {m : TextMap} {l : List (String × String)}
    (h : (m.entries ++ l).Pairwise fun a b => a.1 < b.1) :
    (l.foldl (fun m e => m.insert e.1 e.2) m).entries = m.entries ++ l := by
  induction l generalizing m with
  | nil => exact (List.append_nil _).symm
  | cons e l ih =>
    have hbefore : ∀ f ∈ m.entries, f.1 < e.1 := fun f hf =>
      (List.pairwise_append.1 h).2.2 f hf e List.mem_cons_self
    have hinsert : (m.insert e.1 e.2).entries = m.entries ++ [e] := insertInto_eq_append hbefore
    have hsplit : m.entries ++ e :: l = (m.insert e.1 e.2).entries ++ l := by
      rw [hinsert, List.append_assoc]
      rfl
    rw [List.foldl_cons, hsplit, ih (hsplit ▸ h)]

theorem eq_of_entries {a b : TextMap} (h : a.entries = b.entries) : a = b := by
  cases a
  cases b
  cases h
  rfl

theorem ofList_entries (m : TextMap) : ofList m.entries = m :=
  eq_of_entries (entries_foldl_insert m.sorted)

end TextMap

theorem mapM_entries (l : List (String × String)) :
    (l.map fun e => (e.1, Json.str e.2)).mapM (fun
      | (k, .str v) => some (k, v)
      | _ => none) = some l := by
  induction l with
  | nil => rfl
  | cons e l ih =>
    rw [List.map_cons, List.mapM_cons, ih]
    rfl

instance : LawfulCodec TextMap 1 where
  roundTrips m := by
    refine ⟨fun _ => ?_, Json.noConfusion, .obj (List.forall_mem_map.2 fun e _ => .str e.2)⟩
    have hentries := congrArg (Option.map TextMap.ofList) (mapM_entries m.entries)
    rw [Option.map_some, m.ofList_entries] at hentries
    rw [← hentries]
    exact (Option.map_eq_bind ..).symm

@[simp]
theorem Json.nonemptyMap_eq (name : String) (m : TextMap) :
    nonemptyMap name m = present [(name, if m = .empty then none else some (encode m))] := by
  by_cases h : m = .empty
  · rw [if_pos h, h]
    rfl
  · have hentries : m.isEmpty = false := by
      refine Bool.eq_false_iff.2 fun hempty => h (TextMap.eq_of_entries ?_)
      exact List.isEmpty_iff.1 hempty
    rw [if_neg h, nonemptyMap, hentries]
    rfl

/-! ## Network cards and character devices -/

instance : LawfulCodec NetdevBackend 1 where
  roundTrips
    | .user => .bare (fun _ => rfl) rfl rfl
    | .tap _ _ _ => .tagged (fun _ => rfl) rfl rfl (by simp)
    | .bridge _ => .tagged (fun _ => rfl) rfl rfl (by simp)

instance : LawfulCodec Netdev 2 where
  roundTrips _ := .record (fun _ => rfl) rfl (by simp)

instance : LawfulCodec ChardevBackend 1 where
  roundTrips
    | .unixSocket _ _ _ => .tagged (fun _ => rfl) rfl rfl (by simp)
    | .tcpSocket _ _ _ _ => .tagged (fun _ => rfl) rfl rfl (by simp)
    | .file _ => .tagged (fun _ => rfl) rfl rfl (by simp)
    | .pty => .bare (fun _ => rfl) rfl rfl
    | .null => .bare (fun _ => rfl) rfl rfl

instance : LawfulCodec Chardev 2 where
  roundTrips _ := .record (fun _ => rfl) rfl (by simp)

instance : LawfulCodec MonitorProtocol 0 where
  roundTrips := Named.roundTrips (fun protocol => by cases protocol <;> decide) (by decide)

instance : LawfulCodec Monitor 1 where
  roundTrips _ := .record (fun _ => rfl) rfl (by simp)

/-! ## Objects -/

namespace ThrottleLimits

/-- No further limit has the name of one that is a number. -/
def Separate (l : ThrottleLimits) : Prop := ∀ e ∈ l.extra.entries, e.1 ∉ names

instance (l : ThrottleLimits) : Decidable l.Separate :=
  inferInstanceAs (Decidable (∀ e ∈ l.extra.entries, e.1 ∉ names))

def numbers (l : ThrottleLimits) : List (String × Option Json) :=
  [("iops-total", l.iopsTotal.map encode), ("iops-read", l.iopsRead.map encode),
    ("iops-write", l.iopsWrite.map encode), ("bps-total", l.bpsTotal.map encode),
    ("bps-read", l.bpsRead.map encode), ("bps-write", l.bpsWrite.map encode)]

def texts (l : ThrottleLimits) : List (String × Json) :=
  l.extra.entries.map fun e => (e.1, .str e.2)

theorem encode_eq (l : ThrottleLimits) : encode l = .obj (present l.numbers ++ l.texts) := by
  change Json.obj (_ ++ l.texts) = _
  simp [numbers]

variable {l : ThrottleLimits} (h : l.Separate)

theorem contains_numbers : ∀ f ∈ present l.numbers, names.contains f.1 = true := by
  intro f hf
  have hkey := (keys_present l.numbers).subset (List.mem_map_of_mem hf)
  exact List.contains_iff_mem.2 hkey

include h

theorem contains_texts : ∀ f ∈ l.texts, names.contains f.1 = false := by
  refine List.forall_mem_map.2 fun e he => ?_
  exact Bool.eq_false_iff.2 fun hname => h e he (List.contains_iff_mem.1 hname)

theorem filter_fields :
    (present l.numbers ++ l.texts).filter (fun f => names.contains f.1) = present l.numbers ∧
      (present l.numbers ++ l.texts).filter (fun f => !names.contains f.1) = l.texts := by
  have htexts := contains_texts h
  constructor
  · rw [List.filter_append, List.filter_eq_self.2 contains_numbers, List.filter_eq_nil_iff.2,
      List.append_nil]
    exact fun f hf => by simp only [htexts f hf, Bool.false_eq_true, not_false_eq_true]
  · rw [List.filter_append, List.filter_eq_nil_iff.2, List.filter_eq_self.2, List.nil_append]
    · exact fun f hf => by rw [htexts f hf, Bool.not_false]
    · exact fun f hf => by simp only [contains_numbers f hf, Bool.not_true, Bool.false_eq_true,
        not_false_eq_true]

theorem roundTrips : RoundTrips 1 l := by
  refine ⟨fun inside => ?_, ?_, ?_⟩
  · rw [encode_eq]
    have hextra : read? ⟨.obj l.texts, inside⟩ = some l.extra := read_encode l.extra inside
    have hnames : l.numbers.map Prod.fst = names := rfl
    change ((record? names ⟨.obj ((present l.numbers ++ l.texts).filter _), inside⟩).bind
      fun r => (read? ⟨.obj ((present l.numbers ++ l.texts).filter _), inside⟩).bind _) = some l
    rw [(filter_fields h).1, (filter_fields h).2, record?_present hnames (by decide), hextra]
    simp [numbers]
  · rw [encode_eq]
    exact Json.noConfusion
  · rw [encode_eq]
    refine .obj (List.forall_mem_append.2 ⟨?_, List.forall_mem_map.2 fun e _ => .str e.2⟩)
    change LegibleFields 0 (present l.numbers)
    simp [numbers]

-- a further limit that takes the name of a number is read as the number, which it is not
example : (decode? (α := ThrottleLimits) (encode
    { ThrottleLimits.empty with extra := .ofList [("iops-total", "900")] })).isNone = true := by
  decide +kernel

end ThrottleLimits

instance : LawfulCodec Secret 1 where
  roundTrips _ := .record (fun _ => rfl) rfl (by simp)

def ObjectKind.Separate (k : ObjectKind) : Prop :=
  ∀ limits, k = .throttleGroup limits → limits.Separate

theorem ObjectKind.roundTrips {k : ObjectKind} (h : k.Separate) : RoundTrips 2 k := by
  cases k with
  | secret s =>
    exact .taggedRecord (fun _ => rfl) rfl rfl rfl (.of_lawful s (by decide)) (by simp)
  | throttleGroup limits =>
    have hlimits := ThrottleLimits.roundTrips (h limits rfl)
    exact .tagged (fun _ => rfl) rfl rfl (by simp [hlimits.legible, readPresent?_slot_of hlimits])
  | rngRandom => exact .tagged (fun _ => rfl) rfl rfl (by simp)
  | rngBuiltin => exact .bare (fun _ => rfl) rfl rfl
  | rngEgd => exact .tagged (fun _ => rfl) rfl rfl (by simp)
  | tpmEmulator => exact .tagged (fun _ => rfl) rfl rfl (by simp)
  | tpmPassthrough => exact .tagged (fun _ => rfl) rfl rfl (by simp)

theorem ObjectSpec.roundTrips {o : ObjectSpec} (h : o.kind.Separate) : RoundTrips 3 o := by
  have hkind := ObjectKind.roundTrips h
  exact .record (fun _ => rfl) rfl (by simp [hkind.legible, readPresent?_slot_of hkind])

end GuestSpec
