import GuestSpec.Proofs.Parameters.Indexed
import GuestSpec.Proofs.Text.Split

/-!
# Parameters as an object sees them

An object has its own value for a key where the key with the name of the object behind it is set,
and otherwise sees the value of the key itself. Keys that only the object has come behind all
others, and what is set for other objects makes no difference to it.
-/

namespace GuestSpec.Parameters

variable {p q : Parameters} {object k v : String} {e : String × String}

/-! ## Values of the object's own -/

/-- The values that are meant for an object, under the keys without its name. -/
def own (p : Parameters) (object : String) : List (String × String) :=
  p.entries.filterMap (scopedValue? ("_" ++ object))

theorem scopedValue?_eq_some_iff :
    scopedValue? ("_" ++ object) e = some (k, v) ↔ k ≠ "" ∧ e = (k ++ "_" ++ object, v) := by
  rw [scopedValue?, String.append_assoc]
  split
  · next base hbase =>
    have he : e.1 = base ++ ("_" ++ object) := Text.beforeTrailing?_eq_some_iff.1 hbase
    split
    · next hempty =>
      refine iff_of_false nofun ?_
      rintro ⟨hk, rfl⟩
      rw [Text.beforeTrailing?_eq_some_iff.2 rfl] at hbase
      exact hk ((Option.some.inj hbase).trans hempty)
    · next hempty =>
      rw [Option.some.injEq, Prod.mk.injEq, Prod.ext_iff, he, String.append_left_inj]
      constructor
      · rintro ⟨rfl, rfl⟩
        exact ⟨hempty, rfl, rfl⟩
      · rintro ⟨-, rfl, rfl⟩
        exact ⟨rfl, rfl⟩
  · next hnone =>
    refine iff_of_false nofun ?_
    rintro ⟨-, rfl⟩
    rw [Text.beforeTrailing?_eq_some_iff.2 rfl] at hnone
    cases hnone

theorem mem_own : (k, v) ∈ p.own object ↔ k ≠ "" ∧ p.get? (k ++ "_" ++ object) = some v := by
  rw [own, List.mem_filterMap, get?_eq_some_iff]
  constructor
  · rintro ⟨e, he, hvalue⟩
    obtain ⟨hk, rfl⟩ := scopedValue?_eq_some_iff.1 hvalue
    exact ⟨hk, he⟩
  · rintro ⟨hk, hmem⟩
    exact ⟨_, hmem, scopedValue?_eq_some_iff.2 ⟨hk, rfl⟩⟩

/-- With the name of the object behind them, the keys of its own values are keys of the parameters,
in the same order. -/
theorem keys_own_sublist (p : Parameters) (object : String) :
    (((p.own object).map Prod.fst).map (· ++ "_" ++ object)).Sublist p.keys := by
  rw [own, keys]
  induction p.entries with
  | nil => exact .slnil
  | cons e l ih =>
    rw [List.filterMap_cons]
    split
    · exact ih.cons _
    · next f hf =>
      obtain ⟨-, rfl⟩ := scopedValue?_eq_some_iff.1 hf
      exact ih.cons_cons _

theorem nodup_keys_own (p : Parameters) (object : String) :
    ((p.own object).map Prod.fst).Nodup :=
  ((keys_own_sublist p object).nodup p.nodup).of_map _

theorem mem_keys_own :
    k ∈ (p.own object).map Prod.fst ↔ k ≠ "" ∧ k ++ "_" ++ object ∈ p.keys := by
  have hvalue : k ∈ (p.own object).map Prod.fst ↔ ∃ v, (k, v) ∈ p.own object := by simp
  rw [hvalue, ← contains_iff, contains, Option.isSome_iff_exists]
  simp only [mem_own, exists_and_left]

/-! ## The parameters as a whole -/

/-- Parameters as an object sees them: the value of the object's own key where there is one and
otherwise that of the key itself, and all keys in order with those behind them that are set for the
object alone, in the order of its own keys. -/
structure IsScopeOf (q p : Parameters) (object : String) : Prop where
  value : ∀ k, k ≠ "" → q.get? k = (p.get? (k ++ "_" ++ object)).or (p.get? k)
  nameless : q.get? "" = p.get? ""
  keys : ∃ introduced, q.keys = p.keys ++ introduced ∧
    (introduced.map (· ++ "_" ++ object)).Sublist p.keys ∧
    ∀ k, k ∈ introduced ↔ k ≠ "" ∧ k ∉ p.keys ∧ k ++ "_" ++ object ∈ p.keys

theorem lookup_own (p : Parameters) (object k : String) :
    (p.own object).lookup k = if k = "" then none else p.get? (k ++ "_" ++ object) := by
  ext v
  rw [lookup_eq_some_iff_mem (nodup_keys_own p object), mem_own]
  split
  · next hk => exact iff_of_false (fun h => h.1 hk) nofun
  · next hk => exact and_iff_right hk

theorem get?_scopedTo (p : Parameters) (object k : String) :
    (p.scopedTo object).get? k =
      (if k = "" then none else p.get? (k ++ "_" ++ object)).or (p.get? k) := by
  have hvalues : (p.scopedTo object).get? k = ((p.own object).reverse.lookup k).or (p.get? k) :=
    get?_insertAll p _ k
  rw [hvalues, lookup_reverse (nodup_keys_own p object), lookup_own]

theorem isScopeOf_scopedTo (p : Parameters) (object : String) :
    (p.scopedTo object).IsScopeOf p object where
  value k hk := by rw [get?_scopedTo, if_neg hk]
  nameless := by rw [get?_scopedTo, if_pos rfl, Option.none_or]
  keys := by
    let ownKeys := (p.own object).map Prod.fst
    have hremove : (ownKeys.removeAll p.keys).Sublist ownKeys := List.filter_sublist
    refine ⟨ownKeys.removeAll p.keys, ?_, ?_, fun k => ?_⟩
    · have hkeys : (p.scopedTo object).keys = (p.keys ++ ownKeys).eraseDups := keys_insertAll p _
      rw [hkeys, List.eraseDups_append, eraseDups_eq_self p.coherent.nodup,
        eraseDups_eq_self (hremove.nodup (nodup_keys_own p object))]
    · exact (hremove.map _).trans (keys_own_sublist p object)
    · have hmem : k ∈ ownKeys.removeAll p.keys ↔ k ∈ ownKeys ∧ k ∉ p.keys := by
        simp [List.removeAll]
      rw [hmem, mem_keys_own, and_assoc, and_congr_right_iff]
      exact fun _ => and_comm

/-- Whatever parameters are set in whatever order, an object sees its own values where it has them
and the common ones elsewhere, in their order and with its own new keys behind them. An index of the
keys stays in step. Changes under foreign keys only reach keys that are foreign themselves or whose
own form is. -/
theorem scopes_apart (l : List (String × String)) (object : String) :
    ((ofList l).scopedTo object).IsScopeOf (ofList l) object ∧
      ((ofList l).scopedTo object).Coherent ∧
      ((Indexed.ofList l).scopedTo object).Shows ((ofList l).scopedTo object) ∧
      ∀ (foreign : Set String) (other : Parameters),
        (∀ k ∉ foreign, other.get? k = (ofList l).get? k) →
          ∀ k ∉ foreign, k ++ "_" ++ object ∉ foreign →
            (other.scopedTo object).get? k = ((ofList l).scopedTo object).get? k := by
  refine ⟨isScopeOf_scopedTo _ _, coherent _, (Indexed.shows_ofList l).scopedTo object, ?_⟩
  intro foreign other hother k hk hown
  rw [get?_scopedTo, get?_scopedTo, hother k hk, hother _ hown]

/-- What is set for another disk leaves the format of this one alone. -/
theorem scopes_apart_format :
    ((ofList [("format", "qcow2"), ("format_b", "vdi")]).scopedTo "a").get? "format" =
      ((ofList [("format", "qcow2")]).scopedTo "a").get? "format" := by
  have hformat : ∀ k ∉ ({"format_b"} : Set String),
      (ofList [("format", "qcow2"), ("format_b", "vdi")]).get? k =
        (ofList [("format", "qcow2")]).get? k := by
    intro k hk
    have hne : k ≠ "format_b" := hk
    rw [get?_ofList, get?_ofList]
    simp [lookup_cons_eq_ite, hne]
  exact (scopes_apart [("format", "qcow2")] "a").2.2.2 {"format_b"} _ hformat "format"
    (by decide) (by decide)

example :
    ((ofList [("k", "0"), ("k_a", "1"), ("k_a_a", "2"), ("j_a_a", "3")]).scopedTo "a").entries =
      [("k", "1"), ("k_a", "2"), ("k_a_a", "2"), ("j_a_a", "3"), ("j_a", "3")] := by
  decide +kernel

end GuestSpec.Parameters
