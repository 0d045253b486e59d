import GuestSpec.Json.Codec
import GuestSpec.Json.Reader
import Mathlib

/-!
# Documents that are read back

A value makes a round trip when the document that is written for it is read as this value again,
inside a tagged value and outside of one. Its document must also be such that a text of it can be
read: all its numbers are unsigned integers of 64 bits, and its values do not nest too deep.
-/

namespace GuestSpec

open Json

namespace Json

/-- A document without numbers other than unsigned integers of 64 bits, whose lists and objects
stand at most so deep inside each other. -/
inductive Legible : Nat → Json → Prop
  | null {depth : Nat} : Legible depth .null
  | bool {depth : Nat} (b : Bool) : Legible depth (.bool b)
  | int {depth n : Nat} (h : n ≤ maxWord) : Legible depth (.int n)
  | str {depth : Nat} (s : String) : Legible depth (.str s)
  | arr {depth : Nat} {items : List Json} (h : ∀ j ∈ items, Legible depth j) :
      Legible (depth + 1) (.arr items)
  | obj {depth : Nat} {fields : List (String × Json)} (h : ∀ f ∈ fields, Legible depth f.2) :
      Legible (depth + 1) (.obj fields)

theorem Legible.mono {d e : Nat} {j : Json} (h : j.Legible d) (hle : d ≤ e) : j.Legible e := by
  induction h generalizing e with
  | null => exact .null
  | bool b => exact .bool b
  | int h => exact .int h
  | str s => exact .str s
  | arr _ ih =>
    obtain ⟨e, rfl⟩ := Nat.exists_eq_add_of_lt hle
    exact .arr fun j hj => ih j hj (by omega)
  | obj _ ih =>
    obtain ⟨e, rfl⟩ := Nat.exists_eq_add_of_lt hle
    exact .obj fun f hf => ih f hf (by omega)

end Json

/-- What is written for a value is read as the value. It is legible, and it is not null, which
stands for no value. -/
structure RoundTrips {α : Type} [Codec α] (depth : Nat) (a : α) : Prop where
  read : ∀ inside, read? ⟨encode a, inside⟩ = some a
  notNull : encode a ≠ .null
  legible : (encode a).Legible depth

/-- Types of which all values make a round trip, through documents of limited depth. -/
class LawfulCodec (α : Type) [Codec α] (depth : outParam Nat) : Prop where
  roundTrips : ∀ a : α, RoundTrips depth a

section Lawful

variable {α : Type} [Codec α] {depth : Nat}

@[simp]
theorem read_encode [LawfulCodec α depth] (a : α) (inside : Bool) :
    read? ⟨encode a, inside⟩ = some a :=
  (LawfulCodec.roundTrips a).read inside

@[simp]
theorem legible_encode [LawfulCodec α depth] (a : α) {d : Nat} (h : depth ≤ d) :
    (encode a).Legible d :=
  (LawfulCodec.roundTrips a).legible.mono h

theorem RoundTrips.of_lawful [LawfulCodec α depth] (a : α) {d : Nat} (h : depth ≤ d) :
    RoundTrips d a :=
  ⟨read_encode a, (LawfulCodec.roundTrips a).notNull, legible_encode a h⟩

end Lawful

/-! ## Values without parts -/

instance : LawfulCodec Bool 0 where
  roundTrips b := ⟨fun _ => rfl, Json.noConfusion, .bool b⟩

instance : LawfulCodec String 0 where
  roundTrips s := ⟨fun _ => rfl, Json.noConfusion, .str s⟩

theorem roundTrips_word {α : Type} [Codec α] {max : Nat} {toNat : α → Nat} {ofNat : Nat → α}
    (hwrite : ∀ a : α, encode a = .int (toNat a))
    (hread : ∀ p, read? (α := α) p = (p.value.natUpTo? max).map ofNat)
    (hinverse : ∀ a, ofNat (toNat a) = a) (hmax : max ≤ maxWord) {a : α} (h : toNat a ≤ max) :
    RoundTrips 0 a := by
  refine ⟨fun inside => ?_, ?_, ?_⟩
  · have hword : natUpTo? max (encode a) = some (toNat a) := by
      rw [hwrite]
      exact if_pos h
    rw [hread, hword, Option.map_some, hinverse]
  · rw [hwrite]
    exact Json.noConfusion
  · rw [hwrite]
    exact .int (h.trans hmax)

instance : LawfulCodec UInt8 0 where
  roundTrips n := roundTrips_word (fun _ => rfl) (fun _ => rfl) (fun _ => UInt8.ofNat_toNat)
    (by decide) (Nat.le_of_lt_succ n.toNat_lt)

instance : LawfulCodec UInt16 0 where
  roundTrips n := roundTrips_word (fun _ => rfl) (fun _ => rfl) (fun _ => UInt16.ofNat_toNat)
    (by decide) (Nat.le_of_lt_succ n.toNat_lt)

instance : LawfulCodec UInt32 0 where
  roundTrips n := roundTrips_word (fun _ => rfl) (fun _ => rfl) (fun _ => UInt32.ofNat_toNat)
    (by decide) (Nat.le_of_lt_succ n.toNat_lt)

instance : LawfulCodec UInt64 0 where
  roundTrips n := roundTrips_word (fun _ => rfl) (fun _ => rfl) (fun _ => UInt64.ofNat_toNat)
    (by decide) (Nat.le_of_lt_succ n.toNat_lt)

theorem Named.roundTrips {α : Type} [Named α] (hall : ∀ a : α, a ∈ Named.all)
    (hname : (Named.all (α := α)).map Named.name |>.Nodup) (a : α) : RoundTrips 0 a := by
  refine ⟨fun _ => ?_, Json.noConfusion, .str _⟩
  change Named.ofName? (Named.name a) = some a
  obtain ⟨b, hb⟩ : ∃ b, Named.ofName? (α := α) (Named.name a) = some b :=
    Option.isSome_iff_exists.1 (List.find?_isSome.2 ⟨a, hall a, beq_self_eq_true _⟩)
  have heq := List.find?_some hb
  have hmem := List.mem_of_find?_eq_some hb
  rw [hb, List.inj_on_of_nodup_map hname hmem (hall a) (eq_of_beq heq)]

theorem roundTrips_list {α : Type} [Codec α] {depth : Nat} {l : List α}
    (h : ∀ a ∈ l, RoundTrips depth a) : RoundTrips (depth + 1) l := by
  refine ⟨fun inside => ?_, Json.noConfusion, .arr (List.forall_mem_map.2 fun a ha => ?_)⟩
  · change (l.map encode).mapM (fun j => read? ⟨j, inside⟩) = some l
    induction l with
    | nil => rfl
    | cons a l ih =>
      obtain ⟨ha, hl⟩ := List.forall_mem_cons.1 h
      rw [List.map_cons, List.mapM_cons, ha.read, ih hl]
      rfl
  · exact (h a ha).legible

instance {α : Type} [Codec α] {depth : Nat} [LawfulCodec α depth] :
    LawfulCodec (List α) (depth + 1) where
  roundTrips _ := roundTrips_list fun a _ => LawfulCodec.roundTrips a

namespace Json

/-! ## Records -/

/-- The fields of a record that have a value. -/
def present (fields : List (String × Option Json)) : List (String × Json) :=
  fields.filterMap fun f => f.2.map (f.1, ·)

@[simp]
theorem present_append (xs ys : List (String × Option Json)) :
    present xs ++ present ys = present (xs ++ ys) :=
  List.filterMap_append.symm

section

variable {α : Type} [Codec α]

@[simp]
theorem field_eq (name : String) (a : α) : field name a = present [(name, some (encode a))] := rfl

@[simp]
theorem optional_eq (name : String) (a : Option α) :
    optional name a = present [(name, a.map encode)] := by
  cases a <;> rfl

@[simp]
theorem nonempty_eq (name : String) (l : List α) :
    nonempty name l = present [(name, if l = [] then none else some (encode l))] := by
  cases l <;> rfl

end

theorem keys_present (fields : List (String × Option Json)) :
    ((present fields).map Prod.fst).Sublist (fields.map Prod.fst) := by
  induction fields with
  | nil => exact .slnil
  | cons f fields ih =>
    obtain ⟨name, value⟩ := f
    cases value with
    | none => exact ih.cons _
    | some j => exact ih.cons_cons _

@[simp]
theorem record?_present {fields : List (String × Option Json)} {names : List String}
    (hnames : fields.map Prod.fst = names) (hnodup : names.Nodup) (inside : Bool) :
    record? names ⟨.obj (present fields), inside⟩ = some ⟨present fields, inside⟩ := by
  have hsub := keys_present fields
  rw [hnames] at hsub
  have hall : ((present fields).map Prod.fst).all (names.contains ·) = true := by
    rw [List.all_eq_true]
    exact fun k hk => List.contains_iff_mem.2 (hsub.subset hk)
  rw [record?, hall, decide_eq_true (hsub.nodup hnodup)]
  rfl

/-- The fields of a record make a value. -/
def Builds {α : Type} (names : List String) (fields : List (String × Json))
    (build : Record → Option α) (a : α) : Prop :=
  ∀ inside, (record? names ⟨.obj fields, inside⟩).bind build = some a

section

variable {α : Type} {names : List String} {build : Record → Option α} {a : α}

-- What is built is looked at when the fields are known, and not before.
@[congr]
theorem builds_congr {fields fields' : List (String × Json)} (h : fields = fields') :
    Builds names fields build a = Builds names fields' build a := by
  rw [h]

@[simp]
theorem builds_present {fields : List (String × Option Json)}
    (hnames : fields.map Prod.fst = names) (hnodup : names.Nodup) :
    Builds names (present fields) build a ↔
      ∀ inside, build ⟨present fields, inside⟩ = some a := by
  refine forall_congr' fun inside => ?_
  rw [record?_present hnames hnodup, Option.bind_some]

end

/-- A field as a part of a document, if it has a value. -/
def slot (inside : Bool) (value : Option Json) : Option Part := value.map (⟨·, inside⟩)

@[simp]
theorem find?_nil (inside : Bool) (name : String) :
    Record.find? ⟨present [], inside⟩ name = none := rfl

@[simp]
theorem find?_cons (name key : String) (value : Option Json)
    (fields : List (String × Option Json)) (inside : Bool) :
    Record.find? ⟨present ((key, value) :: fields), inside⟩ name =
      if name = key then (slot inside value).or (Record.find? ⟨present fields, inside⟩ name)
      else Record.find? ⟨present fields, inside⟩ name := by
  cases value with
  | none =>
    rw [slot, Option.map_none, Option.none_or, ite_self]
    rfl
  | some j =>
    change (List.lookup name ((key, j) :: present fields)).map _ = _
    by_cases h : name = key
    · rw [if_pos h, List.lookup_cons, beq_iff_eq.2 h]
      rfl
    · rw [if_neg h, List.lookup_cons, beq_eq_false_iff_ne.2 h]
      rfl

section

variable {α : Type} [Codec α] {depth : Nat} (r : Record) (name : String)

def readPresent? (p : Option Part) : Option α := p.bind read?

def readOptional? : Option Part → Option (Option α)
  | none => some none
  | some p => read? p

def readDefault? (default : α) : Option Part → Option α
  | none => some default
  | some p => read? p

@[simp]
theorem get_eq : r.get (α := α) name = readPresent? (r.find? name) := rfl

@[simp]
theorem get?_eq : r.get? (α := α) name = readOptional? (r.find? name) := by
  rw [Record.get?]
  cases r.find? name <;> rfl

@[simp]
theorem getD_eq (default : α) : r.getD name default = readDefault? default (r.find? name) := by
  rw [Record.getD]
  cases r.find? name <;> rfl

theorem readPresent?_slot_of {a : α} (h : RoundTrips depth a) (inside : Bool) :
    readPresent? (slot inside (some (encode a))) = some a :=
  h.read inside

@[simp]
theorem readPresent?_slot [LawfulCodec α depth] (a : α) (inside : Bool) :
    readPresent? (slot inside (some (encode a))) = some a :=
  read_encode a inside

@[simp]
theorem readOptional?_slot [LawfulCodec α depth] (o : Option α) (inside : Bool) :
    readOptional? (slot inside (o.map encode)) = some o := by
  cases o with
  | none => rfl
  | some a =>
    have ha : RoundTrips depth a := LawfulCodec.roundTrips a
    have hread : read? (α := Option α) ⟨encode a, inside⟩ =
        (read? ⟨encode a, inside⟩).map some := by
      cases hnull : encode a with
      | null => exact absurd hnull ha.notNull
      | _ => rfl
    exact hread.trans (congrArg _ (ha.read inside))

@[simp]
theorem readDefault?_slot [DecidableEq α] [LawfulCodec α depth] (usual a : α) (inside : Bool) :
    readDefault? usual (slot inside (if a = usual then none else some (encode a))) = some a := by
  split
  · next husual => exact congrArg some husual.symm
  · exact read_encode a inside

end

/-! ## Contents of fields -/

def LegibleValue (depth : Nat) (value : Option Json) : Prop := ∀ j ∈ value, j.Legible depth

def LegibleFields (depth : Nat) (fields : List (String × Json)) : Prop :=
  ∀ f ∈ fields, f.2.Legible depth

def Untagged (tag : String) (fields : List (String × Json)) : Prop := ∀ f ∈ fields, f.1 ≠ tag

section

variable {depth : Nat} {tag name : String} {value : Option Json}
  {fields : List (String × Option Json)}

@[simp]
theorem legibleValue_some (j : Json) : LegibleValue depth (some j) ↔ j.Legible depth :=
  ⟨fun h => h j rfl, fun h _ hj => Option.some.inj hj ▸ h⟩

@[simp]
theorem legibleValue_map {α : Type} [Codec α] {d : Nat} [LawfulCodec α d] (o : Option α)
    (h : d ≤ depth) : LegibleValue depth (o.map encode) := by
  intro j hj
  obtain ⟨a, -, rfl⟩ := Option.mem_map.1 hj
  exact legible_encode a h

@[simp]
theorem legibleValue_ite {usually : Prop} [Decidable usually] {j : Json}
    (h : j.Legible depth) : LegibleValue depth (if usually then none else some j) := by
  split
  · exact fun _ hnone => nomatch hnone
  · exact (legibleValue_some j).2 h

@[simp]
theorem legibleFields_nil : LegibleFields depth (present []) := fun _ h => nomatch h

@[simp]
theorem legibleFields_cons : LegibleFields depth (present ((name, value) :: fields)) ↔
    LegibleValue depth value ∧ LegibleFields depth (present fields) := by
  cases value with
  | none => simp [LegibleFields, LegibleValue, present]
  | some j => simp [LegibleFields, present]

@[simp]
theorem untagged_nil : Untagged tag (present []) := fun _ h => nomatch h

@[simp]
theorem untagged_cons : Untagged tag (present ((name, value) :: fields)) ↔
    (value.isSome → name ≠ tag) ∧ Untagged tag (present fields) := by
  cases value with
  | none => simp [Untagged, present]
  | some j => simp [Untagged, present]

end

/-! ## Tagged values -/

theorem filter_tag {tag : String} {fields : List (String × Json)} (h : Untagged tag fields)
    (name : Json) :
    ((tag, name) :: fields).filter (·.1 == tag) = [(tag, name)] ∧
      ((tag, name) :: fields).filter (·.1 != tag) = fields := by
  constructor
  · rw [List.filter_cons_of_pos (by simp), List.filter_eq_nil_iff.2]
    exact fun f hf => by simpa using h f hf
  · rw [List.filter_cons_of_neg (by simp), List.filter_eq_self.2]
    exact fun f hf => by simpa using h f hf

theorem tagged?_tagging {α : Type} {tag name : String} {cases : List (String × (Part → Option α))}
    {fields : List (String × Json)} (h : Untagged tag fields) (inside : Bool) :
    tagged? tag cases ⟨tagging tag name fields, inside⟩ =
      (cases.lookup name).bind (· ⟨.obj fields, true⟩) := by
  rw [tagging, tagged?, (filter_tag h _).1, (filter_tag h _).2]
  rfl

end Json

namespace RoundTrips

variable {α : Type} [Codec α] {a : α} {depth : Nat}

theorem record {names : List String} {fields : List (String × Json)}
    {build : Json.Record → Option α} (hread : ∀ p, read? p = (record? names p).bind build)
    (hwrite : encode a = .obj fields)
    (h : LegibleFields depth fields ∧ Builds names fields build a) : RoundTrips (depth + 1) a := by
  refine ⟨fun inside => ?_, ?_, ?_⟩
  · rw [hread, hwrite, h.2]
  · rw [hwrite]
    exact Json.noConfusion
  · rw [hwrite]
    exact .obj h.1

variable {tag name : String} {cases : List (String × (Part → Option α))}
  (hread : ∀ p, read? p = tagged? tag cases p)

include hread

/-- Tagged values are read back when their cases read the fields beside the tag. -/
theorem tagged {fields : List (String × Json)} {case : Part → Option α}
    (hwrite : encode a = tagging tag name fields) (hcase : cases.lookup name = some case)
    (h : LegibleFields depth fields ∧ Untagged tag fields ∧
      case ⟨.obj fields, true⟩ = some a) : RoundTrips (depth + 1) a := by
  refine ⟨fun inside => ?_, ?_, ?_⟩
  · rw [hread, hwrite, tagged?_tagging h.2.1, hcase]
    exact h.2.2
  · rw [hwrite]
    exact Json.noConfusion
  · rw [hwrite]
    exact .obj (List.forall_mem_cons.2 ⟨.str name, h.1⟩)

theorem bare (hwrite : encode a = tagging tag name [])
    (hcase : cases.lookup name = some (noFields? a)) : RoundTrips (depth + 1) a :=
  tagged hread hwrite hcase ⟨legibleFields_nil, untagged_nil, rfl⟩

theorem taggedRecord {β : Type} [Codec β] {b : β} {wrap : β → α} {fields : List (String × Json)}
    (hwrite : encode (wrap b) = taggingRecord tag name (encode b))
    (hrecord : encode b = .obj fields)
    (hcase : cases.lookup name = some fun p => (read? p).map wrap) (hb : RoundTrips (depth + 1) b)
    (htag : Untagged tag fields) : RoundTrips (depth + 1) (wrap b) := by
  rw [hrecord] at hwrite
  refine tagged hread hwrite hcase ⟨?_, htag, ?_⟩
  · have hlegible := hb.legible
    rw [hrecord] at hlegible
    cases hlegible with
    | obj h => exact h
  · rw [← hrecord]
    exact congrArg _ (hb.read true)

end RoundTrips

end GuestSpec
