import GuestSpec.Json.Printer
import GuestSpec.Proofs.Json.RoundTrip
import GuestSpec.Proofs.Text.Numeral
import Mathlib

/-!
# Texts that are read back

A relation says which texts spell a value: white space may stand in front of items, names and values
and in front of closing brackets. Every text that spells a value is read as this value, and both
texts that are written for a legible value spell it.
-/

namespace GuestSpec.Json

/-! ## White space -/

def Blank (s : List Char) : Prop := ∀ c ∈ s, c ∈ [' ', '\n', '\t', '\r']

theorem Blank.nil : Blank [] := fun _ h => nomatch h

theorem blank_newline (level : Nat) : Blank (newline level) := by
  refine List.forall_mem_cons.2 ⟨by decide, fun c hc => ?_⟩
  rw [List.eq_of_mem_replicate hc]
  decide

theorem skipSpace_append {w s : List Char} (h : Blank w) : skipSpace (w ++ s) = skipSpace s := by
  induction w with
  | nil => rfl
  | cons c w ih =>
    obtain ⟨hc, hw⟩ := List.forall_mem_cons.1 h
    refine (List.dropWhile_cons_of_pos ?_).trans (ih hw)
    simpa [or_assoc] using hc

theorem skipSpace_cons {c : Char} {s : List Char} (h : c ∉ [' ', '\n', '\t', '\r']) :
    skipSpace (c :: s) = c :: s := by
  refine List.dropWhile_cons_of_neg ?_
  simpa [or_assoc] using h

theorem skipSpace_idem (s : List Char) : skipSpace (skipSpace s) = skipSpace s :=
  List.dropWhile_idempotent ..

/-! ## Strings -/

theorem hex4?_append {s : List Char} (h : s.length = 4) (r : List Char) :
    hex4? (s ++ r) = (Numeral.digits? 16 s).map (·, r) := by
  obtain ⟨a, b, c, d, rfl⟩ := List.length_eq_four.1 h
  rfl

theorem readUnits?_hex {c : Char} (h : c.toNat < 0x20) (r : List Char) :
    readUnits? (Numeral.padZeros 4 (Numeral.hex c.toNat) ++ r) = some (c, r) := by
  have hlength : (Numeral.padZeros 4 (Numeral.hex c.toNat)).length = 4 :=
    Numeral.length_padZeros (Numeral.length_hex (h.trans (by decide)))
  rw [readUnits?, hex4?_append hlength, Numeral.digits?_padZeros_hex]
  simp only [Option.map_some, Option.bind_eq_bind, Option.bind_some]
  rw [if_neg (by omega), if_neg (by omega), Char.ofNat_toNat]

/-- A character stands in a string as an escape of one letter, as an escape with its code, or as
itself. -/
theorem escapeChar_cases (c : Char) :
    (∃ l, escapeChar c = ['\\', l] ∧ unescape? l = some c) ∨
      (c.toNat < 0x20 ∧
        escapeChar c = '\\' :: 'u' :: Numeral.padZeros 4 (Numeral.hex c.toNat)) ∨
      (c ≠ '"' ∧ c ≠ '\\' ∧ ¬ c.toNat < 0x20 ∧ escapeChar c = [c]) := by
  unfold escapeChar
  split_ifs with hquote hslash hline hreturn htab hback hfeed hcontrol
  · exact .inl ⟨'"', rfl, congrArg some hquote.symm⟩
  · exact .inl ⟨'\\', rfl, congrArg some hslash.symm⟩
  · exact .inl ⟨'n', rfl, congrArg some hline.symm⟩
  · exact .inl ⟨'r', rfl, congrArg some hreturn.symm⟩
  · exact .inl ⟨'t', rfl, congrArg some htab.symm⟩
  · exact .inl ⟨'b', rfl, congrArg some hback.symm⟩
  · exact .inl ⟨'f', rfl, congrArg some hfeed.symm⟩
  · exact .inr (.inl ⟨hcontrol, rfl⟩)
  · exact .inr (.inr ⟨hquote, hslash, hcontrol, rfl⟩)

theorem readString?_letter {l c : Char} (h : unescape? l = some c) (fuel : Nat)
    (acc s : List Char) :
    readString? (fuel + 1) acc ('\\' :: l :: s) = readString? fuel (c :: acc) s := by
  have hunit : l ≠ 'u' := by
    rintro rfl
    exact nomatch h
  rw [readString?.eq_def]
  simp only [Char.reduceEq, if_false, if_true, h]

theorem readString?_escapeChar (fuel : Nat) (acc : List Char) (c : Char) (s : List Char) :
    readString? (fuel + 1) acc (escapeChar c ++ s) = readString? fuel (c :: acc) s := by
  obtain ⟨l, hc, hletter⟩ | ⟨hcode, hc⟩ | ⟨hquote, hslash, hcontrol, hc⟩ := escapeChar_cases c
  · rw [hc]
    exact readString?_letter hletter fuel acc s
  · rw [hc]
    change readString? (fuel + 1) acc ('\\' :: 'u' :: (_ ++ s)) = _
    rw [readString?.eq_def]
    simp [readUnits?_hex hcode]
  · rw [hc]
    change readString? (fuel + 1) acc (c :: s) = _
    rw [readString?.eq_def]
    simp [hquote, hslash, hcontrol]

theorem readString?_flatMap (fuel : Nat) (acc s r : List Char) (h : s.length < fuel) :
    readString? fuel acc (s.flatMap escapeChar ++ '"' :: r) =
      some (String.ofList (acc.reverse ++ s), r) := by
  induction s generalizing fuel acc with
  | nil =>
    obtain ⟨fuel, rfl⟩ := Nat.exists_eq_add_of_lt h
    rw [List.append_nil]
    rfl
  | cons c s ih =>
    obtain ⟨fuel, rfl⟩ := Nat.exists_eq_add_of_lt h
    rw [List.flatMap_cons, List.append_assoc, readString?_escapeChar, ih]
    · simp
    · simp only [List.length_cons]
      omega

theorem length_escapeChar_pos (c : Char) : 0 < (escapeChar c).length := by
  obtain ⟨l, hc, -⟩ | ⟨-, hc⟩ | ⟨-, -, -, hc⟩ := escapeChar_cases c <;> simp [hc]

theorem length_le_flatMap_escapeChar (s : List Char) :
    s.length ≤ (s.flatMap escapeChar).length := by
  induction s with
  | nil => exact Nat.le_refl 0
  | cons c s ih =>
    have hpos := length_escapeChar_pos c
    rw [List.flatMap_cons, List.length_append, List.length_cons]
    omega

/-- A string is read back behind its opening quote. -/
theorem readString?_renderString (s : String) (r : List Char) :
    ∃ body, renderString s ++ r = '"' :: body ∧
      readString? (body.length + 1) [] body = some (s, r) := by
  refine ⟨s.toList.flatMap escapeChar ++ '"' :: r, by simp [renderString], ?_⟩
  have hlength := length_le_flatMap_escapeChar s.toList
  rw [readString?_flatMap]
  · simp
  · rw [List.length_append]
    omega

/-! ## Numbers -/

/-- What stands behind a number does not continue it. -/
def Stops (s : List Char) : Prop :=
  ∀ c ∈ s.head?, c.isDigit = false ∧ c ≠ '.' ∧ c ≠ 'e' ∧ c ≠ 'E'

theorem Stops.nil : Stops [] := fun _ h => nomatch h

theorem Stops.cons {c : Char} {s : List Char}
    (h : c.isDigit = false ∧ c ≠ '.' ∧ c ≠ 'e' ∧ c ≠ 'E') : Stops (c :: s) :=
  fun _ hd => Option.some.inj hd ▸ h

theorem Stops.blank_append {w s : List Char} (h : Blank w) (hs : Stops s) : Stops (w ++ s) := by
  cases w with
  | nil => exact hs
  | cons c w =>
    have hc := h c List.mem_cons_self
    simp only [List.mem_cons, List.not_mem_nil, or_false] at hc
    obtain rfl | rfl | rfl | rfl := hc <;> exact .cons (by decide)

theorem spanDigits_decimal (n : Nat) {s : List Char} (hs : Stops s) :
    Decimal.spanDigits (Numeral.decimal n ++ s) = (Numeral.decimal n, s) := by
  have hdigits : ∀ c ∈ Numeral.decimal n, c.isDigit = true := Numeral.isDigit_of_mem_decimal
  rw [Decimal.spanDigits, List.takeWhile_append_of_pos hdigits,
    List.dropWhile_append_of_pos hdigits]
  cases s with
  | nil => simp
  | cons c s =>
    have hc := (hs c rfl).1
    rw [List.takeWhile_cons_of_neg (by simp [hc]), List.dropWhile_cons_of_neg (by simp [hc]),
      List.append_nil]

/-- The digits of a number of 64 bits are counted without being cut off. -/
theorem foldl_pushWhole {ds : List Char} {acc n : Nat}
    (hds : ∀ c ∈ ds, ∃ d < 10, c = Numeral.digitChar d)
    (hvalue : Numeral.accumulate? 10 acc ds = some n) (hn : n ≤ maxWord) :
    ds.foldl (fun a c => Significand.pushWhole a (digitOf c)) ⟨acc, false, 0⟩ = ⟨n, false, 0⟩ ∧
      acc ≤ n := by
  induction ds generalizing acc with
  | nil =>
    obtain rfl := Option.some.inj hvalue
    exact ⟨rfl, Nat.le_refl _⟩
  | cons c ds ih =>
    obtain ⟨⟨d, hd, rfl⟩, hrest⟩ := List.forall_mem_cons.1 hds
    rw [Numeral.accumulate?_digitChar (by decide) hd] at hvalue
    obtain ⟨hfold, hle⟩ := ih hrest hvalue
    have hdigit : digitOf (Numeral.digitChar d) = d :=
      (by decide : ∀ d < 10, digitOf (Numeral.digitChar d) = d) d hd
    have hpush : Significand.pushWhole ⟨acc, false, 0⟩ d = ⟨acc * 10 + d, false, 0⟩ := by
      rw [Significand.pushWhole, if_neg]
      simp only [Bool.false_or, decide_eq_true_eq]
      omega
    rw [List.foldl_cons, hdigit, hpush]
    exact ⟨hfold, by omega⟩

theorem readMagnitude?_decimal {n : Nat} (hn : n ≤ maxWord) {s : List Char} (hs : Stops s) :
    readMagnitude? false (Numeral.decimal n ++ s) = some (.int n, s) := by
  have hfold := (foldl_pushWhole (Numeral.mem_decimal n) (Numeral.accumulate?_decimal n) hn).1
  rw [readMagnitude?, spanDigits_decimal n hs]
  simp only [hfold]
  split
  · next hnil => exact absurd hnil (Numeral.decimal_ne_nil n)
  · next hzero => exact absurd hzero (Numeral.decimal_ne_zero_cons n _ _)
  · cases s with
    | nil => rfl
    | cons c s =>
      obtain ⟨-, hpoint, he, hE⟩ := hs c rfl
      simp [he, hE, integer?]

/-! ## Values -/

def joined : List (List Char) → List Char
  | [] => []
  | [t] => t
  | t :: ts => t ++ ',' :: joined ts

/-- A text spells a value in which lists and objects stand at most so deep inside each other. All
items of a list, and all fields of an object, have the same white space in front of them. -/
inductive Spells : Nat → Json → List Char → Prop
  | null {d : Nat} : Spells d .null ['n', 'u', 'l', 'l']
  | true {d : Nat} : Spells d (.bool true) ['t', 'r', 'u', 'e']
  | false {d : Nat} : Spells d (.bool false) ['f', 'a', 'l', 's', 'e']
  | int {d n : Nat} (h : n ≤ maxWord) : Spells d (.int n) (Numeral.decimal n)
  | str {d : Nat} (s : String) : Spells d (.str s) (renderString s)
  | arr {d : Nat} {items : List (Json × List Char)} {pad close : List Char} (hpad : Blank pad)
      (hclose : Blank close) (h : ∀ i ∈ items, Spells d i.1 i.2) :
      Spells (d + 1) (.arr (items.map fun i => i.1))
        ('[' :: (joined (items.map fun i => pad ++ i.2) ++ close ++ [']']))
  | obj {d : Nat} {fields : List (String × Json × List Char)} {pad gap close : List Char}
      (hpad : Blank pad) (hgap : Blank gap) (hclose : Blank close)
      (h : ∀ f ∈ fields, Spells d f.2.1 f.2.2) :
      Spells (d + 1) (.obj (fields.map fun f => (f.1, f.2.1)))
        ('\x7b' :: (joined (fields.map fun f => pad ++ renderString f.1 ++ ':' :: (gap ++ f.2.2)) ++
          close ++ ['\x7d']))

theorem Spells.head {d : Nat} {j : Json} {t : List Char} (h : Spells d j t) :
    ∃ c s, t = c :: s ∧ c ∉ [' ', '\n', '\t', '\r', ']'] := by
  cases h with
  | int =>
    rename_i n h
    obtain ⟨c, s, hdigits⟩ := List.exists_cons_of_ne_nil (Numeral.decimal_ne_nil n)
    obtain ⟨k, hk, rfl⟩ := Numeral.mem_decimal n c (hdigits ▸ List.mem_cons_self)
    exact ⟨_, s, hdigits, (by decide :
      ∀ k < 10, Numeral.digitChar k ∉ [' ', '\n', '\t', '\r', ']']) k hk⟩
  | _ => exact ⟨_, _, rfl, by decide⟩

theorem readValue?_blank {w : List Char} (h : Blank w) (fuel depth : Nat) (s : List Char) :
    readValue? fuel depth (w ++ s) = readValue? fuel depth s := by
  cases fuel with
  | zero => rfl
  | succ fuel => rw [readValue?, readValue?, skipSpace_append h]

theorem readItems?_skipSpace (fuel depth : Nat) (s : List Char) :
    readItems? fuel depth (skipSpace s) = readItems? fuel depth s := by
  cases fuel with
  | zero => rfl
  | succ fuel =>
    cases fuel with
    | zero => rfl
    | succ fuel => rw [readItems?, readItems?, readValue?, readValue?, skipSpace_idem]

theorem readFields?_skipSpace (fuel depth : Nat) (s : List Char) :
    readFields? fuel depth (skipSpace s) = readFields? fuel depth s := by
  cases fuel with
  | zero => rfl
  | succ fuel => rw [readFields?, readFields?, skipSpace_idem]

/-- A text is read as a value, whatever stands behind it that does not continue it. -/
def Reads (d : Nat) (j : Json) (t : List Char) : Prop :=
  ∀ fuel depth s, 2 * t.length ≤ fuel → d < depth → Stops s →
    readValue? fuel depth (t ++ s) = some (j, s)

section Items

variable {d depth fuel : Nat} {pad gap close t : List Char} {j : Json} (hpad : Blank pad)
  (ht : Reads d j t) (hfuel : 2 * t.length ≤ fuel) (hdepth : d < depth)

include hpad ht hfuel hdepth

theorem readValue?_pad {s : List Char} (hs : Stops s) :
    readValue? fuel depth (pad ++ t ++ s) = some (j, s) := by
  rw [List.append_assoc, readValue?_blank hpad, ht fuel depth s hfuel hdepth hs]

theorem readItems?_last (hclose : Blank close) (s : List Char) :
    readItems? (fuel + 1) depth (pad ++ t ++ (close ++ ']' :: s)) = some ([j], s) := by
  have hstops : Stops (close ++ ']' :: s) := .blank_append hclose (.cons (by decide))
  have hspace : skipSpace (close ++ ']' :: s) = ']' :: s := by
    rw [skipSpace_append hclose, skipSpace_cons (by decide)]
  rw [readItems?, readValue?_pad hpad ht hfuel hdepth hstops]
  simp only [hspace]

theorem readItems?_cons (s : List Char) :
    readItems? (fuel + 1) depth (pad ++ t ++ ',' :: s) =
      (readItems? fuel depth s).map fun (js, r) => (j :: js, r) := by
  have hspace : skipSpace (',' :: s) = ',' :: s := skipSpace_cons (by decide)
  rw [readItems?, readValue?_pad hpad ht hfuel hdepth (.cons (by decide))]
  simp only [hspace]

variable (hgap : Blank gap) (k : String)

include hgap

theorem readFields?_value {s : List Char} (hs : Stops s) : ∃ body,
    skipSpace (pad ++ renderString k ++ ':' :: (gap ++ t) ++ s) = '"' :: body ∧
      ∃ r, readString? (body.length + 1) [] body = some (k, ':' :: r) ∧
        readValue? fuel depth r = some (j, s) := by
  obtain ⟨body, hbody, hstring⟩ := readString?_renderString k (':' :: (gap ++ t ++ s))
  refine ⟨body, ?_, _, hstring, readValue?_pad hgap ht hfuel hdepth hs⟩
  have htext : pad ++ renderString k ++ ':' :: (gap ++ t) ++ s =
      pad ++ (renderString k ++ ':' :: (gap ++ t ++ s)) := by simp
  rw [htext, hbody, skipSpace_append hpad, skipSpace_cons (by decide)]

theorem readFields?_last (hclose : Blank close) (s : List Char) :
    readFields? (fuel + 1) depth
      (pad ++ renderString k ++ ':' :: (gap ++ t) ++ (close ++ '\x7d' :: s)) =
        some ([(k, j)], s) := by
  have hstops : Stops (close ++ '\x7d' :: s) := .blank_append hclose (.cons (by decide))
  have hspace : skipSpace (close ++ '\x7d' :: s) = '\x7d' :: s := by
    rw [skipSpace_append hclose, skipSpace_cons (by decide)]
  obtain ⟨body, hbody, r, hstring, hvalue⟩ :=
    readFields?_value hpad ht hfuel hdepth hgap k hstops
  have hcolon : skipSpace (':' :: r) = ':' :: r := skipSpace_cons (by decide)
  rw [readFields?, hbody]
  simp only [hstring, hcolon, hvalue, hspace]

theorem readFields?_cons (s : List Char) :
    readFields? (fuel + 1) depth (pad ++ renderString k ++ ':' :: (gap ++ t) ++ ',' :: s) =
      (readFields? fuel depth s).map fun (fs, r) => ((k, j) :: fs, r) := by
  have hspace : skipSpace (',' :: s) = ',' :: s := skipSpace_cons (by decide)
  obtain ⟨body, hbody, r, hstring, hvalue⟩ :=
    readFields?_value hpad ht hfuel hdepth hgap k (s := ',' :: s) (.cons (by decide))
  have hcolon : skipSpace (':' :: r) = ':' :: r := skipSpace_cons (by decide)
  rw [readFields?, hbody]
  simp only [hstring, hcolon, hvalue, hspace]

end Items

section Lists

variable {d depth fuel : Nat} {pad gap close : List Char} (hpad : Blank pad) (hclose : Blank close)
  (hdepth : d < depth) (s : List Char)

include hpad hclose hdepth

theorem readItems?_joined {i : Json × List Char} {items : List (Json × List Char)}
    (h : ∀ k ∈ i :: items, Reads d k.1 k.2)
    (hfuel : 2 * (joined ((i :: items).map fun k => pad ++ k.2)).length < fuel) :
    readItems? fuel depth (joined ((i :: items).map fun k => pad ++ k.2) ++ (close ++ ']' :: s)) =
      some ((i :: items).map fun k => k.1, s) := by
  induction items generalizing i fuel with
  | nil =>
    obtain ⟨rest, rfl⟩ := Nat.exists_eq_add_of_lt hfuel
    refine readItems?_last hpad (h i List.mem_cons_self) ?_ hdepth hclose s
    simp only [List.map_cons, List.map_nil, joined, List.length_append]
    omega
  | cons k items ih =>
    obtain ⟨hi, hitems⟩ := List.forall_mem_cons.1 h
    have hjoined : joined ((i :: k :: items).map fun k => pad ++ k.2) =
        pad ++ i.2 ++ ',' :: joined ((k :: items).map fun k => pad ++ k.2) := rfl
    rw [hjoined, List.length_append, List.length_append, List.length_cons] at hfuel
    cases fuel with
    | zero => exact absurd hfuel (Nat.not_lt_zero _)
    | succ fuel =>
      rw [hjoined, List.append_assoc, List.cons_append,
        readItems?_cons hpad hi (by omega) hdepth, ih hitems (by omega)]
      rfl

theorem readFields?_joined (hgap : Blank gap) {f : String × Json × List Char}
    {fields : List (String × Json × List Char)}
    (h : ∀ g ∈ f :: fields, Reads d g.2.1 g.2.2)
    (hfuel : 2 * (joined ((f :: fields).map fun g =>
      pad ++ renderString g.1 ++ ':' :: (gap ++ g.2.2))).length < fuel) :
    readFields? fuel depth (joined ((f :: fields).map fun g =>
      pad ++ renderString g.1 ++ ':' :: (gap ++ g.2.2)) ++ (close ++ '\x7d' :: s)) =
        some ((f :: fields).map fun g => (g.1, g.2.1), s) := by
  induction fields generalizing f fuel with
  | nil =>
    obtain ⟨rest, rfl⟩ := Nat.exists_eq_add_of_lt hfuel
    refine readFields?_last hpad (h f List.mem_cons_self) ?_ hdepth hgap f.1 hclose s
    simp only [List.map_cons, List.map_nil, joined, List.length_append, List.length_cons]
    omega
  | cons g fields ih =>
    obtain ⟨hf, hfields⟩ := List.forall_mem_cons.1 h
    have hjoined : joined ((f :: g :: fields).map fun g =>
          pad ++ renderString g.1 ++ ':' :: (gap ++ g.2.2)) =
        pad ++ renderString f.1 ++ ':' :: (gap ++ f.2.2) ++ ',' ::
          joined ((g :: fields).map fun g =>
            pad ++ renderString g.1 ++ ':' :: (gap ++ g.2.2)) := rfl
    rw [hjoined] at hfuel
    simp only [List.length_append, List.length_cons] at hfuel
    cases fuel with
    | zero => exact absurd hfuel (Nat.not_lt_zero _)
    | succ fuel =>
      rw [hjoined, List.append_assoc, List.cons_append,
        readFields?_cons hpad hf (by omega) hdepth hgap, ih hfields ?_]
      · rfl
      · simp only [List.map_cons] at hfuel ⊢
        omega

end Lists

theorem joined_map_cons {α : Type} (f : α → List Char) (a : α) (as : List α) :
    ∃ s, joined ((a :: as).map f) = f a ++ s := by
  cases as with
  | nil => exact ⟨[], (List.append_nil _).symm⟩
  | cons b as => exact ⟨_, rfl⟩

section Brackets

variable {depth fuel : Nat} {r s : List Char}

theorem readValue?_emptyArr (hdepth : 1 < depth) (hr : skipSpace r = ']' :: s) :
    readValue? (fuel + 1) depth ('[' :: r) = some (.arr [], s) := by
  rw [readValue?, skipSpace_cons (by decide)]
  simp only [if_neg (Nat.not_le.2 hdepth), hr]

theorem readValue?_arr (hdepth : 1 < depth) (hr : ∀ s, skipSpace r ≠ ']' :: s) :
    readValue? (fuel + 1) depth ('[' :: r) =
      (readItems? fuel (depth - 1) r).map fun (items, r) => (.arr items, r) := by
  rw [readValue?, skipSpace_cons (by decide)]
  simp only [if_neg (Nat.not_le.2 hdepth), readItems?_skipSpace]

theorem readValue?_emptyObj (hdepth : 1 < depth) (hr : skipSpace r = '\x7d' :: s) :
    readValue? (fuel + 1) depth ('\x7b' :: r) = some (.obj [], s) := by
  rw [readValue?, skipSpace_cons (by decide)]
  simp only [if_neg (Nat.not_le.2 hdepth), hr]

theorem readValue?_obj (hdepth : 1 < depth) (hr : ∀ s, skipSpace r ≠ '\x7d' :: s) :
    readValue? (fuel + 1) depth ('\x7b' :: r) =
      (readFields? fuel (depth - 1) r).map fun (fields, r) => (.obj fields, r) := by
  rw [readValue?, skipSpace_cons (by decide)]
  simp only [if_neg (Nat.not_le.2 hdepth), readFields?_skipSpace]

end Brackets

theorem Reads.of_succ {d : Nat} {j : Json} {t : List Char} (ht : t ≠ [])
    (h : ∀ fuel depth s, 2 * t.length ≤ fuel + 1 → d < depth → Stops s →
      readValue? (fuel + 1) depth (t ++ s) = some (j, s)) : Reads d j t := by
  intro fuel depth s hfuel hdepth hs
  have hpos : 0 < t.length := List.length_pos_of_ne_nil ht
  cases fuel with
  | zero => omega
  | succ fuel => exact h fuel depth s hfuel hdepth hs

theorem reads_int {d n : Nat} (h : n ≤ maxWord) : Reads d (.int n) (Numeral.decimal n) := by
  refine .of_succ (Numeral.decimal_ne_nil n) fun fuel depth s _ _ hs => ?_
  obtain ⟨c, ds, hdigits⟩ := List.exists_cons_of_ne_nil (Numeral.decimal_ne_nil n)
  obtain ⟨k, hk, rfl⟩ := Numeral.mem_decimal n c (hdigits ▸ List.mem_cons_self)
  have hspace := skipSpace_cons (s := ds ++ s) ((by decide :
    ∀ k < 10, Numeral.digitChar k ∉ [' ', '\n', '\t', '\r']) k hk)
  have hfirst := (by decide : ∀ k < 10,
    Numeral.digitChar k ∉ ['n', 't', 'f', '"', '-', '[', '\x7b']) k hk
  simp only [List.mem_cons, List.not_mem_nil, or_false, not_or] at hfirst
  have hmagnitude := readMagnitude?_decimal h hs
  rw [hdigits, List.cons_append] at hmagnitude ⊢
  rw [readValue?, hspace]
  simp [hfirst, hmagnitude]

theorem reads_str {d : Nat} (k : String) : Reads d (.str k) (renderString k) := by
  refine .of_succ (List.cons_ne_nil _ _) fun fuel depth s _ _ _ => ?_
  obtain ⟨body, hbody, hstring⟩ := readString?_renderString k s
  rw [hbody, readValue?, skipSpace_cons (by decide)]
  simp only [hstring]
  rfl

theorem reads_arr {d : Nat} {items : List (Json × List Char)} {pad close : List Char}
    (hpad : Blank pad) (hclose : Blank close) (h : ∀ i ∈ items, Spells d i.1 i.2)
    (ih : ∀ i ∈ items, Reads d i.1 i.2) :
    Reads (d + 1) (.arr (items.map fun i => i.1))
      ('[' :: (joined (items.map fun i => pad ++ i.2) ++ close ++ [']'])) := by
  refine .of_succ (List.cons_ne_nil _ _) fun fuel depth s hfuel hdepth _ => ?_
  have htext (t : List Char) :
      '[' :: (t ++ close ++ [']']) ++ s = '[' :: (t ++ (close ++ ']' :: s)) := by simp
  rw [htext]
  cases items with
  | nil =>
    refine readValue?_emptyArr (by omega) ?_
    exact (skipSpace_append hclose).trans (skipSpace_cons (by decide))
  | cons i items =>
    simp only [List.length_cons, List.length_append] at hfuel
    rw [readValue?_arr (by omega), readItems?_joined hpad hclose (by omega) s ih]
    · rfl
    · simp only [List.map_cons] at hfuel ⊢
      omega
    · -- the first item does not start with a closing bracket
      obtain ⟨c, t, hitem, hc⟩ := (h i List.mem_cons_self).head
      obtain ⟨r, hjoined⟩ := joined_map_cons (fun i => pad ++ i.2) i items
      simp only [List.mem_cons, List.not_mem_nil, or_false, not_or] at hc
      rw [hjoined, hitem, List.append_assoc, List.append_assoc, skipSpace_append hpad,
        List.cons_append, skipSpace_cons (by simp [hc])]
      exact fun _ heq => hc.2.2.2.2 (List.cons.inj heq).1

theorem reads_obj {d : Nat} {fields : List (String × Json × List Char)}
    {pad gap close : List Char} (hpad : Blank pad) (hgap : Blank gap) (hclose : Blank close)
    (ih : ∀ f ∈ fields, Reads d f.2.1 f.2.2) :
    Reads (d + 1) (.obj (fields.map fun f => (f.1, f.2.1)))
      ('\x7b' :: (joined (fields.map fun f => pad ++ renderString f.1 ++ ':' :: (gap ++ f.2.2)) ++
        close ++ ['\x7d'])) := by
  refine .of_succ (List.cons_ne_nil _ _) fun fuel depth s hfuel hdepth _ => ?_
  have htext (t : List Char) :
      '\x7b' :: (t ++ close ++ ['\x7d']) ++ s = '\x7b' :: (t ++ (close ++ '\x7d' :: s)) := by
    simp
  rw [htext]
  cases fields with
  | nil =>
    refine readValue?_emptyObj (by omega) ?_
    exact (skipSpace_append hclose).trans (skipSpace_cons (by decide))
  | cons f fields =>
    simp only [List.length_cons, List.length_append] at hfuel
    rw [readValue?_obj (by omega), readFields?_joined hpad hclose (by omega) s hgap ih]
    · rfl
    · simp only [List.map_cons] at hfuel ⊢
      omega
    · -- the first name does not start with a closing brace
      obtain ⟨r, hjoined⟩ := joined_map_cons
        (fun f => pad ++ renderString f.1 ++ ':' :: (gap ++ f.2.2)) f fields
      rw [hjoined, List.append_assoc, List.append_assoc, List.append_assoc,
        skipSpace_append hpad, renderString, List.cons_append, skipSpace_cons (by decide)]
      exact fun _ heq => absurd (List.cons.inj heq).1 (by decide)

/-- Every text that spells a value is read as this value. -/
theorem Spells.reads {d : Nat} {j : Json} {t : List Char} (h : Spells d j t) : Reads d j t := by
  induction h with
  | null => exact .of_succ (List.cons_ne_nil _ _) fun _ _ _ _ _ _ => rfl
  | true => exact .of_succ (List.cons_ne_nil _ _) fun _ _ _ _ _ _ => rfl
  | false => exact .of_succ (List.cons_ne_nil _ _) fun _ _ _ _ _ _ => rfl
  | int h => exact reads_int h
  | str k => exact reads_str k
  | arr hpad hclose h ih => exact reads_arr hpad hclose h ih
  | obj hpad hgap hclose _ ih => exact reads_obj hpad hgap hclose ih

/-! ## Texts that are written -/

theorem renderItems_eq (items : List Json) : renderItems items = joined (items.map render) := by
  induction items with
  | nil => rw [renderItems]; rfl
  | cons a as ih =>
    cases as with
    | nil => rw [renderItems]; rfl
    | cons b as =>
      rw [renderItems, ih]
      · rfl
      · exact List.cons_ne_nil b as

theorem renderFields_eq (fields : List (String × Json)) :
    renderFields fields = joined (fields.map fun f => renderString f.1 ++ ':' :: render f.2) := by
  induction fields with
  | nil => rw [renderFields]; rfl
  | cons f fs ih =>
    cases fs with
    | nil => rw [renderFields]; rfl
    | cons g fs =>
      rw [renderFields, ih]
      · simp [joined]
      · exact List.cons_ne_nil g fs

/-- The compact text spells the value. -/
theorem Legible.spells_render {d : Nat} {j : Json} (h : Legible d j) : Spells d j (render j) := by
  induction h with
  | null => rw [render]; exact .null
  | bool b => cases b <;> rw [render] <;> constructor
  | @int _ n h =>
    have htext : render (.int n) = Numeral.decimal n := by
      rw [render, renderInt, if_neg (Int.not_lt.2 (Int.natCast_nonneg n)), Int.natAbs_natCast]
    rw [htext]
    exact .int h
  | str s => rw [render]; exact .str s
  | @arr d items h ih =>
    have hspells := Spells.arr (d := d) Blank.nil Blank.nil
      (List.forall_mem_map.2 ih : ∀ i ∈ items.map fun j => (j, render j), Spells d i.1 i.2)
    rw [render, renderItems_eq]
    simpa [Function.comp_def] using hspells
  | @obj d fields h ih =>
    have hspells := Spells.obj (d := d) Blank.nil Blank.nil Blank.nil
      (List.forall_mem_map.2 ih :
        ∀ f ∈ fields.map fun f => (f.1, f.2, render f.2), Spells d f.2.1 f.2.2)
    rw [render, renderFields_eq]
    simpa [Function.comp_def] using hspells

theorem renderItemsAt_eq (level : Nat) (items : List Json) :
    renderItemsAt level items = joined (items.map fun j => newline level ++ renderAt level j) := by
  induction items with
  | nil => rw [renderItemsAt]; rfl
  | cons a as ih =>
    cases as with
    | nil => rw [renderItemsAt]; rfl
    | cons b as =>
      rw [renderItemsAt, ih]
      · rfl
      · exact List.cons_ne_nil b as

theorem renderFieldsAt_eq (level : Nat) (fields : List (String × Json)) :
    renderFieldsAt level fields = joined (fields.map fun f =>
      newline level ++ renderString f.1 ++ ':' :: ([' '] ++ renderAt level f.2)) := by
  induction fields with
  | nil => rw [renderFieldsAt]; rfl
  | cons f fs ih =>
    cases fs with
    | nil => rw [renderFieldsAt]; rfl
    | cons g fs =>
      rw [renderFieldsAt, ih]
      · simp [joined]
      · exact List.cons_ne_nil g fs

/-- The indented text spells the value, at any level of indentation. -/
theorem Legible.spells_renderAt {d : Nat} {j : Json} (h : Legible d j) (level : Nat) :
    Spells d j (renderAt level j) := by
  have hspace : Blank [' '] := List.forall_mem_singleton.2 (by decide)
  induction h generalizing level with
  | null => rw [renderAt]; exact Legible.null.spells_render
  | bool b => rw [renderAt]; exact (Legible.bool b).spells_render
  | int h => rw [renderAt]; exact (Legible.int h).spells_render
  | str s => rw [renderAt]; exact (Legible.str s).spells_render
  | @arr d items h ih =>
    cases items with
    | nil =>
      have hspells := (Legible.arr h).spells_render
      rw [render, renderItems] at hspells
      rw [renderAt]
      exact hspells
    | cons a as =>
      have hspells := Spells.arr (d := d) (blank_newline (level + 1)) (blank_newline level)
        (List.forall_mem_map.2 fun j hj => ih j hj (level + 1) :
          ∀ i ∈ (a :: as).map fun j => (j, renderAt (level + 1) j), Spells d i.1 i.2)
      rw [renderAt, renderItemsAt_eq]
      simpa [Function.comp_def] using hspells
  | @obj d fields h ih =>
    cases fields with
    | nil =>
      have hspells := (Legible.obj h).spells_render
      rw [render, renderFields] at hspells
      rw [renderAt]
      exact hspells
    | cons f fs =>
      have hspells := Spells.obj (d := d) (blank_newline (level + 1)) hspace (blank_newline level)
        (List.forall_mem_map.2 fun f hf => ih f hf (level + 1) :
          ∀ g ∈ (f :: fs).map fun f => (f.1, f.2, renderAt (level + 1) f.2),
            Spells d g.2.1 g.2.2)
      rw [renderAt, renderFieldsAt_eq]
      simpa [Function.comp_def] using hspells

/-! ## Whole texts -/

/-- A text that spells a value that does not nest too deep is read as this value. -/
theorem Spells.parse? {d : Nat} {j : Json} {t : List Char} (h : Spells d j t)
    (hd : d < depthLimit) : parse? (String.ofList t) = some j := by
  have hread := h.reads (2 * t.length + 2) depthLimit [] (by omega) hd .nil
  rw [List.append_nil] at hread
  simp only [Json.parse?, String.toList_ofList, hread]
  rfl

/-- Both texts of a legible value are read as the value. -/
theorem Legible.parse? {d : Nat} {j : Json} (h : Legible d j) (hd : d < depthLimit) :
    Json.parse? (compact j) = some j ∧ Json.parse? (pretty j) = some j :=
  ⟨h.spells_render.parse? hd, (h.spells_renderAt 0).parse? hd⟩

end GuestSpec.Json

namespace GuestSpec

open Json

/-- A value that makes a round trip is read back from both texts of its document. -/
theorem RoundTrips.parse? {α : Type} [Codec α] {depth : Nat} {a : α} (h : RoundTrips depth a)
    (hdepth : depth < depthLimit) :
    (Json.parse? (compact (encode a))).bind decode? = some a ∧
      (Json.parse? (pretty (encode a))).bind decode? = some a := by
  obtain ⟨hcompact, hpretty⟩ := h.legible.parse? hdepth
  rw [hcompact, hpretty]
  exact ⟨h.read false, h.read false⟩

end GuestSpec
