import GuestSpec.Proofs.Text.Numeral
import GuestSpec.Proofs.Text.Split
import GuestSpec.Proofs.Text.Trim
import GuestSpec.Version.Interval

/-!
# Versions that are read back

The text of a version is read as the version: its numbers have no needless zeros, and its marks and
dots stand nowhere but between identifiers. The text has all three numbers, so nothing is added to
it, and no comma, so the text of an interval is cut between its two ends.
-/

namespace GuestSpec.Version

open Text Numeral

/-! ## Characters -/

def isVersionChar (c : Char) : Bool := isIdentifierChar c || c == '.' || c == '+'

theorem isIdentifierChar_of_isDigit {c : Char} (h : c.isDigit = true) :
    isIdentifierChar c = true := by
  simp [isIdentifierChar, Char.isAlphanum, h]

theorem isVersionChar_of_isIdentifierChar {c : Char} (h : isIdentifierChar c = true) :
    isVersionChar c = true := by
  simp [isVersionChar, h]

theorem plain_of_isVersionChar {c : Char} (h : isVersionChar c = true) :
    isBlank c = false ∧ c ≠ ',' := by
  have hchar : c.isAlphanum = true ∨ c = '-' ∨ c = '.' ∨ c = '+' := by
    simpa [isVersionChar, isIdentifierChar, or_assoc] using h
  obtain hc | rfl | rfl | rfl := hchar
  · have hrange : 48 ≤ c.toNat ∧ c.toNat ≤ 122 := by
      simp only [Char.isAlphanum, Char.isAlpha, Char.isUpper, Char.isLower, Char.isDigit,
        Bool.or_eq_true, Bool.and_eq_true, decide_eq_true_eq] at hc
      change ((65 ≤ c.toNat ∧ c.toNat ≤ 90) ∨ (97 ≤ c.toNat ∧ c.toNat ≤ 122)) ∨
        (48 ≤ c.toNat ∧ c.toNat ≤ 57) at hc
      omega
    refine ⟨Chars.not_isBlank (by omega) (by omega), ?_⟩
    rintro rfl
    exact absurd hrange (by decide)
  all_goals decide

/-! ## Numbers -/

theorem hasLeadingZero_decimal (n : Nat) : hasLeadingZero (decimal n) = false := by
  rw [Bool.eq_false_iff]
  intro h
  simp only [hasLeadingZero, Bool.and_eq_true, decide_eq_true_eq, beq_iff_eq] at h
  obtain ⟨hlength, hhead⟩ := h
  obtain ⟨rest, hrest⟩ := List.head?_eq_some_iff.1 hhead
  cases rest with
  | nil =>
    rw [hrest] at hlength
    exact absurd hlength (by decide)
  | cons c rest => exact decimal_ne_zero_cons n c rest hrest

theorem isDecimal_decimal (n : Nat) : IsDecimal (decimal n) n := by
  rw [← digits?_eq_some_iff, digits?_of_ne_nil 10 (decimal_ne_nil n), accumulate?_decimal]

theorem number?_append (n : UInt64) {rest : List Char}
    (hrest : ∀ c ∈ rest.head?, c.isDigit = false) :
    number? (decimal n.toNat ++ rest) = some (n, rest) := by
  have hdigits : ∀ c ∈ decimal n.toNat, c.isDigit = true := isDigit_of_mem_decimal
  have hread : unsigned? 10 0xFFFFFFFFFFFFFFFF (decimal n.toNat) = some n.toNat :=
    unsigned?_eq_some_iff.2 ⟨Nat.le_of_lt_succ n.toNat_lt, .inl (isDecimal_decimal _)⟩
  rw [number?, Chars.takeWhile_append hdigits hrest, Chars.dropWhile_append hdigits hrest]
  simp [hasLeadingZero_decimal, hread]

/-! ## Identifiers -/

/-- The characters behind a mark, the mark included, if there are identifiers. -/
def markedChars (mark : Char) (ids : List String) : List Char :=
  match ids with
  | [] => []
  | id :: ids => mark :: List.intercalate ['.'] ((id :: ids).map String.toList)

theorem toList_marked (mark : Char) (ids : List String) :
    (marked (String.singleton mark) ids).toList = markedChars mark ids := by
  cases ids with
  | nil => rfl
  | cons id ids => simp [marked, markedChars, String.toList_intercalate]

theorem isIdentifierChar_of_mem {id : String} (h : isIdentifier id = true) :
    ∀ c ∈ id.toList, isIdentifierChar c = true := by
  simp only [isIdentifier, Bool.and_eq_true] at h
  exact List.all_eq_true.1 h.2

theorem mem_intercalate {sep c : Char} {pieces : List (List Char)}
    (h : c ∈ List.intercalate [sep] pieces) : c = sep ∨ ∃ a ∈ pieces, c ∈ a := by
  induction pieces with
  | nil => cases h
  | cons a pieces ih =>
    cases pieces with
    | nil => exact .inr ⟨a, List.mem_cons_self, by simpa using h⟩
    | cons b pieces =>
      rw [List.intercalate_cons_cons, List.append_assoc, List.mem_append] at h
      obtain h | h := h
      · exact .inr ⟨a, List.mem_cons_self, h⟩
      · obtain h | h := List.mem_cons.1 h
        · exact .inl h
        · obtain h | ⟨d, hd, hc⟩ := ih h
          · exact .inl h
          · exact .inr ⟨d, List.mem_cons_of_mem _ hd, hc⟩

theorem mem_identifiers {ids : List String} (hids : ∀ id ∈ ids, isIdentifier id = true) :
    ∀ c ∈ List.intercalate ['.'] (ids.map String.toList),
      (isIdentifierChar c || c == '.') = true := by
  intro c hc
  obtain rfl | ⟨a, ha, hc⟩ := mem_intercalate hc
  · decide
  · obtain ⟨id, hid, rfl⟩ := List.mem_map.1 ha
    rw [isIdentifierChar_of_mem (hids id hid) c hc, Bool.true_or]

theorem identifiers_append {ids : List String} (hne : ids ≠ [])
    (hids : ∀ id ∈ ids, isIdentifier id = true) {rest : List Char}
    (hrest : ∀ c ∈ rest.head?, (isIdentifierChar c || c == '.') = false) :
    identifiers (List.intercalate ['.'] (ids.map String.toList) ++ rest) = (ids, rest) := by
  have hdots : ∀ a ∈ ids.map String.toList, '.' ∉ a := by
    intro a ha hdot
    obtain ⟨id, hid, rfl⟩ := List.mem_map.1 ha
    exact absurd (isIdentifierChar_of_mem (hids id hid) '.' hdot) (by decide)
  rw [identifiers, Chars.takeWhile_append (mem_identifiers hids) hrest,
    Chars.dropWhile_append (mem_identifiers hids) hrest,
    Chars.splitWhere_intercalate (mt List.map_eq_nil_iff.1 hne) hdots]
  simp

theorem marked?_append {mark : Char} {ids : List String}
    (hids : ∀ id ∈ ids, isIdentifier id = true) {rest : List Char}
    (hrest : ∀ c ∈ rest.head?, (isIdentifierChar c || c == '.') = false)
    (hmark : rest.head? ≠ some mark) :
    marked? mark (markedChars mark ids ++ rest) = (ids, rest) := by
  cases ids with
  | nil =>
    cases rest with
    | nil => rfl
    | cons c rest => exact if_neg fun h => hmark (congrArg some h)
  | cons id ids =>
    rw [markedChars, List.cons_append, marked?, if_pos rfl]
    exact identifiers_append (List.cons_ne_nil _ _) hids hrest

/-! ## Versions -/

theorem toList_text (v : Version) :
    v.text.toList = decimal v.major.toNat ++ '.' :: (decimal v.minor.toNat ++ '.' ::
      (decimal v.patch.toNat ++ (markedChars '-' v.pre ++ markedChars '+' v.build))) := by
  simp [text, number, ← toList_marked]

theorem isIdentifier_of_mem_pre {v : Version} : ∀ id ∈ v.pre, isIdentifier id = true := by
  intro id hid
  have h := List.all_eq_true.1 v.pre_valid id hid
  simp only [isPreIdentifier, Bool.and_eq_true] at h
  exact h.1

theorem head?_markedChars_append {mark : Char} {ids : List String} {rest : List Char} :
    ∀ c ∈ (markedChars mark ids ++ rest).head?, c = mark ∨ c ∈ rest.head? := by
  intro c hc
  cases ids with
  | nil => exact .inr hc
  | cons id ids => exact .inl (Option.some.inj hc).symm

theorem parse?_text (v : Version) : parse? v.text = some v := by
  have hbuild : ∀ c ∈ (markedChars '+' v.build).head?, c = '+' := by
    intro c hc
    rw [← List.append_nil (markedChars '+' v.build)] at hc
    exact (head?_markedChars_append c hc).resolve_right nofun
  have hmarks : ∀ c ∈ (markedChars '-' v.pre ++ markedChars '+' v.build).head?,
      c.isDigit = false := by
    intro c hc
    obtain rfl | hc := head?_markedChars_append c hc
    · rfl
    · rw [hbuild c hc]
      rfl
  have hpre : marked? '-' (markedChars '-' v.pre ++ markedChars '+' v.build) =
      (v.pre, markedChars '+' v.build) := by
    refine marked?_append isIdentifier_of_mem_pre (fun c hc => ?_) fun h => ?_
    · rw [hbuild c hc]
      rfl
    · exact absurd (hbuild '-' h) (by decide)
  have hrest : marked? '+' (markedChars '+' v.build) = (v.build, []) := by
    rw [← List.append_nil (markedChars '+' v.build)]
    exact marked?_append (List.all_eq_true.1 v.build_valid) nofun nofun
  have hdot : ∀ s : List Char, ∀ c ∈ ('.' :: s).head?, c.isDigit = false := by
    intro s c hc
    rw [← Option.some.inj hc]
    rfl
  have hvalid : (∀ id ∈ v.pre, isPreIdentifier id = true) ∧
      ∀ id ∈ v.build, isIdentifier id = true :=
    ⟨List.all_eq_true.1 v.pre_valid, List.all_eq_true.1 v.build_valid⟩
  rw [parse?, toList_text, number?_append v.major (hdot _)]
  simpa [number?_append v.minor (hdot _), number?_append v.patch hmarks, hpre, hrest, dot?]
    using hvalid

theorem isVersionChar_of_mem_markedChars {mark : Char} {ids : List String}
    (hids : ∀ id ∈ ids, isIdentifier id = true) (hmark : isVersionChar mark = true) :
    ∀ c ∈ markedChars mark ids, isVersionChar c = true := by
  intro c hc
  cases ids with
  | nil => cases hc
  | cons id ids =>
    obtain rfl | hc := List.mem_cons.1 hc
    · exact hmark
    · rw [isVersionChar, mem_identifiers hids c hc, Bool.true_or]

theorem isVersionChar_of_mem_text {v : Version} : ∀ c ∈ v.text.toList, isVersionChar c = true := by
  have hnumber : ∀ n, ∀ c ∈ decimal n, isVersionChar c = true := fun n c hc =>
    isVersionChar_of_isIdentifierChar (isIdentifierChar_of_isDigit (isDigit_of_mem_decimal c hc))
  have hbuild : ∀ id ∈ v.build, isIdentifier id = true := List.all_eq_true.1 v.build_valid
  have hmarks : ∀ c ∈ markedChars '-' v.pre ++ markedChars '+' v.build, isVersionChar c = true :=
    List.forall_mem_append.2 ⟨isVersionChar_of_mem_markedChars isIdentifier_of_mem_pre rfl,
      isVersionChar_of_mem_markedChars hbuild rfl⟩
  rw [toList_text]
  simp only [List.forall_mem_append, List.forall_mem_cons]
  exact ⟨hnumber _, rfl, hnumber _, rfl, hnumber _, List.forall_mem_append.1 hmarks⟩

theorem three_le_length_splitWhere (v : Version) :
    3 ≤ (Text.splitWhere (· == '.') v.text).length := by
  have hnumber : ∀ n, ∀ c ∈ decimal n, (c == '.') = false := by
    intro n c hc
    rw [beq_eq_false_iff_ne]
    rintro rfl
    exact absurd (isDigit_of_mem_decimal '.' hc) (by decide)
  rw [Text.splitWhere, List.length_map, toList_text, Chars.splitWhere_append_cons (hnumber _) rfl,
    Chars.splitWhere_append_cons (hnumber _) rfl]
  have hpos := List.length_pos_of_ne_nil (Chars.splitWhere_ne_nil (· == '.')
    (decimal v.patch.toNat ++ (markedChars '-' v.pre ++ markedChars '+' v.build)))
  simp only [List.length_cons]
  omega

/-- Nothing is added to the text of a version, whatever blanks stand around it. -/
theorem ofText_of_trim {raw : String} {v : Version} (h : Text.trim raw = v.text) :
    ofText raw = .ok v := by
  unfold ofText
  rw [h]
  have hpieces := three_le_length_splitWhere v
  dsimp only
  revert hpieces
  generalize (Text.splitWhere (· == '.') v.text).length = pieces
  intro hpieces
  obtain ⟨n, rfl⟩ := Nat.exists_eq_add_of_le' hpieces
  simp only [parse?_text]

theorem ofText_text (v : Version) : ofText v.text = .ok v := by
  refine ofText_of_trim ?_
  have htrimmed := Chars.isTrimmed_of_forall fun c hc =>
    (plain_of_isVersionChar (isVersionChar_of_mem_text (v := v) c hc)).1
  rw [Text.trim, htrimmed.trim_eq, String.ofList_toList]

/-! ## Intervals -/

namespace Interval

def endChars : Option Bound → List Char
  | none => []
  | some b => b.version.text.toList

/-- Whether an end is written with a bracket. -/
def isClosed : Option Bound → Bool
  | none => false
  | some b => b.inclusive

def openingChar (closed : Bool) : Char := if closed then '[' else '('

def closingChar (closed : Bool) : Char := if closed then ']' else ')'

/-- The marks around a text are found again. -/
theorem marks?_append (lower upper : Bool) (body : List Char) :
    marks? (openingChar lower :: (body ++ [closingChar upper])) = some (lower, upper, body) := by
  have hopening : opening? (openingChar lower) = some lower := by cases lower <;> rfl
  have hclosing : closing? (closingChar upper) = some upper := by cases upper <;> rfl
  simp only [marks?, List.getLast?_concat, List.dropLast_concat, hopening, hclosing,
    Option.bind_eq_bind, Option.bind_some]
  rfl

theorem isTrimmed_marks (lower upper : Bool) (body : List Char) :
    Chars.IsTrimmed (openingChar lower :: (body ++ [closingChar upper])) where
  head := by
    rintro c ⟨⟩
    cases lower <;> rfl
  last := by
    rw [← List.cons_append, List.getLast?_concat]
    rintro c ⟨⟩
    cases upper <;> rfl

theorem toList_text (i : Interval) :
    i.text.toList = openingChar (isClosed i.lower) ::
      (endChars i.lower ++ ',' :: ' ' :: endChars i.upper ++ [closingChar (isClosed i.upper)]) := by
  obtain ⟨lower, upper⟩ := i
  have hlower : ∀ b : Bool, (if b then "[" else "(").toList = [openingChar b] := by decide
  have hupper : ∀ b : Bool, (if b then "]" else ")").toList = [closingChar b] := by decide
  have hopen : openingChar false = '(' := rfl
  have hclose : closingChar false = ')' := rfl
  cases lower <;> cases upper <;>
    simp [text, endChars, isClosed, hlower, hupper, hopen, hclose]

theorem bound_of_trim {e : Option Bound} {raw : List Char} (h : Chars.trim raw = endChars e) :
    bound (isClosed e) raw = .ok e := by
  cases e with
  | none => rw [bound, h]; rfl
  | some b =>
    have hne : b.version.text.toList ≠ [] := by
      rw [Version.toList_text]
      exact List.append_ne_nil_of_right_ne_nil _ (List.cons_ne_nil _ _)
    have hread : Version.ofText (String.ofList raw) = .ok b.version := by
      refine ofText_of_trim ?_
      rw [Text.trim, String.toList_ofList, h]
      exact String.ofList_toList
    rw [bound, h, if_neg (by simpa [endChars] using hne), hread]
    rfl

theorem plain_endChars (e : Option Bound) : ∀ c ∈ endChars e, isBlank c = false ∧ c ≠ ',' := by
  cases e with
  | none => exact nofun
  | some b => exact fun c hc => plain_of_isVersionChar (isVersionChar_of_mem_text c hc)

theorem ofText_text (i : Interval) : ofText i.text = .ok i := by
  have hcut : Chars.splitFirst? ',' (endChars i.lower ++ ',' :: ' ' :: endChars i.upper) =
      some (endChars i.lower, ' ' :: endChars i.upper) :=
    Chars.splitFirst?_append fun h => (plain_endChars i.lower ',' h).2 rfl
  have hends : ∀ e, Chars.IsTrimmed (endChars e) := fun e =>
    Chars.isTrimmed_of_forall fun c hc => (plain_endChars e c hc).1
  have hblank : ∀ c ∈ [' '], isBlank c = true := fun c hc => List.mem_singleton.1 hc ▸ rfl
  have hlower : bound (isClosed i.lower) (endChars i.lower) = .ok i.lower :=
    bound_of_trim (hends _).trim_eq
  have hupper : bound (isClosed i.upper) (' ' :: endChars i.upper) = .ok i.upper :=
    bound_of_trim (Chars.trim_append hblank (hends _))
  rw [ofText, toList_text, (isTrimmed_marks _ _ _).trim_eq, marks?_append]
  dsimp only
  rw [hcut]
  dsimp only
  rw [hlower, hupper]
  rfl

/-- A side without an end is written with a parenthesis, whatever mark it was read with. -/
theorem text_of_unbounded (i : Interval) :
    (i.lower = none → i.text.toList.head? = some '(') ∧
      (i.upper = none → i.text.toList.getLast? = some ')') := by
  rw [toList_text]
  refine ⟨fun h => ?_, fun h => ?_⟩
  · rw [h]
    rfl
  · rw [h, ← List.cons_append, List.getLast?_concat]
    rfl

end Interval

/-- The text of an interval is read as the interval, whatever its ends are and whatever text it was
itself read from, and the text of a version as the version. -/
theorem texts_read_back (i : Interval) (v : Version) :
    (Interval.ofText i.text = .ok i ∧ (i.lower = none → i.text.toList.head? = some '(') ∧
      (i.upper = none → i.text.toList.getLast? = some ')')) ∧ ofText v.text = .ok v :=
  ⟨⟨i.ofText_text, i.text_of_unbounded⟩, ofText_text v⟩

example : (Interval.ofText " [ ,6.2] ").toOption.map Interval.text = some "(, 6.2.0]" := by
  decide +kernel

end GuestSpec.Version
