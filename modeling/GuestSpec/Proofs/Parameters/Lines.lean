import GuestSpec.Parameters.File
import GuestSpec.Proofs.Parameters.Entries
import GuestSpec.Proofs.Text.Lines
import GuestSpec.Proofs.Text.Trim

/-!
# Lines of parameters

A text holds parameters unless one of its lines is malformed, and then the first such line is named.
Otherwise the lines that are not skipped set the parameters one after the other. Parameters whose
keys and values fit on lines are read back from them.
-/

namespace GuestSpec.Parameters

open Text (trim isBlank)

/-! ## The form of a line -/

/-- A line that is skipped when nothing but blanks stands around it: an empty one or a comment. -/
def IsSkipped (line : String) : Prop := line = "" ∨ line.toList.head? = some '#'

/-- A line that sets a key to a value: both stand around the first equals sign, and blanks around
them do not count. -/
inductive IsSetting : String → String → String → Prop where
  | mk {before after : String} : ¬IsSkipped (before ++ "=" ++ after) → '=' ∉ before.toList →
      trim before ≠ "" → IsSetting (before ++ "=" ++ after) (trim before) (trim after)

/-- A line that is not skipped and has no equals sign, or nothing but blanks before the first. -/
def IsMalformed (line : String) : Prop :=
  ¬IsSkipped line ∧ ('=' ∉ line.toList ∨
    ∃ before after, line = before ++ "=" ++ after ∧ ∀ c ∈ before.toList, isBlank c = true)

variable {line key value : String} {lines : List String} {settings : List (String × String)}

theorem trim_eq_empty_iff {s : String} : trim s = "" ↔ ∀ c ∈ s.toList, isBlank c = true := by
  rw [trim, String.ofList_eq_empty_iff, Text.Chars.trim_eq_nil_iff]

theorem entryOf_of_isSkipped (h : IsSkipped line) : entryOf line = .blank := if_pos h

theorem entryOf_of_not_isSkipped (h : ¬IsSkipped line) :
    entryOf line = match Text.splitFirst? '=' line with
      | none => .malformed
      | some (before, after) =>
        if trim before = "" then .malformed else .setting (trim before) (trim after) :=
  if_neg h

theorem entryOf_of_split {before after : String}
    (h : ¬IsSkipped (before ++ "=" ++ after)) (hbefore : '=' ∉ before.toList) :
    entryOf (before ++ "=" ++ after) =
      if trim before = "" then .malformed else .setting (trim before) (trim after) := by
  have hcut : Text.splitFirst? '=' (before ++ "=" ++ after) = some (before, after) :=
    Text.splitFirst?_append hbefore
  rw [entryOf_of_not_isSkipped h, hcut]

theorem entryOf_of_isSetting (h : IsSetting line key value) :
    entryOf line = .setting key value := by
  cases h with
  | mk hskip hbefore hkey => rw [entryOf_of_split hskip hbefore, if_neg hkey]

theorem entryOf_of_isMalformed (h : IsMalformed line) : entryOf line = .malformed := by
  obtain ⟨hskip, hnone | ⟨before, after, rfl, hblank⟩⟩ := h
  · rw [entryOf_of_not_isSkipped hskip, Text.splitFirst?_eq_none_iff.2 hnone]
  · have hbefore : '=' ∉ before.toList := fun hmem => absurd (hblank '=' hmem) (by decide)
    rw [entryOf_of_split hskip hbefore, if_pos (trim_eq_empty_iff.2 hblank)]

/-- Every line has one of the three forms. -/
theorem line_cases (line : String) :
    IsSkipped line ∨ IsMalformed line ∨ ∃ key value, IsSetting line key value := by
  by_cases hskip : IsSkipped line
  · exact .inl hskip
  · refine .inr ?_
    cases hcut : Text.splitFirst? '=' line with
    | none => exact .inl ⟨hskip, .inl (Text.splitFirst?_eq_none_iff.1 hcut)⟩
    | some parts =>
      obtain ⟨before, after⟩ := parts
      obtain ⟨rfl, hbefore⟩ := Text.splitFirst?_eq_some_iff.1 hcut
      by_cases hkey : trim before = ""
      · exact .inl ⟨hskip, .inr ⟨before, after, rfl, trim_eq_empty_iff.1 hkey⟩⟩
      · exact .inr ⟨_, _, .mk hskip hbefore hkey⟩

theorem IsSetting.not_isMalformed (h : IsSetting line key value) : ¬IsMalformed line := by
  intro hbad
  have hsame := (entryOf_of_isMalformed hbad).symm.trans (entryOf_of_isSetting h)
  cases hsame

/-! ## All lines -/

inductive Settings : List String → List (String × String) → Prop where
  | nil : Settings [] []
  | skip {line : String} {lines : List String} {settings : List (String × String)} :
      IsSkipped (trim line) → Settings lines settings → Settings (line :: lines) settings
  | set {line key value : String} {lines : List String} {settings : List (String × String)} :
      IsSetting (trim line) key value → Settings lines settings →
      Settings (line :: lines) ((key, value) :: settings)

/-- The first malformed line and its number, where the first of the lines has the given one. -/
def FirstMalformed (number : Nat) (lines : List String) (e : LoadError) : Prop :=
  ∃ front line back, lines = front ++ line :: back ∧ (∀ l ∈ front, ¬IsMalformed (trim l)) ∧
    IsMalformed (trim line) ∧ e = .line (number + front.length) (trim line)

theorem FirstMalformed.cons {number : Nat} {e : LoadError} (hline : ¬IsMalformed (trim line))
    (h : FirstMalformed (number + 1) lines e) : FirstMalformed number (line :: lines) e := by
  obtain ⟨front, bad, back, rfl, hfront, hbad, rfl⟩ := h
  refine ⟨line :: front, bad, back, rfl, List.forall_mem_cons.2 ⟨hline, hfront⟩, hbad, ?_⟩
  rw [List.length_cons, Nat.add_assoc, Nat.add_comm 1]

/-- Lines either have a first malformed one among them or set parameters. -/
theorem firstMalformed_or_settings (number : Nat) (lines : List String) :
    (∃ e, FirstMalformed number lines e) ∨ ∃ settings, Settings lines settings := by
  induction lines generalizing number with
  | nil => exact .inr ⟨[], .nil⟩
  | cons line lines ih =>
    rcases line_cases (trim line) with hskip | hbad | ⟨key, value, hset⟩
    · rcases ih (number + 1) with ⟨e, he⟩ | ⟨settings, hsettings⟩
      · exact .inl ⟨e, he.cons fun hbad => hbad.1 hskip⟩
      · exact .inr ⟨settings, .skip hskip hsettings⟩
    · exact .inl ⟨_, [], line, lines, rfl, nofun, hbad, rfl⟩
    · rcases ih (number + 1) with ⟨e, he⟩ | ⟨settings, hsettings⟩
      · exact .inl ⟨e, he.cons hset.not_isMalformed⟩
      · exact .inr ⟨_, .set hset hsettings⟩

theorem FirstMalformed.exists_mem {number : Nat} {e : LoadError}
    (h : FirstMalformed number lines e) : ∃ line ∈ lines, IsMalformed (trim line) := by
  obtain ⟨front, bad, back, rfl, -, hbad, -⟩ := h
  exact ⟨bad, by simp, hbad⟩

theorem Settings.not_isMalformed (h : Settings lines settings) :
    ∀ line ∈ lines, ¬IsMalformed (trim line) := by
  induction h with
  | nil => exact nofun
  | skip hskip _ ih => exact List.forall_mem_cons.2 ⟨fun hbad => hbad.1 hskip, ih⟩
  | set hset _ ih => exact List.forall_mem_cons.2 ⟨hset.not_isMalformed, ih⟩

section AddLines

variable (p : Parameters) (number : Nat)

theorem addLines_skip (h : IsSkipped (trim line)) :
    addLines p number (line :: lines) = addLines p (number + 1) lines := by
  rw [addLines, entryOf_of_isSkipped h]

theorem addLines_set (h : IsSetting (trim line) key value) :
    addLines p number (line :: lines) = addLines (p.insert key value) (number + 1) lines := by
  rw [addLines, entryOf_of_isSetting h]

theorem addLines_malformed (h : IsMalformed (trim line)) :
    addLines p number (line :: lines) = .error (.line number (trim line)) := by
  rw [addLines, entryOf_of_isMalformed h]

theorem addLines_of_settings (h : Settings lines settings) :
    addLines p number lines = .ok (p.insertAll settings) := by
  induction h generalizing p number with
  | nil => rfl
  | skip hskip _ ih => rw [addLines_skip p number hskip, ih]
  | set hset _ ih =>
    rw [addLines_set p number hset, ih]
    rfl

theorem addLines_of_firstMalformed {number : Nat} {e : LoadError}
    (h : FirstMalformed number lines e) : addLines p number lines = .error e := by
  obtain ⟨front, bad, back, rfl, hfront, hbad, rfl⟩ := h
  induction front generalizing p number with
  | nil => exact addLines_malformed p number hbad
  | cons line front ih =>
    obtain ⟨hline, hfront⟩ := List.forall_mem_cons.1 hfront
    have hnumber : number + (line :: front).length = number + 1 + front.length := by
      rw [List.length_cons]
      omega
    rw [List.cons_append, hnumber]
    rcases line_cases (trim line) with hskip | hmalformed | ⟨key, value, hset⟩
    · rw [addLines_skip p number hskip, ih _ hfront]
    · exact absurd hmalformed hline
    · rw [addLines_set p number hset, ih _ hfront]

end AddLines

/-- What comes of lines: the first malformed one with its number, and if there is none the keys that
are set in the order in which they first are, each with the value it is set to last. -/
structure Loads (lines : List String) (r : Except LoadError Parameters) : Prop where
  fails : (∃ e, r = .error e) ↔ ∃ line ∈ lines, IsMalformed (trim line)
  error : ∀ e, r = .error e ↔ FirstMalformed 1 lines e
  ok : ∀ p, r = .ok p ↔ ∃ settings, Settings lines settings ∧
    p.keys = (settings.map Prod.fst).eraseDups ∧ ∀ k, p.get? k = settings.reverse.lookup k

theorem eq_ofList_iff {p : Parameters} : p = ofList settings ↔
    p.keys = (settings.map Prod.fst).eraseDups ∧ ∀ k, p.get? k = settings.reverse.lookup k := by
  constructor
  · rintro rfl
    exact ⟨keys_ofList settings, get?_ofList settings⟩
  · rintro ⟨hkeys, hget⟩
    refine ext_of_get? (hkeys.trans (keys_ofList settings).symm) fun k => ?_
    rw [hget, get?_ofList]

theorem loads_addLines (lines : List String) : Loads lines (addLines empty 1 lines) := by
  rcases firstMalformed_or_settings 1 lines with ⟨e, hfirst⟩ | ⟨settings, hsettings⟩
  · have hnone : ∀ settings, ¬Settings lines settings := fun settings hsettings =>
      have ⟨_, hmem, hbad⟩ := hfirst.exists_mem
      hsettings.not_isMalformed _ hmem hbad
    rw [addLines_of_firstMalformed empty hfirst]
    refine ⟨iff_of_true ⟨e, rfl⟩ hfirst.exists_mem, fun f => ⟨?_, fun hf => ?_⟩, fun p => ?_⟩
    · rintro h
      exact Except.error.inj h ▸ hfirst
    · rw [← addLines_of_firstMalformed empty hfirst, addLines_of_firstMalformed empty hf]
    · exact iff_of_false nofun fun ⟨settings, hsettings, _⟩ => hnone settings hsettings
  · have hclean : ¬∃ line ∈ lines, IsMalformed (trim line) := fun ⟨line, hmem, hbad⟩ =>
      hsettings.not_isMalformed line hmem hbad
    rw [addLines_of_settings empty 1 hsettings]
    refine ⟨iff_of_false nofun hclean, fun f => ?_, fun p => ⟨?_, ?_⟩⟩
    · exact iff_of_false nofun fun hf => hclean hf.exists_mem
    · rintro h
      exact ⟨settings, hsettings, eq_ofList_iff.1 (Except.ok.inj h).symm⟩
    · rintro ⟨settings', hsettings', hp⟩
      rw [← addLines_of_settings empty 1 hsettings, addLines_of_settings empty 1 hsettings',
        eq_ofList_iff.2 hp]
      rfl

/-! ## Parameters that are written as lines -/

def entryLine (e : String × String) : String := e.1 ++ " = " ++ e.2

def toLines (p : Parameters) : List String := p.entries.map entryLine

def text (p : Parameters) : String := String.join (p.toLines.map (· ++ "\n"))

structure FitsLine (e : String × String) : Prop where
  named : e.1 ≠ ""
  key : trim e.1 = e.1
  noEquals : '=' ∉ e.1.toList
  noComment : e.1.toList.head? ≠ some '#'
  value : trim e.2 = e.2
  oneLine : '\n' ∉ e.1.toList ∧ '\n' ∉ e.2.toList

instance (e : String × String) : Decidable (FitsLine e) :=
  decidable_of_iff (e.1 ≠ "" ∧ trim e.1 = e.1 ∧ '=' ∉ e.1.toList ∧ e.1.toList.head? ≠ some '#' ∧
      trim e.2 = e.2 ∧ '\n' ∉ e.1.toList ∧ '\n' ∉ e.2.toList)
    ⟨fun ⟨h₁, h₂, h₃, h₄, h₅, h₆⟩ => ⟨h₁, h₂, h₃, h₄, h₅, h₆⟩,
      fun ⟨h₁, h₂, h₃, h₄, h₅, h₆⟩ => ⟨h₁, h₂, h₃, h₄, h₅, h₆⟩⟩

theorem isTrimmed_of_trim_eq {s : String} (h : trim s = s) : Text.Chars.IsTrimmed s.toList := by
  rw [← h, trim, String.toList_ofList]
  exact Text.Chars.isTrimmed_trim _

section FitsLine

variable {e : String × String} (h : FitsLine e)

include h

/-- Behind the equals sign there is the value with a blank before it, or nothing where the value is
empty. -/
theorem FitsLine.trim_entryLine :
    ∃ after, trim (entryLine e) = e.1 ++ " " ++ "=" ++ after ∧ trim after = e.2 := by
  have hkey := isTrimmed_of_trim_eq h.key
  have hvalue := isTrimmed_of_trim_eq h.value
  have hblank : ∀ c ∈ [' '], isBlank c = true := by simp [isBlank]
  have hne : e.1.toList ≠ [] := mt String.toList_eq_nil_iff.1 h.named
  have hline : (entryLine e).toList = e.1.toList ++ ' ' :: '=' :: ' ' :: e.2.toList := by
    simp [entryLine]
  rw [trim, hline]
  by_cases hempty : e.2.toList = []
  · refine ⟨"", ?_, ?_⟩
    · have htrimmed : Text.Chars.IsTrimmed (e.1.toList ++ [' ', '=']) :=
        Text.Chars.isTrimmed_append hne (List.cons_ne_nil _ _) hkey.head (by simp [isBlank])
      have hcut : e.1.toList ++ [' ', '=', ' '] = e.1.toList ++ [' ', '='] ++ [' '] := by simp
      rw [hempty, hcut, Text.Chars.append_trim hblank htrimmed, ← String.toList_inj]
      simp
    · rw [← String.toList_inj, hempty]
      rfl
  · refine ⟨" " ++ e.2, ?_, ?_⟩
    · have htrimmed : Text.Chars.IsTrimmed (e.1.toList ++ ' ' :: '=' :: ' ' :: e.2.toList) := by
        refine Text.Chars.isTrimmed_append hne (List.cons_ne_nil _ _) hkey.head ?_
        have hlast := List.getLast?_append_of_ne_nil [' ', '=', ' '] hempty
        exact hlast ▸ hvalue.last
      rw [htrimmed.trim_eq, ← String.toList_inj]
      simp
    · have hspace : (" " ++ e.2).toList = [' '] ++ e.2.toList := by simp
      rw [trim, hspace, Text.Chars.trim_append hblank hvalue, String.ofList_toList]

theorem FitsLine.isSetting : IsSetting (trim (entryLine e)) e.1 e.2 := by
  obtain ⟨after, hline, hvalue⟩ := h.trim_entryLine
  have hkey : trim (e.1 ++ " ") = e.1 := by
    have hspace : (e.1 ++ " ").toList = e.1.toList ++ [' '] := by simp
    rw [trim, hspace, Text.Chars.append_trim (by simp [isBlank]) (isTrimmed_of_trim_eq h.key),
      String.ofList_toList]
  have hhead : (e.1 ++ " " ++ "=" ++ after).toList.head? = e.1.toList.head? := by
    have hne : e.1.toList ≠ [] := mt String.toList_eq_nil_iff.1 h.named
    simp [List.head?_append_of_ne_nil _ hne]
  have hskip : ¬IsSkipped (e.1 ++ " " ++ "=" ++ after) := by
    rintro (hempty | hcomment)
    · simp [h.named] at hempty
    · exact h.noComment (hhead.symm.trans hcomment)
  have hsetting : IsSetting (e.1 ++ " " ++ "=" ++ after) (trim (e.1 ++ " ")) (trim after) :=
    .mk hskip (by simpa using h.noEquals) (by rw [hkey]; exact h.named)
  rwa [hkey, hvalue, ← hline] at hsetting

theorem FitsLine.notMem_entryLine : '\n' ∉ (entryLine e).toList := by
  simpa [entryLine] using h.oneLine

theorem FitsLine.getLast?_entryLine : (entryLine e).toList.getLast? ≠ some '\r' := by
  have hline : (entryLine e).toList = (e.1 ++ " = ").toList ++ e.2.toList := by simp [entryLine]
  rw [hline]
  by_cases hempty : e.2.toList = []
  · simp [hempty]
  · rw [List.getLast?_append_of_ne_nil _ hempty]
    intro hreturn
    have hblank := (isTrimmed_of_trim_eq h.value).last _ hreturn
    exact absurd hblank (by decide)

end FitsLine

theorem settings_of_fitsLine {l : List (String × String)} (h : ∀ e ∈ l, FitsLine e) :
    Settings (l.map entryLine) l := by
  induction l with
  | nil => exact .nil
  | cons e l ih =>
    obtain ⟨he, hl⟩ := List.forall_mem_cons.1 h
    exact .set he.isSetting (ih hl)

theorem isLines_of_fitsLine {l : List (String × String)} (h : ∀ e ∈ l, FitsLine e) :
    Text.IsLines (String.join ((l.map entryLine).map (· ++ "\n"))) (l.map entryLine) := by
  induction l with
  | nil => exact .nil
  | cons e l ih =>
    obtain ⟨he, hl⟩ := List.forall_mem_cons.1 h
    have hjoin : (String.join (((e :: l).map entryLine).map (· ++ "\n"))).toList =
        (entryLine e).toList ++
          '\n' :: (String.join ((l.map entryLine).map (· ++ "\n"))).toList := by
      simp [String.toList_join]
    rw [Text.IsLines, hjoin]
    exact .feed he.notMem_entryLine he.getLast?_entryLine (ih hl)

/-- A text is read by its lines: the first malformed one is named with its number, and where there
is none the others set the parameters. Parameters whose entries fit on lines are read back from
every text that has these lines. -/
theorem loads_lines (s : String) (p : Parameters) :
    (Text.IsLines s (Text.lines s) ∧ Loads (Text.lines s) (ofText s)) ∧
      ((∀ e ∈ p.entries, FitsLine e) → Text.IsLines p.text p.toLines ∧
        (Text.IsLines s p.toLines → ofText s = .ok p)) := by
  refine ⟨⟨Text.isLines_iff.2 rfl, loads_addLines _⟩, fun h => ?_⟩
  refine ⟨isLines_of_fitsLine h, fun hs => ?_⟩
  rw [ofText, Text.isLines_iff.1 hs, toLines, addLines_of_settings empty 1 (settings_of_fitsLine h)]
  exact congrArg Except.ok p.ofList_entries

/-- Lines may end in different ways, and a value may be empty or hold what would mean something
elsewhere. -/
theorem loads_lines_mixed :
    let p := ofList [("images", "a b"), ("note", "# x = y"), ("empty", "")]
    let s := "images = a b\r\nnote = # x = y\nempty = "
    (∀ e ∈ p.entries, FitsLine e) ∧ Text.IsLines s p.toLines ∧ ofText s = .ok p := by
  intro p s
  have hfits : ∀ e ∈ p.entries, FitsLine e := by decide +kernel
  have hlines : Text.IsLines s p.toLines := Text.isLines_iff.2 (by decide +kernel)
  exact ⟨hfits, hlines, ((loads_lines s p).2 hfits).2 hlines⟩

example : (ofText "a = 1\n# b\n\n a = 2 \nb").map entries = .error (.line 5 "b") := by
  decide +kernel
example : (ofText "a = 1\nb = \n a = 2 ").map entries = .ok [("a", "2"), ("b", "")] := by
  decide +kernel

end GuestSpec.Parameters
