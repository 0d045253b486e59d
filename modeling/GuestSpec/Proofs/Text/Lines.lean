import GuestSpec.Proofs.Text.Split

/-!
# Lines of a text

A line ends in a line feed, or in a carriage return and a line feed, or with the text. These rules
give every text its lines and no others.
-/

namespace GuestSpec.Text

namespace Chars

variable {s a b line : List Char} {ls : List (List Char)}

/-- A text and its lines. What stands behind the last line feed is a line unless it is empty, and a
carriage return is part of a line where no line feed follows it. -/
inductive IsLines : List Char → List (List Char) → Prop where
  | nil : IsLines [] []
  | last {line : List Char} : line ≠ [] → '\n' ∉ line → IsLines line [line]
  | feed {line rest : List Char} {lines : List (List Char)} : '\n' ∉ line →
      line.getLast? ≠ some '\r' → IsLines rest lines →
      IsLines (line ++ '\n' :: rest) (line :: lines)
  | returnFeed {line rest : List Char} {lines : List (List Char)} : '\n' ∉ line →
      IsLines rest lines → IsLines (line ++ '\r' :: '\n' :: rest) (line :: lines)

theorem dropReturn_concat (s : List Char) : dropReturn (s ++ ['\r']) = s := by
  rw [dropReturn, List.reverse_append]
  exact s.reverse_reverse

theorem dropReturn_eq_self (h : s.getLast? ≠ some '\r') : dropReturn s = s := by
  rw [dropReturn]
  split
  · next r hr =>
    rw [← List.head?_reverse, hr] at h
    exact absurd rfl h
  · rfl

theorem not_feed (h : '\n' ∉ a) : ∀ c ∈ a, (c == '\n') = false := by
  intro c hc
  simpa using ne_of_mem_of_not_mem hc h

theorem lines_of_notMem (h : '\n' ∉ line) (hne : line ≠ []) : lines line = [line] := by
  have hpieces : splitWhere (· == '\n') line = [line] := by
    rw [← List.append_nil line]
    exact splitWhere_append (not_feed h) rfl
  cases line with
  | nil => exact absurd rfl hne
  | cons c line => rw [lines, hpieces]; rfl

theorem lines_append_feed (h : '\n' ∉ a) : lines (a ++ '\n' :: b) = dropReturn a :: lines b := by
  have hpieces : splitWhere (· == '\n') (a ++ '\n' :: b) = a :: splitWhere (· == '\n') b :=
    splitWhere_append_cons (not_feed h) rfl
  have hne := splitWhere_ne_nil (· == '\n') b
  rw [lines, lines, hpieces]
  rw [List.dropLast_cons_of_ne_nil hne, List.map_cons, List.getLast?_cons_of_ne_nil hne]
  split
  · rfl
  · rfl

theorem lines_eq_of_isLines (h : IsLines s ls) : lines s = ls := by
  induction h with
  | nil => rfl
  | last hne hline => exact lines_of_notMem hline hne
  | feed hline hreturn _ ih => rw [lines_append_feed hline, dropReturn_eq_self hreturn, ih]
  | @returnFeed line rest _ hline _ ih =>
    have hfeed : '\n' ∉ line ++ ['\r'] := by simpa using hline
    have hsplit : line ++ '\r' :: '\n' :: rest = line ++ ['\r'] ++ '\n' :: rest := by simp
    rw [hsplit, lines_append_feed hfeed, dropReturn_concat, ih]

theorem isLines_lines (s : List Char) : IsLines s (lines s) := by
  -- what follows the first line feed is shorter
  induction hn : s.length using Nat.strong_induction_on generalizing s with
  | _ n ih =>
    by_cases hfeed : '\n' ∈ s
    · obtain ⟨a, b, rfl, ha⟩ := List.eq_append_cons_of_mem hfeed
      have hlength : b.length < n := by
        rw [← hn, List.length_append, List.length_cons]
        omega
      have hrest : IsLines b (lines b) := ih b.length hlength b rfl
      rw [lines_append_feed ha]
      by_cases hreturn : a.getLast? = some '\r'
      · obtain ⟨line, rfl⟩ := List.getLast?_eq_some_iff.1 hreturn
        rw [dropReturn_concat, List.append_assoc]
        exact .returnFeed (fun hmem => ha (List.mem_append_left _ hmem)) hrest
      · rw [dropReturn_eq_self hreturn]
        exact .feed ha hreturn hrest
    · cases s with
      | nil => exact .nil
      | cons c s =>
        rw [lines_of_notMem hfeed (List.cons_ne_nil _ _)]
        exact .last (List.cons_ne_nil _ _) hfeed

end Chars

def IsLines (s : String) (ls : List String) : Prop := Chars.IsLines s.toList (ls.map String.toList)

theorem isLines_iff {s : String} {ls : List String} : IsLines s ls ↔ lines s = ls := by
  have hlist : (lines s).map String.toList = Chars.lines s.toList := by simp [lines]
  constructor
  · intro h
    have hsame := hlist.trans (Chars.lines_eq_of_isLines h)
    exact List.map_injective_iff.2 (fun _ _ => String.toList_inj.1) hsame
  · rintro rfl
    rw [IsLines, hlist]
    exact Chars.isLines_lines _

end GuestSpec.Text
