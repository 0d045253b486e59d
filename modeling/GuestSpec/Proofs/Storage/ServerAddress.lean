import GuestSpec.Proofs.Text.Numeral
import GuestSpec.Proofs.Text.Split
import GuestSpec.Storage.Locator

/-!
# Addresses of servers

A locator that names a server has the address between the scheme and the first slash: a name or
something in brackets, and a port behind a colon. What is read is the host and the port that are
written there.
-/

namespace GuestSpec.Storage

/-! ## The grammar -/

inductive WritesHost : Bool → String → String → Prop where
  | name {host : String} (hne : host ≠ "") (hcolon : ':' ∉ host.toList)
      (hbracket : host.toList.head? ≠ some '[') : WritesHost false host host
  | bracketed {host : String} (hne : host ≠ "") (hbracket : ']' ∉ host.toList) :
      WritesHost true ("[" ++ host ++ "]") host

/-- The text behind a host: nothing, or a colon and the digits of a port. -/
inductive WritesPort : String → Option UInt16 → Prop where
  | absent : WritesPort "" none
  | given {digits : String} {port : UInt16} (h : Numeral.IsDecimal digits.toList port.toNat) :
      WritesPort (":" ++ digits) (some port)

/-- A text that is read as a port and is none: there is a plus sign before the digits, or no colon
behind the bracket. -/
inductive WritesLoosePort : Bool → String → Option UInt16 → Prop where
  | signed {bracketed : Bool} {digits : String} {port : UInt16}
      (h : Numeral.IsDecimal digits.toList port.toNat) :
      WritesLoosePort bracketed (":" ++ ("+" ++ digits)) (some port)
  | unmarked {sign digits : String} {port : UInt16} (hsign : sign = "" ∨ sign = "+")
      (h : Numeral.IsDecimal digits.toList port.toNat) :
      WritesLoosePort true (sign ++ digits) (some port)

/-- A text is the address of a host, with a port or without. -/
def IsAddress (text host : String) (port : Option UInt16) : Prop :=
  ∃ bracketed hostText tail,
    text = hostText ++ tail ∧ WritesHost bracketed hostText host ∧ WritesPort tail port

/-- A text is no address and is taken for one nevertheless. -/
def IsLooseAddress (text host : String) (port : Option UInt16) : Prop :=
  ∃ bracketed hostText tail,
    text = hostText ++ tail ∧ WritesHost bracketed hostText host ∧
      WritesLoosePort bracketed tail port

/-- What can stand behind the text of a host so that one sees where it ends: behind a name only
something that starts with a colon. -/
def IsTail (bracketed : Bool) (tail : String) : Prop :=
  bracketed = false → tail = "" ∨ ∃ rest, tail = ":" ++ rest

theorem WritesPort.isTail {tail : String} {port : Option UInt16} (h : WritesPort tail port)
    (bracketed : Bool) : IsTail bracketed tail := by
  intro _
  cases h with
  | absent => exact .inl rfl
  | given _ => exact .inr ⟨_, rfl⟩

theorem WritesLoosePort.isTail {bracketed : Bool} {tail : String} {port : Option UInt16}
    (h : WritesLoosePort bracketed tail port) : IsTail bracketed tail := by
  intro hname
  cases h with
  | signed _ => exact .inr ⟨_, rfl⟩
  | unmarked _ _ => cases hname

theorem WritesHost.ne_empty {bracketed : Bool} {text host : String}
    (h : WritesHost bracketed text host) : host ≠ "" := by
  cases h with
  | name hne => exact hne
  | bracketed hne => exact hne

/-! ## Reading -/

theorem hostAndPort_of_head?_ne {text : String} (scheme : String)
    (h : text.toList.head? ≠ some '[') : hostAndPort scheme text = .ok (splitOff ':' text) := by
  unfold hostAndPort
  split
  · next hlist => exact absurd (by rw [hlist]; rfl) h
  · rfl

theorem hostAndPort_bracket (scheme rest : String) :
    hostAndPort scheme ("[" ++ rest) =
      match Text.splitFirst? ']' rest with
      | some (host, tail) =>
        .ok (host, (nonempty? tail).map fun t => (Text.afterLeading? ":" t).getD t)
      | none => .error (.malformed scheme "unterminated IPv6 address") := by
  have hlist : ("[" ++ rest).toList = '[' :: rest.toList := by simp
  unfold hostAndPort
  split
  · next tail htail =>
    obtain rfl : rest.toList = tail := (List.cons.inj (hlist.symm.trans htail)).2
    rw [String.ofList_toList]
    cases Text.splitFirst? ']' rest <;> rfl
  · next hne => exact absurd hlist (hne _)

theorem splitOff_eq_iff {sep : Char} {s a : String} {b : Option String} :
    splitOff sep s = (a, b) ↔
      sep ∉ a.toList ∧ s = a ++ b.elim "" (String.singleton sep ++ ·) := by
  unfold splitOff
  cases hsplit : Text.splitFirst? sep s with
  | none =>
    have hsep := Text.splitFirst?_eq_none_iff.1 hsplit
    constructor
    · rintro ⟨⟩
      exact ⟨hsep, by simp⟩
    · rintro ⟨-, rfl⟩
      cases b with
      | none => simp
      | some b => simp at hsep
  | some r =>
    obtain ⟨rfl, hsep⟩ := Text.splitFirst?_eq_some_iff.1 hsplit
    constructor
    · rintro ⟨⟩
      exact ⟨hsep, String.append_assoc⟩
    · rintro ⟨ha, htext⟩
      cases b with
      | none =>
        rw [Option.elim_none, String.append_empty] at htext
        exact absurd (by simp [← htext]) ha
      | some b =>
        rw [Option.elim_some, ← String.append_assoc] at htext
        rw [htext, Text.splitFirst?_append ha] at hsplit
        obtain ⟨rfl, rfl⟩ := Option.some.inj hsplit
        rfl

/-- What is read of an address are its host and its port. -/
theorem server_eq_ok_iff {scheme text : String} {address : ServerAddress} :
    server scheme text = .ok address ↔
      ∃ host raw port, hostAndPort scheme text = .ok (host, raw) ∧ host ≠ "" ∧
        raw.map Numeral.uint16? = port.map some ∧ address = .inet host port := by
  unfold server
  cases hostAndPort scheme text with
  | error e => exact iff_of_false nofun nofun
  | ok r =>
    obtain ⟨host, raw⟩ := r
    simp only [Except.ok.injEq, Prod.mk.injEq]
    change (if host = "" then _ else _) = _ ↔ _
    by_cases hhost : host = ""
    · rw [if_pos hhost]
      refine iff_of_false nofun ?_
      rintro ⟨host, raw, port, ⟨rfl, rfl⟩, hne, -⟩
      exact hne hhost
    · rw [if_neg hhost]
      cases raw with
      | none =>
        constructor
        · rintro ⟨⟩
          exact ⟨host, none, none, ⟨rfl, rfl⟩, hhost, rfl, rfl⟩
        · rintro ⟨_, _, port, ⟨rfl, rfl⟩, -, hport, rfl⟩
          rw [Option.map_none, eq_comm, Option.map_eq_none_iff] at hport
          rw [hport]
          rfl
      | some raw =>
        change (orMalformed _ _ (Numeral.uint16? raw) >>= _) = _ ↔ _
        cases hnumber : Numeral.uint16? raw with
        | none =>
          refine iff_of_false nofun ?_
          rintro ⟨_, _, port, ⟨rfl, rfl⟩, -, hport, -⟩
          cases port <;> simp [hnumber] at hport
        | some n =>
          constructor
          · rintro ⟨⟩
            exact ⟨host, some raw, some n, ⟨rfl, rfl⟩, hhost, congrArg some hnumber, rfl⟩
          · rintro ⟨_, _, port, ⟨rfl, rfl⟩, -, hport, rfl⟩
            rw [Option.map_some, hnumber] at hport
            obtain ⟨n', rfl, hn⟩ := Option.map_eq_some_iff.1 hport.symm
            rw [← Option.some.inj hn]
            rfl

/-! ## What is read -/

def portText (tail : String) : Option String :=
  (nonempty? tail).map fun t => (Text.afterLeading? ":" t).getD t

theorem portText_colon (rest : String) : portText (":" ++ rest) = some rest := by
  have hne : ":" ++ rest ≠ "" := by simp
  rw [portText, nonempty?, if_neg hne, Option.map_some, Text.afterLeading?_eq_some_iff.2 rfl,
    Option.getD_some]

theorem portText_of_not_colon {tail : String} (hne : tail ≠ "")
    (hcolon : ∀ rest, tail ≠ ":" ++ rest) : portText tail = some tail := by
  have hafter : Text.afterLeading? ":" tail = none := by
    rw [Option.eq_none_iff_forall_ne_some]
    exact fun rest h => hcolon rest (Text.afterLeading?_eq_some_iff.1 h)
  rw [portText, nonempty?, if_neg hne, Option.map_some, hafter, Option.getD_none]

theorem hostAndPort_append {bracketed : Bool} {text host tail : String} (scheme : String)
    (h : WritesHost bracketed text host) (htail : IsTail bracketed tail) :
    hostAndPort scheme (text ++ tail) = .ok (host, portText tail) := by
  cases h with
  | bracketed hne hbracket =>
    have hcut : Text.splitFirst? ']' (host ++ "]" ++ tail) = some (host, tail) :=
      Text.splitFirst?_append hbracket
    rw [String.append_assoc, String.append_assoc, hostAndPort_bracket, ← String.append_assoc, hcut]
    rfl
  | name hne hcolon hbracket =>
    have hhead : (text ++ tail).toList.head? ≠ some '[' := by
      rw [String.toList_append, List.head?_append_of_ne_nil _ (by simpa using hne)]
      exact hbracket
    rw [hostAndPort_of_head?_ne scheme hhead]
    obtain rfl | ⟨rest, rfl⟩ := htail rfl
    · rw [splitOff_eq_iff.2 ⟨hcolon, by rw [Option.elim_none]⟩]
      rfl
    · rw [portText_colon]
      exact congrArg _ (splitOff_eq_iff.2 ⟨hcolon, rfl⟩)

theorem exists_of_hostAndPort {scheme text host : String} {raw : Option String}
    (h : hostAndPort scheme text = .ok (host, raw)) (hne : host ≠ "") :
    ∃ bracketed hostText tail, text = hostText ++ tail ∧ WritesHost bracketed hostText host ∧
      IsTail bracketed tail ∧ raw = portText tail := by
  by_cases hhead : text.toList.head? = some '['
  · obtain ⟨rest, htext⟩ : ∃ rest, text = "[" ++ rest := by
      obtain ⟨rest, hrest⟩ := List.head?_eq_some_iff.1 hhead
      exact ⟨String.ofList rest, by rw [← String.toList_inj, hrest]; simp⟩
    subst htext
    rw [hostAndPort_bracket] at h
    split at h
    · next hcut =>
      obtain ⟨rfl, hbracket⟩ := Text.splitFirst?_eq_some_iff.1 hcut
      cases h
      exact ⟨true, "[" ++ host ++ "]", _, by simp [String.append_assoc], .bracketed hne hbracket,
        nofun, rfl⟩
    · cases h
  · rw [hostAndPort_of_head?_ne scheme hhead] at h
    obtain ⟨hcolon, htext⟩ := splitOff_eq_iff.1 (Except.ok.inj h)
    have hbracket : host.toList.head? ≠ some '[' := by
      rwa [htext, String.toList_append, List.head?_append_of_ne_nil _ (by simpa using hne)] at hhead
    refine ⟨false, host, _, htext, .name hne hcolon hbracket, fun _ => ?_, ?_⟩
    · cases raw with
      | none => exact .inl rfl
      | some raw => exact .inr ⟨raw, rfl⟩
    · cases raw with
      | none => rfl
      | some raw => exact (portText_colon raw).symm

theorem uint16?_eq_some_iff {raw : String} {port : UInt16} :
    Numeral.uint16? raw = some port ↔ ∃ sign digits, (sign = "" ∨ sign = "+") ∧
      raw = sign ++ digits ∧ Numeral.IsDecimal digits.toList port.toNat := by
  rw [Numeral.uint16?_eq_some_iff]
  constructor
  · rintro (h | ⟨digits, hraw, h⟩)
    · exact ⟨"", raw, .inl rfl, by simp, h⟩
    · refine ⟨"+", String.ofList digits, .inr rfl, ?_, by rwa [String.toList_ofList]⟩
      rw [← String.toList_inj, hraw]
      simp
  · rintro ⟨sign, digits, rfl | rfl, rfl, h⟩
    · exact .inl (by simpa using h)
    · exact .inr ⟨digits.toList, by simp, h⟩

theorem signed_ne_colon {sign digits : String} {n : Nat} (hsign : sign = "" ∨ sign = "+")
    (h : Numeral.IsDecimal digits.toList n) (rest : String) : sign ++ digits ≠ ":" ++ rest := by
  intro heq
  have hcolon : digits.toList ≠ ':' :: rest.toList := by
    intro hdigits
    exact absurd (h.isDigit ':' (hdigits ▸ List.mem_cons_self)) (by decide)
  have hlist := congrArg String.toList heq
  obtain rfl | rfl := hsign
  · exact hcolon (by simpa using hlist)
  · simp at hlist

theorem signed_ne_empty {sign digits : String} {n : Nat}
    (h : Numeral.IsDecimal digits.toList n) : sign ++ digits ≠ "" := by
  intro heq
  refine h.ne_nil ?_
  have hlist := congrArg String.toList heq
  simp at hlist
  simp [hlist.2]

theorem map_portText_iff {bracketed : Bool} {tail : String} {port : Option UInt16}
    (htail : IsTail bracketed tail) :
    (portText tail).map Numeral.uint16? = port.map some ↔
      WritesPort tail port ∨ WritesLoosePort bracketed tail port := by
  constructor
  · intro h
    by_cases hne : tail = ""
    · subst hne
      cases port with
      | none => exact .inl .absent
      | some port => cases h
    by_cases hcolon : ∃ rest, tail = ":" ++ rest
    · obtain ⟨rest, rfl⟩ := hcolon
      rw [portText_colon] at h
      cases port with
      | none => cases h
      | some port =>
        obtain ⟨sign, digits, rfl | rfl, rfl, hdigits⟩ :=
          uint16?_eq_some_iff.1 (Option.some.inj h)
        · rw [String.empty_append]
          exact .inl (.given hdigits)
        · exact .inr (.signed hdigits)
    · have hbracketed : bracketed = true := by
        by_contra hname
        exact (htail (by simpa using hname)).elim hne hcolon
      subst hbracketed
      rw [portText_of_not_colon hne (not_exists.1 hcolon)] at h
      cases port with
      | none => cases h
      | some port =>
        obtain ⟨sign, digits, hsign, rfl, hdigits⟩ := uint16?_eq_some_iff.1 (Option.some.inj h)
        exact .inr (.unmarked hsign hdigits)
  · rintro (h | h)
    · cases h with
      | absent => rfl
      | @given digits port h =>
        rw [portText_colon]
        exact congrArg some (uint16?_eq_some_iff.2 ⟨"", digits, .inl rfl, by simp, h⟩)
    · cases h with
      | @signed _ digits port h =>
        rw [portText_colon]
        exact congrArg some (uint16?_eq_some_iff.2 ⟨"+", digits, .inr rfl, rfl, h⟩)
      | @unmarked sign digits port hsign h =>
        rw [portText_of_not_colon (signed_ne_empty h) (signed_ne_colon hsign h)]
        exact congrArg some (uint16?_eq_some_iff.2 ⟨sign, digits, hsign, rfl, h⟩)

/-- A text of a host is as long as can be seen from what stands behind it. -/
theorem WritesHost.tail_eq {bracketed bracketed' : Bool} {text text' host host' tail tail' : String}
    (h : WritesHost bracketed text host) (h' : WritesHost bracketed' text' host')
    (htail : IsTail bracketed tail) (htail' : IsTail bracketed' tail')
    (heq : text ++ tail = text' ++ tail') : tail = tail' := by
  have hcut := hostAndPort_append "" h htail
  rw [heq, hostAndPort_append "" h' htail'] at hcut
  obtain rfl : host' = host := (Prod.mk.inj (Except.ok.inj hcut)).1
  have hlist := congrArg String.toList heq
  simp only [String.toList_append] at hlist
  cases h with
  | name hne _ hbracket =>
    cases h' with
    | name => simpa [String.toList_inj] using hlist
    | bracketed _ _ =>
      rw [← List.head?_append_of_ne_nil _ (by simpa using hne), hlist] at hbracket
      simp at hbracket
  | bracketed hne _ =>
    cases h' with
    | name _ _ hbracket =>
      rw [← List.head?_append_of_ne_nil _ (by simpa using hne), ← hlist] at hbracket
      simp at hbracket
    | bracketed _ _ => simpa [String.toList_inj] using hlist

theorem IsAddress.not_isLooseAddress {text host host' : String} {port port' : Option UInt16}
    (h : IsAddress text host port) : ¬ IsLooseAddress text host' port' := by
  obtain ⟨bracketed, hostText, tail, rfl, hhost, hport⟩ := h
  rintro ⟨bracketed', hostText', tail', heq, hhost', hport'⟩
  obtain rfl := hhost.tail_eq hhost' (hport.isTail _) hport'.isTail heq
  generalize htail : tail = loose at hport'
  cases hport with
  | absent =>
    cases hport' with
    | signed _ => simp at htail
    | unmarked _ hloose => exact signed_ne_empty hloose htail.symm
  | given hdigits =>
    cases hport' with
    | signed _ =>
      have hlist := congrArg String.toList htail
      simp only [String.toList_append] at hlist
      exact hdigits.ne_plus (List.append_cancel_left hlist)
    | unmarked hsign hloose => exact signed_ne_colon hsign hloose _ htail.symm

/-- A server is read of an address, and of a text that is taken for one. -/
theorem server_eq_ok_iff_isAddress {scheme text : String} {address : ServerAddress} :
    server scheme text = .ok address ↔
      ∃ host port, (IsAddress text host port ∨ IsLooseAddress text host port) ∧
        address = .inet host port := by
  rw [server_eq_ok_iff]
  constructor
  · rintro ⟨host, raw, port, hcut, hne, hport, rfl⟩
    obtain ⟨bracketed, hostText, tail, rfl, hhost, htail, rfl⟩ := exists_of_hostAndPort hcut hne
    refine ⟨host, port, ?_, rfl⟩
    obtain h | h := (map_portText_iff htail).1 hport
    · exact .inl ⟨bracketed, hostText, tail, rfl, hhost, h⟩
    · exact .inr ⟨bracketed, hostText, tail, rfl, hhost, h⟩
  · rintro ⟨host, port, h | h, rfl⟩
    · obtain ⟨bracketed, hostText, tail, rfl, hhost, hport⟩ := h
      have htail := hport.isTail bracketed
      exact ⟨host, portText tail, port, hostAndPort_append scheme hhost htail, hhost.ne_empty,
        (map_portText_iff htail).2 (.inl hport), rfl⟩
    · obtain ⟨bracketed, hostText, tail, rfl, hhost, hport⟩ := h
      have htail := hport.isTail
      exact ⟨host, portText tail, port, hostAndPort_append scheme hhost htail, hhost.ne_empty,
        (map_portText_iff htail).2 (.inr hport), rfl⟩

end GuestSpec.Storage
