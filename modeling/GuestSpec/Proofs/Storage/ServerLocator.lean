import GuestSpec.Proofs.Storage.ServerAddress

/-!
# Locators that name a server

Four schemes have a server between the scheme and the first slash. When such a locator is accepted,
its node goes to the server that is written there. The schemes differ in what they want behind the
slash, and in the user that may stand before the address.
-/

namespace GuestSpec.Storage

/-! ## Locators, cut into parts -/

inductive ServerScheme where
  | nbd
  | iscsi
  | gluster
  | ssh
  deriving DecidableEq

def ServerScheme.name : ServerScheme → String
  | nbd => "nbd"
  | iscsi => "iscsi"
  | gluster => "gluster"
  | ssh => "ssh"

structure ServerUrl where
  scheme : ServerScheme
  authority : String
  /-- What follows the first slash behind the authority. -/
  path : Option String
  noSlash : '/' ∉ authority.toList

namespace ServerUrl

variable (u : ServerUrl)

def rest : String := u.authority ++ u.path.elim "" ("/" ++ ·)

def text : String := u.scheme.name ++ ("://" ++ u.rest)

/-- The text of the address: the authority, without the user that may stand in front of it. -/
def address : String :=
  match u.scheme, Text.splitFirst? '@' u.authority with
  | .ssh, some (_, host) => host
  | _, _ => u.authority

/-- Behind the authority stands what the scheme needs. -/
def PathFits : Prop :=
  match u.scheme, u.path.getD "" with
  | .nbd, _ => True
  | .iscsi, path => ∃ target lun n, path = target ++ "/" ++ lun ∧ '/' ∉ target.toList ∧
      target ≠ "" ∧ Numeral.uint32? lun = some n
  | .gluster, path => ∃ volume image, path = volume ++ "/" ++ image ∧ '/' ∉ volume.toList ∧
      volume ≠ "" ∧ image ≠ ""
  | .ssh, path => path ≠ ""

/-- A node goes to a server. A portal is given as the text of its address. -/
def Reaches (server : ServerAddress) : ProtocolNode → Prop
  | .nbd address _ => u.scheme = .nbd ∧ address = server
  | .iscsi portal _ _ => u.scheme = .iscsi ∧ portal = u.authority
  | .gluster address _ _ => u.scheme = .gluster ∧ address = server
  | .ssh address _ _ => u.scheme = .ssh ∧ address = server
  | _ => False

end ServerUrl

def wrapped (config : Option String) (text : String) : String :=
  config.elim text fun c => "blkdebug:" ++ (c ++ ":" ++ text)

def wrap (config : Option String) (node : ProtocolNode) : Locator :=
  config.elim (.plain node) fun c => .blkdebug c node

/-! ## What is read of a locator -/

theorem bind_ne_unknown {α β : Type} {x : Except Refusal α} {f : α → Except Refusal β}
    (hx : x ≠ .error .unknown) (hf : ∀ a, f a ≠ .error .unknown) : x >>= f ≠ .error .unknown := by
  cases x with
  | error e => exact fun h => hx (congrArg Except.error (Except.error.inj h))
  | ok a => exact hf a

theorem orMalformed_ne_unknown {α : Type} (scheme reason : String) (a : Option α) :
    orMalformed scheme reason a ≠ .error .unknown := by
  cases a <;> nofun

theorem server_ne_unknown (scheme text : String) : server scheme text ≠ .error .unknown := by
  refine bind_ne_unknown ?_ fun r => ?_
  · unfold hostAndPort
    split
    · exact bind_ne_unknown (orMalformed_ne_unknown _ _ _) nofun
    · nofun
  · obtain ⟨host, raw⟩ := r
    dsimp only
    split
    · nofun
    · cases raw with
      | none => nofun
      | some raw => exact bind_ne_unknown (orMalformed_ne_unknown _ _ _) nofun

theorem twoParts?_eq_some_iff {s a b : String} :
    twoParts? s = some (a, b) ↔ s = a ++ "/" ++ b ∧ '/' ∉ a.toList ∧ a ≠ "" ∧ b ≠ "" := by
  rw [← and_assoc]
  change _ ↔ (s = a ++ String.singleton '/' ++ b ∧ _) ∧ _
  rw [← Text.splitFirst?_eq_some_iff, twoParts?]
  cases Text.splitFirst? '/' s with
  | none => exact iff_of_false nofun fun h => nomatch h.1
  | some r =>
    obtain ⟨a', b'⟩ := r
    by_cases hempty : a' = "" ∨ b' = ""
    · simp only [if_pos hempty, Option.some.injEq, Prod.mk.injEq]
      refine iff_of_false nofun ?_
      rintro ⟨⟨rfl, rfl⟩, ha, hb⟩
      exact hempty.elim ha hb
    · simp only [if_neg hempty, Option.some.injEq, Prod.mk.injEq]
      refine ⟨?_, fun h => h.1⟩
      rintro ⟨rfl, rfl⟩
      exact ⟨⟨rfl, rfl⟩, not_or.1 hempty⟩

namespace ServerUrl

variable {u : ServerUrl}

/-- A locator is read by reading its address: it gives a node when the address gives a server and
the rest fits, and this node goes to the server. -/
structure IsReadBy (u : ServerUrl) (x : Except Refusal ProtocolNode) : Prop where
  ne_unknown : x ≠ .error .unknown
  accepted : ∀ node, x = .ok node →
    u.PathFits ∧ ∃ server, Storage.server u.scheme.name u.address = .ok server ∧
      u.Reaches server node
  accepts : ∀ server, Storage.server u.scheme.name u.address = .ok server → u.PathFits →
    ∃ node, x = .ok node

theorem splitOff_rest (u : ServerUrl) : splitOff '/' u.rest = (u.authority, u.path) :=
  splitOff_eq_iff.2 ⟨u.noSlash, rfl⟩

theorem exists_head?_text (u : ServerUrl) :
    ∃ c ∈ ['n', 'i', 'g', 's'], u.text.toList.head? = some c := by
  rw [text]
  cases u.scheme <;> simp [ServerScheme.name]

theorem text_ne_empty (u : ServerUrl) : u.text ≠ "" := by
  intro hempty
  obtain ⟨c, -, hc⟩ := u.exists_head?_text
  rw [hempty] at hc
  cases hc

theorem afterLeading?_text (u : ServerUrl) {p : String} {c : Char} (hp : p.toList.head? = some c)
    (hc : c ∉ ['n', 'i', 'g', 's']) : Text.afterLeading? p u.text = none := by
  rw [Option.eq_none_iff_forall_ne_some]
  intro rest h
  obtain ⟨d, hd, hhead⟩ := u.exists_head?_text
  rw [Text.afterLeading?_eq_some_iff.1 h, String.toList_append, List.head?_append, hp] at hhead
  exact hc (Option.some.inj hhead ▸ hd)

theorem ofLocator_text (u : ServerUrl) :
    ofLocator u.text = ofUrl u.text u.scheme.name u.rest := by
  have hrbd : Text.afterLeading? "rbd:" u.text = none := u.afterLeading?_text rfl (by decide)
  have hcut : Text.splitOnce? "://" u.text = some (u.scheme.name, u.rest) :=
    Text.splitOnce?_append (c := ':') rfl (by cases u.scheme <;> decide)
  rw [ofLocator, hrbd, hcut]

theorem IsReadBy.bind {text : String} {f : ServerAddress → Except Refusal ProtocolNode}
    (haddress : u.address = text) (hunknown : ∀ server, f server ≠ .error .unknown)
    (haccepted : ∀ server node, f server = .ok node → u.PathFits ∧ u.Reaches server node)
    (haccepts : ∀ server, u.PathFits → ∃ node, f server = .ok node) :
    u.IsReadBy (Storage.server u.scheme.name text >>= f) where
  ne_unknown := bind_ne_unknown (server_ne_unknown _ _) hunknown
  accepted node h := by
    rw [haddress]
    cases hserver : Storage.server u.scheme.name text with
    | error e =>
      rw [hserver] at h
      cases h
    | ok server =>
      rw [hserver] at h
      obtain ⟨hfits, hreaches⟩ := haccepted server node h
      exact ⟨hfits, server, rfl, hreaches⟩
  accepts server hserver hfits := by
    rw [← haddress, hserver]
    exact haccepts server hfits

section Schemes

variable (url authority : String) (path : Option String) (h : '/' ∉ authority.toList)

theorem isReadBy_nbd : IsReadBy ⟨.nbd, authority, path, h⟩
    (ofUrl url "nbd" (ServerUrl.rest ⟨.nbd, authority, path, h⟩)) := by
  simp only [ofUrl, splitOff_rest]
  refine IsReadBy.bind rfl nofun ?_ fun server _ => ⟨_, rfl⟩
  rintro server node ⟨⟩
  exact ⟨trivial, rfl, rfl⟩

theorem isReadBy_iscsi : IsReadBy ⟨.iscsi, authority, path, h⟩
    (ofUrl url "iscsi" (ServerUrl.rest ⟨.iscsi, authority, path, h⟩)) := by
  simp only [ofUrl, splitOff_rest, ofIscsi]
  refine IsReadBy.bind rfl (fun _ => ?_) (fun _ node hnode => ?_) fun _ hfits => ?_
  · split
    · nofun
    · split
      · nofun
      · exact bind_ne_unknown (orMalformed_ne_unknown _ _ _) nofun
  · split at hnode
    · cases hnode
    next target lun hcut =>
      obtain ⟨hpath, htarget⟩ := Text.splitFirst?_eq_some_iff.1 hcut
      split at hnode
      · cases hnode
      next hne =>
        cases hlun : Numeral.uint32? lun with
        | none =>
          rw [hlun] at hnode
          cases hnode
        | some n =>
          rw [hlun] at hnode
          cases hnode
          exact ⟨⟨target, lun, n, hpath, htarget, hne, hlun⟩, rfl, rfl⟩
  · obtain ⟨target, lun, n, hpath, htarget, hne, hlun⟩ := hfits
    have hcut : Text.splitFirst? '/' (path.getD "") = some (target, lun) :=
      Text.splitFirst?_eq_some_iff.2 ⟨hpath, htarget⟩
    rw [hcut]
    dsimp only
    rw [if_neg hne, hlun]
    exact ⟨_, rfl⟩

theorem isReadBy_gluster : IsReadBy ⟨.gluster, authority, path, h⟩
    (ofUrl url "gluster" (ServerUrl.rest ⟨.gluster, authority, path, h⟩)) := by
  simp only [ofUrl, splitOff_rest]
  refine IsReadBy.bind rfl (fun _ => ?_) (fun server node hnode => ?_) fun server hfits => ?_
  · exact bind_ne_unknown (orMalformed_ne_unknown _ _ _) nofun
  · cases hparts : twoParts? (path.getD "") with
    | none =>
      rw [hparts] at hnode
      cases hnode
    | some parts =>
      rw [hparts] at hnode
      cases hnode
      exact ⟨⟨parts.1, parts.2, twoParts?_eq_some_iff.1 hparts⟩, rfl, rfl⟩
  · obtain ⟨volume, image, hparts⟩ := hfits
    have hparts : twoParts? (path.getD "") = some (volume, image) := twoParts?_eq_some_iff.2 hparts
    rw [hparts]
    exact ⟨_, rfl⟩

theorem isReadBy_ssh : IsReadBy ⟨.ssh, authority, path, h⟩
    (ofUrl url "ssh" (ServerUrl.rest ⟨.ssh, authority, path, h⟩)) := by
  simp only [ofUrl, splitOff_rest]
  by_cases hpath : path.getD "" = ""
  · rw [if_pos hpath]
    exact ⟨nofun, nofun, fun _ _ hfits => absurd hpath hfits⟩
  · rw [if_neg hpath]
    cases hcut : Text.splitFirst? '@' authority with
    | none =>
      have haddress : address ⟨.ssh, authority, path, h⟩ = authority := by rw [address, hcut]
      refine IsReadBy.bind haddress nofun ?_ fun server _ => ⟨_, rfl⟩
      rintro server node ⟨⟩
      exact ⟨hpath, rfl, rfl⟩
    | some r =>
      have haddress : address ⟨.ssh, authority, path, h⟩ = r.2 := by rw [address, hcut]
      refine IsReadBy.bind haddress nofun ?_ fun server _ => ⟨_, rfl⟩
      rintro server node ⟨⟩
      exact ⟨hpath, rfl, rfl⟩

end Schemes

/-- Every locator that names a server is read by reading its address. -/
theorem isReadBy_ofLocator (u : ServerUrl) : u.IsReadBy (ofLocator u.text) := by
  rw [ofLocator_text]
  obtain ⟨scheme, authority, path, h⟩ := u
  cases scheme with
  | nbd => exact isReadBy_nbd _ authority path h
  | iscsi => exact isReadBy_iscsi _ authority path h
  | gluster => exact isReadBy_gluster _ authority path h
  | ssh => exact isReadBy_ssh _ authority path h

end ServerUrl

/-! ## What is read of a locator behind a configuration -/

theorem understand_wrapped (u : ServerUrl) {config : Option String}
    (hconfig : ∀ c ∈ config, ':' ∉ c.toList) :
    understand (wrapped config u.text) = (ofLocator u.text).map (wrap config) := by
  cases config with
  | none =>
    have hplain : Text.afterLeading? "blkdebug:" u.text = none :=
      u.afterLeading?_text rfl (by decide)
    change understand u.text = _
    rw [understand, hplain]
    cases ofLocator u.text <;> rfl
  | some c =>
    have hrest : Text.afterLeading? "blkdebug:" ("blkdebug:" ++ (c ++ ":" ++ u.text)) =
        some (c ++ ":" ++ u.text) := Text.afterLeading?_eq_some_iff.2 rfl
    have hcut : Text.splitFirst? ':' (c ++ ":" ++ u.text) = some (c, u.text) :=
      Text.splitFirst?_append (hconfig c rfl)
    change understand ("blkdebug:" ++ (c ++ ":" ++ u.text)) = _
    rw [understand, hrest]
    dsimp only
    rw [hcut]
    dsimp only
    rw [if_neg u.text_ne_empty]
    cases ofLocator u.text <;> rfl

theorem wrapped_ne_empty (config : Option String) (u : ServerUrl) : wrapped config u.text ≠ "" := by
  cases config with
  | none => exact u.text_ne_empty
  | some c => simp [wrapped]

namespace ServerUrl

variable {image locator : String} {config : Option String} {u : ServerUrl}

/-- An answer about a locator is exact about its server. The locator is accepted only when it has an
address, and its node goes to the host and the port that are written there. Without an address the
locator is malformed. -/
structure IsExact (u : ServerUrl) (config : Option String) (image locator : String)
    (answer : Except LocatorError Locator) : Prop where
  accepted : ∀ l, answer = .ok l → ∃ host port node, IsAddress u.address host port ∧
    l = wrap config node ∧ u.Reaches (.inet host port) node
  refused : (∀ host port, ¬ IsAddress u.address host port) →
    ∃ scheme reason, answer = .error (.malformed image scheme (Text.trim locator) reason)

section

variable (hconfig : ∀ c ∈ config, ':' ∉ c.toList)
  (hlocator : Text.trim locator = wrapped config u.text)

include hconfig hlocator

theorem classify_eq : classify image locator = ((ofLocator u.text).map (wrap config)).mapError
    (Refusal.toError image (Text.trim locator)) := by
  rw [classify, hlocator, ← understand_wrapped u hconfig]
  exact if_neg (wrapped_ne_empty config u)

/-- What is accepted has an address, or something that is taken for one. -/
theorem exists_of_classify {l : Locator} (h : classify image locator = .ok l) :
    u.PathFits ∧ ∃ host port node,
      (IsAddress u.address host port ∨ IsLooseAddress u.address host port) ∧
        l = wrap config node ∧ u.Reaches (.inet host port) node := by
  rw [classify_eq hconfig hlocator] at h
  cases hnode : ofLocator u.text with
  | error e =>
    rw [hnode] at h
    cases h
  | ok node =>
    rw [hnode] at h
    obtain ⟨hfits, server, hserver, hreaches⟩ := u.isReadBy_ofLocator.accepted node hnode
    obtain ⟨host, port, haddress, rfl⟩ := server_eq_ok_iff_isAddress.1 hserver
    exact ⟨hfits, host, port, node, haddress, (Except.ok.inj h).symm, hreaches⟩

theorem exists_classify {host : String} {port : Option UInt16} (hfits : u.PathFits)
    (haddress : IsAddress u.address host port ∨ IsLooseAddress u.address host port) :
    ∃ l, classify image locator = .ok l := by
  obtain ⟨node, hnode⟩ := u.isReadBy_ofLocator.accepts _
    (server_eq_ok_iff_isAddress.2 ⟨host, port, haddress, rfl⟩) hfits
  exact ⟨wrap config node, by rw [classify_eq hconfig hlocator, hnode]; rfl⟩

theorem classify_malformed (h : ∀ l, classify image locator ≠ .ok l) : ∃ scheme reason,
    classify image locator = .error (.malformed image scheme (Text.trim locator) reason) := by
  rw [classify_eq hconfig hlocator] at h ⊢
  cases hnode : ofLocator u.text with
  | ok node => exact absurd (by rw [hnode]; rfl) (h (wrap config node))
  | error e =>
    cases e with
    | unknown => exact absurd hnode u.isReadBy_ofLocator.ne_unknown
    | malformed scheme reason => exact ⟨scheme, reason, rfl⟩

end

/-- Servers are read exactly, except where the authority is no address, is taken for one and has
behind it what the scheme needs. -/
theorem isExact_classify_iff (hconfig : ∀ c ∈ config, ':' ∉ c.toList)
    (hlocator : Text.trim locator = wrapped config u.text) :
    u.IsExact config image locator (classify image locator) ↔
      ¬ (u.PathFits ∧ ∃ host port, IsLooseAddress u.address host port) := by
  constructor
  · rintro hexact ⟨hfits, host, port, hloose⟩
    obtain ⟨l, hl⟩ := exists_classify hconfig hlocator hfits (.inr hloose)
    obtain ⟨_, _, _, haddress, -⟩ := hexact.accepted l hl
    exact haddress.not_isLooseAddress hloose
  · intro hstrict
    have hread : ∀ l, classify image locator = .ok l → ∃ host port node,
        IsAddress u.address host port ∧ l = wrap config node ∧
          u.Reaches (.inet host port) node := by
      intro l hl
      obtain ⟨hfits, host, port, node, haddress, hnode⟩ := exists_of_classify hconfig hlocator hl
      obtain haddress | hloose := haddress
      · exact ⟨host, port, node, haddress, hnode⟩
      · exact absurd ⟨hfits, host, port, hloose⟩ hstrict
    refine ⟨hread, fun hnone => classify_malformed hconfig hlocator fun l hl => ?_⟩
    obtain ⟨host, port, -, haddress, -⟩ := hread l hl
    exact hnone host port haddress

def withUser : ServerUrl := ⟨.ssh, "u@[::1]:22", some "a.img", by decide⟩

theorem isExact_classify_iff_withUser : (∀ c ∈ some "/f.conf", ':' ∉ c.toList) ∧
    Text.trim " blkdebug:/f.conf:ssh://u@[::1]:22/a.img" = wrapped (some "/f.conf") withUser.text ∧
    withUser.IsExact (some "/f.conf") "a" " blkdebug:/f.conf:ssh://u@[::1]:22/a.img"
      (classify "a" " blkdebug:/f.conf:ssh://u@[::1]:22/a.img") := by
  have hconfig : ∀ c ∈ some "/f.conf", ':' ∉ c.toList := by decide
  have hlocator : Text.trim " blkdebug:/f.conf:ssh://u@[::1]:22/a.img" =
      wrapped (some "/f.conf") withUser.text := by decide +kernel
  have hhost : WritesHost true ("[" ++ "::1" ++ "]") "::1" := .bracketed (by decide) (by decide)
  have hdigits : Numeral.IsDecimal "22".toList 22 := Numeral.digits?_eq_some_iff.1 (by decide)
  have hport : WritesPort (":" ++ "22") (some 22) := .given hdigits
  have haddress : IsAddress withUser.address "::1" (some 22) :=
    ⟨true, _, _, by decide +kernel, hhost, hport⟩
  refine ⟨hconfig, hlocator, (isExact_classify_iff hconfig hlocator).2 ?_⟩
  rintro ⟨-, host, port, hloose⟩
  exact haddress.not_isLooseAddress hloose

def withoutColon : ServerUrl := ⟨.nbd, "[::1]10809", some "e", by decide⟩

theorem not_isExact_withoutColon :
    Text.trim "nbd://[::1]10809/e" = wrapped none withoutColon.text ∧
    ¬ withoutColon.IsExact none "a" "nbd://[::1]10809/e" (classify "a" "nbd://[::1]10809/e") := by
  refine ⟨by decide +kernel, fun hexact => ?_⟩
  have hclassify : classify "a" "nbd://[::1]10809/e" =
      .ok (.plain (.nbd (.inet "::1" (some 10809)) (some "e"))) := by decide +kernel
  obtain ⟨_, _, _, haddress, -⟩ := hexact.accepted _ hclassify
  have hhost : WritesHost true ("[" ++ "::1" ++ "]") "::1" := .bracketed (by decide) (by decide)
  have hdigits : Numeral.IsDecimal "10809".toList 10809 := Numeral.digits?_eq_some_iff.1 (by decide)
  have hport : WritesLoosePort true ("" ++ "10809") (some 10809) := .unmarked (.inl rfl) hdigits
  have hloose : IsLooseAddress withoutColon.address "::1" (some 10809) :=
    ⟨true, _, _, by decide +kernel, hhost, hport⟩
  exact haddress.not_isLooseAddress hloose

end ServerUrl

end GuestSpec.Storage
