import GuestSpec.Proofs.Host.Resources

/-!
# Leases

TCP ports and vsock context ids are handed out by one rule. What is asked for is granted unless
somebody holds it. Where nothing certain is asked for, the host is asked for a number of a range
that is not held; a fixed host answers with the least one that is not busy either. A request that
is refused leaves everything as it is.
-/

namespace GuestSpec

/-! ## Requests -/

inductive LeaseKind where
  | port
  | cid
  deriving DecidableEq

inductive Lease where
  | port (n : UInt16)
  | cid (n : UInt32)
  deriving DecidableEq

namespace Lease

def kind : Lease → LeaseKind
  | port _ => .port
  | cid _ => .cid

def number : Lease → Nat
  | port n => n.toNat
  | cid n => n.toNat

def inUse (owner holder : String) : Lease → CompileError
  | port n => .collision (.portInUse owner n holder)
  | cid n => .collision (.cidInUse owner n holder)

end Lease

namespace LeaseKind

def low : LeaseKind → Nat
  | port => 5000
  | cid => 3

def high : LeaseKind → Nat
  | port => 5899
  | cid => 0xFFFFFFFE

def exhausted : LeaseKind → CompileError
  | port => .limit (.hostExhausted "TCP port" 5000 5899)
  | cid => .limit (.hostExhausted "vsock CID" 3 0xFFFFFFFE)

def lease : LeaseKind → Nat → Lease
  | port, i => .port (UInt16.ofNat i)
  | cid, i => .cid (UInt32.ofNat i)

@[simp] theorem kind_lease (kind : LeaseKind) (i : Nat) : (kind.lease i).kind = kind := by
  cases kind <;> rfl

theorem number_lease {kind : LeaseKind} {i : Nat} (h : i ≤ kind.high) :
    (kind.lease i).number = i := by
  cases kind with
  | port => exact UInt16.toNat_ofNat_of_lt' (Nat.lt_of_le_of_lt h (by decide))
  | cid => exact UInt32.toNat_ofNat_of_lt' (Nat.lt_of_le_of_lt h (by decide))

@[simp] theorem lease_number (l : Lease) : l.kind.lease l.number = l := by
  cases l with
  | port n => exact congrArg Lease.port UInt16.ofNat_toNat
  | cid n => exact congrArg Lease.cid UInt32.ofNat_toNat

end LeaseKind

inductive LeaseRequest where
  | explicit (owner : String) (lease : Lease)
  | automatic (owner : String) (kind : LeaseKind)
  deriving DecidableEq

def LeaseRequest.owner : LeaseRequest → String
  | explicit owner _ => owner
  | automatic owner _ => owner

def Host.busy (host : Host) : LeaseKind → Ranges
  | .port => host.busyPorts
  | .cid => host.busyCids

/-- A resource can be granted when nothing certain is asked for. -/
structure Host.Offers (host : Host) (grants : List (Lease × String)) (lease : Lease) : Prop where
  low : lease.kind.low ≤ lease.number
  high : lease.number ≤ lease.kind.high
  idle : (host.busy lease.kind).has lease.number = false
  free : ∀ holder, (lease, holder) ∉ grants

/-- The right answer to a request after some grants. -/
inductive Host.Answers (host : Host) (grants : List (Lease × String)) :
    LeaseRequest → Except CompileError Lease → Prop where
  | granted {owner : String} {lease : Lease} (hfree : ∀ holder, (lease, holder) ∉ grants) :
      host.Answers grants (.explicit owner lease) (.ok lease)
  | refused {owner holder : String} {lease : Lease} (hheld : (lease, holder) ∈ grants) :
      host.Answers grants (.explicit owner lease) (.error (lease.inUse owner holder))
  | found {owner : String} {lease : Lease} (hoffers : host.Offers grants lease)
      (hleast : ∀ other, other.kind = lease.kind → host.Offers grants other →
        lease.number ≤ other.number) :
      host.Answers grants (.automatic owner lease.kind) (.ok lease)
  | exhausted {owner : String} {kind : LeaseKind}
      (hnone : ∀ lease, lease.kind = kind → ¬ host.Offers grants lease) :
      host.Answers grants (.automatic owner kind) (.error kind.exhausted)

section Membership

variable {host : Host} {grants grants' : List (Lease × String)}
  (h : ∀ grant, grant ∈ grants ↔ grant ∈ grants')

include h

theorem Host.offers_congr {lease : Lease} :
    host.Offers grants lease ↔ host.Offers grants' lease := by
  refine ⟨fun ho => ⟨ho.low, ho.high, ho.idle, fun holder hmem => ?_⟩,
    fun ho => ⟨ho.low, ho.high, ho.idle, fun holder hmem => ?_⟩⟩
  · exact ho.free holder ((h _).2 hmem)
  · exact ho.free holder ((h _).1 hmem)

/-- In which order grants were made does not matter. -/
theorem Host.Answers.congr {r : LeaseRequest} {answer : Except CompileError Lease}
    (ha : host.Answers grants r answer) : host.Answers grants' r answer := by
  cases ha with
  | granted hfree => exact .granted fun holder hmem => hfree holder ((h _).2 hmem)
  | refused hheld => exact .refused ((h _).1 hheld)
  | found hoffers hleast =>
    exact .found ((offers_congr h).1 hoffers) fun other hkind ho =>
      hleast other hkind ((offers_congr h).2 ho)
  | exhausted hnone =>
    exact .exhausted fun lease hkind ho => hnone lease hkind ((offers_congr h).2 ho)

end Membership

namespace HostLeases

/-! ## One request -/

section Requests

variable {H : Type}

def serve [HostResources H] (l : HostLeases H) :
    LeaseRequest → Except CompileError (Lease × HostLeases H)
  | .explicit owner (.port n) => (l.tcpPort owner (some n)).map fun (n, l) => (.port n, l)
  | .explicit owner (.cid n) => (l.vsockCid owner (some n)).map fun (n, l) => (.cid n, l)
  | .automatic owner .port => (l.tcpPort owner none).map fun (n, l) => (.port n, l)
  | .automatic owner .cid => (l.vsockCid owner none).map fun (n, l) => (.cid n, l)

def grants (l : HostLeases H) : List (Lease × String) :=
  l.ports.map (fun grant => (.port grant.1, grant.2)) ++
    l.cids.map fun grant => (.cid grant.1, grant.2)

def holder? (l : HostLeases H) : Lease → Option String
  | .port n => l.ports.lookup n
  | .cid n => l.cids.lookup n

def holds (l : HostLeases H) : Lease → Bool
  | .port n => l.ports.any (·.1 == n)
  | .cid n => l.cids.any (·.1 == n)

def add (l : HostLeases H) (owner : String) : Lease → HostLeases H
  | .port n => { l with ports := (n, owner) :: l.ports }
  | .cid n => { l with cids := (n, owner) :: l.cids }

variable {l l' l'' : HostLeases H} {lease : Lease} {holder : String}

theorem mem_grants : (lease, holder) ∈ l.grants ↔
    match lease with
    | .port n => (n, holder) ∈ l.ports
    | .cid n => (n, holder) ∈ l.cids := by
  cases lease <;> simp [grants]

theorem mem_grants_of_holder? (h : l.holder? lease = some holder) : (lease, holder) ∈ l.grants := by
  rw [mem_grants]
  cases lease <;>
    obtain ⟨before, after, hsplit, -⟩ := List.lookup_eq_some_iff.1 h <;>
    simp [hsplit]

theorem not_mem_grants_of_holder? (h : l.holder? lease = none) (holder : String) :
    (lease, holder) ∉ l.grants := by
  rw [mem_grants]
  cases lease <;> exact fun hmem => by simpa using List.lookup_eq_none_iff.1 h _ hmem

theorem holds_iff : l.holds lease = true ↔ ∃ holder, (lease, holder) ∈ l.grants := by
  simp only [mem_grants]
  cases lease <;> simp [holds]

theorem grants_add (l : HostLeases H) (owner : String) (lease : Lease) :
    (l.add owner lease).grants.Perm ((lease, owner) :: l.grants) := by
  cases lease with
  | port n => exact .refl _
  | cid n => exact List.perm_middle

variable [HostResources H]

theorem serve_explicit (l : HostLeases H) (owner : String) (lease : Lease) :
    l.serve (.explicit owner lease) =
      match l.holder? lease with
      | some holder => .error (lease.inUse owner holder)
      | none => .ok (lease, l.add owner lease) := by
  cases lease with
  | port n =>
    simp only [serve, tcpPort, holder?]
    cases l.ports.lookup n <;> rfl
  | cid n =>
    simp only [serve, vsockCid, holder?]
    cases l.cids.lookup n <;> rfl

theorem serve_automatic [LawfulHost H] {owner : String} {kind : LeaseKind}
    (h : l.serve (.automatic owner kind) = .ok (lease, l')) :
    (∃ host, l' = HostLeases.add { l with host } owner lease) ∧ l.holds lease = false ∧
      lease.kind = kind ∧ kind.low ≤ lease.number ∧ lease.number ≤ kind.high := by
  cases kind with
  | port =>
    simp only [serve, tcpPort] at h
    split at h
    · next port host hfound =>
      cases h
      obtain ⟨hlow, hhigh, hfree⟩ := LawfulHost.found_port hfound
      exact ⟨⟨host, rfl⟩, hfree, rfl, hlow, hhigh⟩
    · cases h
  | cid =>
    simp only [serve, vsockCid] at h
    split at h
    · next cid host hfound =>
      cases h
      obtain ⟨hlow, hhigh, hfree⟩ := LawfulHost.found_cid hfound
      exact ⟨⟨host, rfl⟩, hfree, rfl, hlow, hhigh⟩
    · cases h

/-! ## One answer -/

def answer (l : HostLeases H) (r : LeaseRequest) : Except CompileError Lease :=
  (l.serve r).map Prod.fst

def after (l : HostLeases H) (r : LeaseRequest) : HostLeases H :=
  match l.serve r with
  | .ok (_, l') => l'
  | .error _ => l

/-- What a granted request does: it adds a grant to those that are there, and nobody held what is
granted. -/
theorem serve_eq_ok [LawfulHost H] {r : LeaseRequest} (h : l.serve r = .ok (lease, l')) :
    (∃ host, l' = HostLeases.add { l with host } r.owner lease) ∧
      ∀ holder, (lease, holder) ∉ l.grants := by
  cases r with
  | explicit owner wanted =>
    rw [serve_explicit] at h
    split at h
    · cases h
    · next hnone =>
      cases h
      exact ⟨⟨l.host, rfl⟩, not_mem_grants_of_holder? hnone⟩
  | automatic owner kind =>
    obtain ⟨hadd, hfree, -⟩ := serve_automatic h
    refine ⟨hadd, fun holder hmem => ?_⟩
    rw [holds_iff.2 ⟨holder, hmem⟩] at hfree
    cases hfree

theorem answer_of_serve {r : LeaseRequest} (h : l.serve r = .ok (lease, l')) :
    l.answer r = .ok lease ∧ l.after r = l' := by
  rw [answer, after, h]
  exact ⟨rfl, rfl⟩

theorem after_of_answer_error {r : LeaseRequest} {e : CompileError} (h : l.answer r = .error e) :
    l.after r = l := by
  rw [answer] at h
  rw [after]
  cases hserve : l.serve r with
  | error e' => rfl
  | ok granted =>
    rw [hserve] at h
    cases h

/-! ## Many requests -/

def afterAll (l : HostLeases H) (rs : List LeaseRequest) : HostLeases H := rs.foldl after l

theorem afterAll_append (l : HostLeases H) (rs rs' : List LeaseRequest) :
    l.afterAll (rs ++ rs') = (l.afterAll rs).afterAll rs' :=
  List.foldl_append

theorem afterAll_cons (l : HostLeases H) (r : LeaseRequest) (rs : List LeaseRequest) :
    l.afterAll (r :: rs) = (l.after r).afterAll rs := rfl

def granted (l : HostLeases H) : List LeaseRequest → List (Lease × String)
  | [] => []
  | r :: rs =>
    match l.answer r with
    | .ok lease => (lease, r.owner) :: (l.after r).granted rs
    | .error _ => (l.after r).granted rs

/-- Some steps hand out resources that nobody held, none of them twice. -/
structure HandsOut (l : HostLeases H) (gs : List (Lease × String)) (l' : HostLeases H) : Prop where
  grants : l'.grants.Perm (gs ++ l.grants)
  nodup : (l.grants.map Prod.fst).Nodup → (l'.grants.map Prod.fst).Nodup

namespace HandsOut

variable {gs gs' : List (Lease × String)}

omit [HostResources H] in
theorem refl (l : HostLeases H) : l.HandsOut [] l := ⟨.refl _, id⟩

omit [HostResources H] in
theorem trans (h : l.HandsOut gs l') (h' : l'.HandsOut gs' l'') : l.HandsOut (gs ++ gs') l'' where
  grants := by
    rw [List.append_assoc]
    exact (h'.grants.trans (h.grants.append_left gs')).trans (List.perm_append_comm_assoc _ _ _)
  nodup hl := h'.nodup (h.nodup hl)

theorem of_serve [LawfulHost H] {r : LeaseRequest} (h : l.serve r = .ok (lease, l')) :
    l.HandsOut [(lease, r.owner)] l' := by
  obtain ⟨⟨host, rfl⟩, hfree⟩ := serve_eq_ok h
  have hgrants := grants_add { l with host } r.owner lease
  refine ⟨hgrants, fun hl => ?_⟩
  rw [(hgrants.map Prod.fst).nodup_iff, List.map_cons, List.nodup_cons]
  refine ⟨fun hmem => ?_, hl⟩
  obtain ⟨⟨_, holder⟩, hgrant, rfl⟩ := List.mem_map.1 hmem
  exact hfree holder hgrant

omit [HostResources H] in
/-- What is handed out from the start on is all different. -/
theorem nodup_of_start {host : H} (h : (start host).HandsOut gs l) :
    (gs.map Prod.fst).Nodup := by
  have hperm : l.grants.Perm gs := by simpa [HostLeases.grants, start] using h.grants
  rw [← (hperm.map Prod.fst).nodup_iff]
  exact h.nodup List.nodup_nil

end HandsOut

variable [LawfulHost H]

theorem handsOut_afterAll (l : HostLeases H) (rs : List LeaseRequest) :
    l.HandsOut (l.granted rs) (l.afterAll rs) := by
  induction rs generalizing l with
  | nil => exact .refl l
  | cons r rs ih =>
    rw [granted, afterAll_cons]
    cases hserve : l.serve r with
    | ok served =>
      obtain ⟨hanswer, hafter⟩ := answer_of_serve hserve
      rw [hanswer, hafter]
      exact (HandsOut.of_serve hserve).trans (ih _)
    | error e =>
      have hanswer : l.answer r = .error e := by rw [answer, hserve]; rfl
      rw [hanswer, after_of_answer_error hanswer]
      exact ih l

theorem handsOut_of_tcpPort {owner : String} {explicit : Option UInt16} {n : UInt16}
    (h : l.tcpPort owner explicit = .ok (n, l')) : l.HandsOut [(.port n, owner)] l' := by
  cases explicit with
  | some wanted =>
    have hserve : l.serve (.explicit owner (.port wanted)) = .ok (.port n, l') := by
      rw [serve, h]
      rfl
    exact .of_serve hserve
  | none =>
    have hserve : l.serve (.automatic owner .port) = .ok (.port n, l') := by
      rw [serve, h]
      rfl
    exact .of_serve hserve

theorem handsOut_of_vsockCid {owner : String} {explicit : Option UInt32} {n : UInt32}
    (h : l.vsockCid owner explicit = .ok (n, l')) :
    l.HandsOut [(.cid n, owner)] l' ∧
      (explicit = some n ∨ explicit = none ∧ firstCid ≤ n ∧ n ≤ Host.lastCid) := by
  cases explicit with
  | some wanted =>
    have hserve : l.serve (.explicit owner (.cid wanted)) = .ok (.cid n, l') := by
      rw [serve, h]
      rfl
    refine ⟨.of_serve hserve, .inl ?_⟩
    rw [serve_explicit] at hserve
    split at hserve
    · cases hserve
    · cases hserve
      rfl
  | none =>
    have hserve : l.serve (.automatic owner .cid) = .ok (.cid n, l') := by
      rw [serve, h]
      rfl
    obtain ⟨-, -, -, hlow, hhigh⟩ := serve_automatic hserve
    exact ⟨.of_serve hserve, .inr ⟨rfl, hlow, hhigh⟩⟩

end Requests

/-! ## Fixed hosts -/

section Fixed

variable {l : HostLeases Host} {lease : Lease}

/-- The resource with a number, if it is neither busy nor held. -/
def candidate? (l : HostLeases Host) (kind : LeaseKind) (i : Nat) : Option Lease :=
  if l.holds (kind.lease i) || (l.host.busy kind).has i then none else some (kind.lease i)

def search? (l : HostLeases Host) (kind : LeaseKind) : Option Lease :=
  firstFrom? (l.candidate? kind) kind.low (kind.high + 1 - kind.low)

theorem firstFrom?_map {α β : Type} (f : Nat → Option α) (g : α → β) (start count : Nat) :
    (firstFrom? f start count).map g = firstFrom? (fun i => (f i).map g) start count := by
  induction count generalizing start with
  | zero => rfl
  | succ count ih =>
    rw [firstFrom?, firstFrom?]
    cases f start with
    | none => exact ih (start + 1)
    | some a => rfl

theorem serve_fixed (l : HostLeases Host) (owner : String) (kind : LeaseKind) :
    l.serve (.automatic owner kind) =
      match l.search? kind with
      | some lease => .ok (lease, l.add owner lease)
      | none => .error kind.exhausted := by
  cases kind with
  | port =>
    have hsearch : l.search? .port = (l.host.findPort? firstPort lastPort fun p =>
        l.ports.any (·.1 == p)).map .port := by
      rw [Host.findPort?, firstFrom?_map]
      exact congrArg (firstFrom? · 5000 900) (funext fun i =>
        (apply_ite (Option.map Lease.port) _ none (some _)).symm)
    rw [hsearch]
    simp only [serve, tcpPort, Host.resources_findPort?]
    cases l.host.findPort? firstPort lastPort fun p => l.ports.any (·.1 == p) <;> rfl
  | cid =>
    have hsearch : l.search? .cid = (l.host.findCid? firstCid fun c =>
        l.cids.any (·.1 == c)).map .cid := by
      rw [Host.findCid?, firstFrom?_map]
      exact congrArg (firstFrom? · 3 0xFFFFFFFC) (funext fun i =>
        (apply_ite (Option.map Lease.cid) _ none (some _)).symm)
    rw [hsearch]
    simp only [serve, vsockCid, Host.resources_findCid?]
    cases l.host.findCid? firstCid fun c => l.cids.any (·.1 == c) <;> rfl

section Searching

variable {kind : LeaseKind} {i : Nat} (hlow : kind.low ≤ i) (hhigh : i ≤ kind.high)

include hlow hhigh

theorem offers_lease_iff : l.host.Offers l.grants (kind.lease i) ↔
    (l.holds (kind.lease i) || (l.host.busy kind).has i) = false := by
  rw [Bool.or_eq_false_iff, ← Bool.not_eq_true, holds_iff, not_exists]
  refine ⟨fun h => ⟨h.free, ?_⟩, fun ⟨hfree, hidle⟩ => ⟨?_, ?_, ?_, hfree⟩⟩
  · simpa [LeaseKind.number_lease hhigh] using h.idle
  all_goals simpa [LeaseKind.number_lease hhigh]

theorem offers_of_candidate? (h : l.candidate? kind i = some lease) :
    l.host.Offers l.grants lease ∧ kind.lease i = lease := by
  rw [candidate?] at h
  split at h
  · cases h
  · next hfree =>
    obtain rfl := Option.some.inj h
    exact ⟨(offers_lease_iff hlow hhigh).2 (Bool.eq_false_iff.2 hfree), rfl⟩

theorem candidate?_eq_none_iff :
    l.candidate? kind i = none ↔ ¬ l.host.Offers l.grants (kind.lease i) := by
  rw [offers_lease_iff hlow hhigh, candidate?]
  simp

end Searching

theorem offers_of_search? {kind : LeaseKind} (h : l.search? kind = some lease) :
    lease.kind = kind ∧ l.host.Offers l.grants lease ∧
      ∀ other, other.kind = kind → l.host.Offers l.grants other → lease.number ≤ other.number := by
  obtain ⟨i, hlow, hlt, hi, hleast⟩ := firstFrom?_eq_some h
  have hhigh : i ≤ kind.high := by omega
  obtain ⟨hoffers, rfl⟩ := offers_of_candidate? hlow hhigh hi
  refine ⟨kind.kind_lease i, hoffers, ?_⟩
  rintro other rfl ho
  rw [LeaseKind.number_lease hhigh]
  refine Nat.le_of_not_lt fun hless => ?_
  have hnone := hleast other.number ho.low hless
  rw [candidate?_eq_none_iff ho.low ho.high, LeaseKind.lease_number] at hnone
  exact hnone ho

theorem not_offers_of_search? {kind : LeaseKind} (h : l.search? kind = none) :
    ∀ lease, lease.kind = kind → ¬ l.host.Offers l.grants lease := by
  rintro lease rfl ho
  have hlow := ho.low
  have hhigh := ho.high
  have hnone := firstFrom?_eq_none_iff.1 h lease.number hlow (by omega)
  rw [candidate?_eq_none_iff hlow hhigh, LeaseKind.lease_number] at hnone
  exact hnone ho

theorem answers_answer (l : HostLeases Host) (r : LeaseRequest) :
    l.host.Answers l.grants r (l.answer r) := by
  cases r with
  | explicit owner lease =>
    rw [answer, serve_explicit]
    cases hholder : l.holder? lease with
    | some holder => exact .refused (mem_grants_of_holder? hholder)
    | none => exact .granted (not_mem_grants_of_holder? hholder)
  | automatic owner kind =>
    rw [answer, serve_fixed]
    cases hfound : l.search? kind with
    | some lease =>
      obtain ⟨rfl, hoffers, hleast⟩ := offers_of_search? hfound
      exact .found hoffers hleast
    | none => exact .exhausted (not_offers_of_search? hfound)

/-- Asking a fixed host does not change it. -/
theorem host_after (l : HostLeases Host) (r : LeaseRequest) : (l.after r).host = l.host := by
  cases r with
  | explicit owner lease =>
    rw [after, serve_explicit]
    cases l.holder? lease with
    | some holder => rfl
    | none => cases lease <;> rfl
  | automatic owner kind =>
    rw [after, serve_fixed]
    cases l.search? kind with
    | none => rfl
    | some lease => cases lease <;> rfl

theorem host_afterAll (l : HostLeases Host) (rs : List LeaseRequest) :
    (l.afterAll rs).host = l.host := by
  induction rs generalizing l with
  | nil => rfl
  | cons r rs ih => rw [afterAll_cons, ih, host_after]

end Fixed

end HostLeases

/-- Requests to a host are answered in an orderly way: each as it should be after what was granted
before, nothing is granted twice, and a request that fails makes no difference later on. -/
structure Host.Orderly (host : Host) (rs : List LeaseRequest) : Prop where
  distinct : (((HostLeases.start host).granted rs).map Prod.fst).Nodup
  answers : ∀ pre r post, rs = pre ++ r :: post →
    host.Answers ((HostLeases.start host).granted pre) r
      (((HostLeases.start host).afterAll pre).answer r)
  failed : ∀ pre r post e, rs = pre ++ r :: post →
    ((HostLeases.start host).afterAll pre).answer r = .error e → ∀ later,
      ((HostLeases.start host).afterAll (pre ++ r :: post)).answer later =
        ((HostLeases.start host).afterAll (pre ++ post)).answer later

theorem Host.orderly (host : Host) (rs : List LeaseRequest) : host.Orderly rs where
  distinct := ((HostLeases.start host).handsOut_afterAll rs).nodup_of_start
  answers pre r post _ := by
    have hpre := (HostLeases.start host).handsOut_afterAll pre
    have hanswers := ((HostLeases.start host).afterAll pre).answers_answer r
    rw [HostLeases.host_afterAll] at hanswers
    refine Host.Answers.congr (fun grant => ?_) hanswers
    rw [hpre.grants.mem_iff, List.mem_append]
    exact or_iff_left List.not_mem_nil
  failed pre r post e _ herror later := by
    rw [HostLeases.afterAll_append, HostLeases.afterAll_cons,
      HostLeases.after_of_answer_error herror, HostLeases.afterAll_append]

/-- A port that is asked for is passed over when others are looked for, and it is not granted a
second time. -/
example :
    let host : Host := ⟨16384, [(5000, 5000)], []⟩
    let rs : List LeaseRequest := [.automatic "a" .port, .explicit "b" (.port 5002),
      .automatic "c" .port, .explicit "d" (.port 5001), .automatic "e" .cid]
    (HostLeases.start host).granted rs =
      [(.port 5001, "a"), (.port 5002, "b"), (.port 5003, "c"), (.cid 3, "e")] := by
  decide +kernel

end GuestSpec
