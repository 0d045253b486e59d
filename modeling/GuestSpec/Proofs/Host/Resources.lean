import GuestSpec.Host

/-!
# Lawful hosts

What a host finds lies in the range that was searched and is not excluded. That much is asked of
every host. Whether a number is still free may have changed by then, so nothing is said about it.
-/

namespace GuestSpec

class LawfulHost (H : Type) [HostResources H] : Prop where
  found_port {low high : UInt16} {excluded : UInt16 → Bool} {h h' : H} {port : UInt16} :
    HostResources.findPort? low high excluded h = (some port, h') →
      low ≤ port ∧ port ≤ high ∧ excluded port = false
  found_cid {low : UInt32} {excluded : UInt32 → Bool} {h h' : H} {cid : UInt32} :
    HostResources.findCid? low excluded h = (some cid, h') →
      low ≤ cid ∧ cid ≤ Host.lastCid ∧ excluded cid = false

/-! ## Numbers of a range -/

section Ranges

variable {i : Nat}

theorem port_mem_range {low high : UInt16} (hlow : low.toNat ≤ i)
    (hlt : i < low.toNat + (high.toNat + 1 - low.toNat)) :
    low ≤ UInt16.ofNat i ∧ UInt16.ofNat i ≤ high := by
  have hsize := high.toNat_lt_size
  have hnat : (UInt16.ofNat i).toNat = i := UInt16.toNat_ofNat_of_lt' (by omega)
  rw [UInt16.le_iff_toNat_le, UInt16.le_iff_toNat_le, hnat]
  omega

theorem cid_mem_range {low high : UInt32} (hlow : low.toNat ≤ i)
    (hlt : i < low.toNat + (high.toNat + 1 - low.toNat)) :
    low ≤ UInt32.ofNat i ∧ UInt32.ofNat i ≤ high := by
  have hsize := high.toNat_lt_size
  have hnat : (UInt32.ofNat i).toNat = i := UInt32.toNat_ofNat_of_lt' (by omega)
  rw [UInt32.le_iff_toNat_le, UInt32.le_iff_toNat_le, hnat]
  omega

end Ranges

/-! ## Fixed hosts -/

namespace Host

theorem mem_of_findPort? {host : Host} {low high port : UInt16} {excluded : UInt16 → Bool}
    (h : host.findPort? low high excluded = some port) :
    low ≤ port ∧ port ≤ high ∧ excluded port = false := by
  obtain ⟨i, hlow, hlt, hi, -⟩ := firstFrom?_eq_some h
  obtain ⟨⟨hfree, -⟩, rfl⟩ : (excluded (UInt16.ofNat i) = false ∧ _) ∧ UInt16.ofNat i = port := by
    simpa using hi
  obtain ⟨hfirst, hlast⟩ := port_mem_range hlow hlt
  exact ⟨hfirst, hlast, hfree⟩

theorem mem_of_findCid? {host : Host} {low cid : UInt32} {excluded : UInt32 → Bool}
    (h : host.findCid? low excluded = some cid) :
    low ≤ cid ∧ cid ≤ lastCid ∧ excluded cid = false := by
  obtain ⟨i, hlow, hlt, hi, -⟩ := firstFrom?_eq_some h
  obtain ⟨⟨hfree, -⟩, rfl⟩ : (excluded (UInt32.ofNat i) = false ∧ _) ∧ UInt32.ofNat i = cid := by
    simpa using hi
  obtain ⟨hfirst, hlast⟩ := cid_mem_range hlow hlt
  exact ⟨hfirst, hlast, hfree⟩

instance : LawfulHost Host where
  found_port h := mem_of_findPort? (congrArg Prod.fst h)
  found_cid h := mem_of_findCid? (congrArg Prod.fst h)

end Host

/-! ## The host of the program -/

namespace LocalHost

/-- However the tries come out, the port that the search ends with is not excluded. -/
theorem mem_of_search {excluded : UInt16 → Bool} {start count : Nat} {h h' : LocalHost}
    {port : UInt16} (hfound : search excluded start count h = (some port, h')) :
    excluded port = false ∧ ∃ i, start ≤ i ∧ i < start + count ∧ UInt16.ofNat i = port := by
  induction count generalizing start h with
  | zero => cases hfound
  | succ count ih =>
    have hnext {h : LocalHost} (hrest : search excluded (start + 1) count h = (some port, h')) :
        excluded port = false ∧
          ∃ i, start ≤ i ∧ i < start + (count + 1) ∧ UInt16.ofNat i = port := by
      obtain ⟨hfree, i, hlow, hlt, hi⟩ := ih hrest
      exact ⟨hfree, i, by omega, by omega, hi⟩
    unfold search at hfound
    dsimp only at hfound
    split at hfound
    · exact hnext hfound
    · next hfree =>
      change (if h.listens h.tries (UInt16.ofNat start) then _ else _ : StateM LocalHost _)
        { h with tries := h.tries + 1 } = _ at hfound
      split at hfound
      · obtain rfl := Option.some.inj (congrArg Prod.fst hfound)
        exact ⟨by simpa using hfree, start, Nat.le_refl _, by omega, rfl⟩
      · exact hnext hfound

instance : LawfulHost LocalHost where
  found_port hfound := by
    obtain ⟨hfree, i, hlow, hlt, rfl⟩ := mem_of_search hfound
    obtain ⟨hfirst, hlast⟩ := port_mem_range hlow hlt
    exact ⟨hfirst, hlast, hfree⟩
  found_cid h := Host.mem_of_findCid? (congrArg Prod.fst h)

end LocalHost

end GuestSpec
