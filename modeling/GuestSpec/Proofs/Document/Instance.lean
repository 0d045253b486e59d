import GuestSpec.Document.Instance
import GuestSpec.Proofs.Document.Machine
import GuestSpec.Proofs.Json.Text
import GuestSpec.Proofs.Text.Numeral
import Mathlib

/-!
# Documents of guests that are read back

The document of a guest is read as the guest that it was written for.
-/

namespace GuestSpec

open Json

namespace Uuid

def digits (u : Uuid) : List Char := Numeral.padZeros 32 (Numeral.hex u.bits.toNat)

theorem length_digits (u : Uuid) : u.digits.length = 32 := by
  have hbits : u.bits.toNat < 16 ^ (31 + 1) := u.bits.isLt
  exact Numeral.length_padZeros (Numeral.length_hex hbits)

theorem ofDigits?_digits (u : Uuid) : ofDigits? u.digits = some u := by
  have hvalue := Numeral.digits?_padZeros_hex 32 u.bits.toNat
  rw [ofDigits?, if_neg (by simp [u.length_digits]), digits, hvalue]
  simp

/-- Some digits in groups with hyphens between them. -/
def grouped (s : List Char) : List Char :=
  s.take 8 ++ '-' :: ((s.drop 8).take 4 ++ '-' :: ((s.drop 12).take 4 ++ '-' ::
    ((s.drop 16).take 4 ++ '-' :: s.drop 20)))

theorem toList_text (u : Uuid) : u.text.toList = grouped u.digits := by
  have hlast : (u.digits.drop 20).take 12 = u.digits.drop 20 :=
    List.take_of_length_le (by simp [u.length_digits])
  simp only [text, String.toList_ofList]
  change List.intercalate ['-'] [u.digits.take 8, _, _, _, (u.digits.drop 20).take 12] = _
  rw [hlast]
  simp [List.intercalate, grouped, digits]

theorem joinGroups?_append {a b c d e : List Char} (ha : a.length = 8) (hb : b.length = 4)
    (hc : c.length = 4) (hd : d.length = 4) (he : e.length = 12) :
    joinGroups? (a ++ '-' :: (b ++ '-' :: (c ++ '-' :: (d ++ '-' :: e)))) =
      some (a ++ b ++ c ++ d ++ e) := by
  simp (disch := omega) [joinGroups?, List.drop_append, List.getElem?_append,
    List.getElem?_cons, List.drop_of_length_le, ha, hb, hc, hd, he]

theorem take_append_drop_drop (s : List Char) (n k : Nat) :
    (s.drop n).take k ++ s.drop (n + k) = s.drop n := by
  rw [← List.drop_drop, List.take_append_drop]

theorem joinGroups?_grouped {s : List Char} (h : s.length = 32) :
    joinGroups? (grouped s) = some s := by
  rw [grouped, joinGroups?_append (by simp [h]) (by simp [h]) (by simp [h]) (by simp [h])
    (by simp [h]), List.append_assoc, List.append_assoc, List.append_assoc,
    take_append_drop_drop s 16 4, take_append_drop_drop s 12 4, take_append_drop_drop s 8 4,
    List.take_append_drop]

theorem exists_grouped_digits (u : Uuid) : ∃ c s, grouped u.digits = c :: s ∧
    c.toLower ≠ 'u' ∧ c ≠ '\x7b' := by
  obtain ⟨c, s, hdigits⟩ := List.exists_cons_of_length_eq_add_one u.length_digits
  have hmem : c ∈ u.digits := hdigits ▸ List.mem_cons_self
  obtain ⟨d, hd, rfl⟩ := Numeral.mem_padZeros_hex c hmem
  have hchar : ∀ d < 16, (Numeral.digitChar d).toLower ≠ 'u' ∧
      Numeral.digitChar d ≠ '\x7b' := by decide
  rw [hdigits]
  exact ⟨_, _, rfl, hchar d hd⟩

theorem ofText?_text (u : Uuid) : ofText? u.text = some u := by
  have hjoin := joinGroups?_grouped u.length_digits
  obtain ⟨c, s, hgrouped, hlower, hbrace⟩ := u.exists_grouped_digits
  have hurn : ((c :: s).take urnMark.length).map Char.toLower ≠ urnMark := fun h =>
    hlower (Option.some.inj (congrArg List.head? h))
  rw [hgrouped] at hjoin
  rw [ofText?, toList_text, hgrouped, if_neg hurn]
  split
  · next h => exact absurd (List.cons.inj h).1 hbrace
  · rw [hjoin]
    exact u.ofDigits?_digits

end Uuid

instance : LawfulCodec Uuid 0 where
  roundTrips u := ⟨fun _ => u.ofText?_text, Json.noConfusion, .str _⟩

instance : LawfulCodec Media 0 where
  roundTrips := Named.roundTrips (fun media => by cases media <;> decide) (by decide)

instance : LawfulCodec Disk 7 where
  roundTrips _ := .record (fun _ => rfl) rfl (by simp)

instance : LawfulCodec Nic 4 where
  roundTrips _ := .record (fun _ => rfl) rfl (by simp)

/-- The further limits of throttle groups do not have the names of those that are numbers. -/
def InstanceSpec.Separate (s : InstanceSpec) : Prop := ∀ o ∈ s.objects, o.kind.Separate

theorem InstanceSpec.roundTrips {s : InstanceSpec} (h : s.Separate) : RoundTrips 9 s := by
  have hobjects := roundTrips_list fun o ho => ObjectSpec.roundTrips (h o ho)
  have hlegible := hobjects.legible.mono (by decide : 4 ≤ 8)
  refine .record (fun _ => rfl) rfl ⟨by simp [hlegible], ?_⟩
  -- the record is long: its names are compared before anything is read
  simp only [field_eq, present_append, List.cons_append, List.nil_append]
  rw [builds_present ?names ?nodup]
  case names => rfl
  case nodup => decide
  simp [readPresent?_slot_of hobjects]

/-- The document of a guest is read back as the guest, and so are the compact and the indented text
of the document. -/
theorem InstanceSpec.decode_encode (s : InstanceSpec) (h : s.Separate) :
    decode? (encode s) = some s ∧
      (parse? (compact (encode s))).bind decode? = some s ∧
      (parse? (pretty (encode s))).bind decode? = some s := by
  have hs := roundTrips h
  exact ⟨hs.read false, hs.parse? (by decide)⟩

/-- A guest with a throttle group that has a number and a further limit. -/
theorem InstanceSpec.decode_encode_throttled :
    let limits : ThrottleLimits := { ThrottleLimits.empty with
      iopsTotal := some 500, extra := .ofList [("iops-total-max", "900")] }
    let s : InstanceSpec := { (default : InstanceSpec) with
      name := "vm", objects := [⟨"g", .throttleGroup limits⟩] }
    s.Separate ∧ decode? (encode s) = some s ∧
      (parse? (compact (encode s))).bind decode? = some s ∧
      (parse? (pretty (encode s))).bind decode? = some s := by
  intro limits s
  have hseparate : s.Separate := by
    refine List.forall_mem_singleton.2 fun other hother => ?_
    obtain rfl := ObjectKind.throttleGroup.inj hother
    decide +kernel
  exact ⟨hseparate, s.decode_encode hseparate⟩

end GuestSpec
