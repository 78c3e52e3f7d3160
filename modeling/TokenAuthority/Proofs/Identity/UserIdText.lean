import Mathlib.Algebra.Group.Nat.Defs
import TokenAuthority.Identity.Json

/-!
# The text of a user id

The hyphenated text that an id is written as reads back as that id. Hexadecimal digits read back as the number they
were written for.
-/

namespace TokenAuthority

/-! ## Hexadecimal digits -/

namespace Text

theorem hexValue?_hexDigit_mod (n : Nat) : hexValue? (hexDigit (n % 16)) = some (n % 16) :=
  hexValue?_hexDigit ⟨n % 16, Nat.mod_lt n (by decide)⟩

theorem length_hexDigits (count n : Nat) : (hexDigits count n).length = count := by
  induction count generalizing n with
  | zero => rfl
  | succ count ih => simp [hexDigits, ih]

/-- The last digits of a number read back as its remainder. -/
theorem exists_mapM_hexDigits (count n : Nat) :
    ∃ values, (hexDigits count n).mapM hexValue? = some values ∧ ofHexValues values = n % 16 ^ count := by
  induction count generalizing n with
  | zero => exact ⟨[], rfl, by simp [ofHexValues, Nat.mod_one]⟩
  | succ count ih =>
      obtain ⟨values, hvalues, hsum⟩ := ih (n / 16)
      refine ⟨values ++ [n % 16], ?_, ?_⟩
      · simp [hexDigits, List.mapM_append, hvalues, hexValue?_hexDigit_mod]
      · have hfold : ofHexValues (values ++ [n % 16]) = 16 * ofHexValues values + n % 16 := by
          simp [ofHexValues]
        rw [hfold, hsum, Nat.pow_succ, Nat.mul_comm (16 ^ count) 16, Nat.mod_mul]
        omega

theorem hexDigit_toNat_lt : ∀ n : Fin 16, (hexDigit n).toNat < 128 := by
  decide

theorem toNat_lt_of_mem_hexDigits {count n : Nat} {c : Char} (h : c ∈ hexDigits count n) : c.toNat < 128 := by
  induction count generalizing n with
  | zero => cases h
  | succ count ih =>
      rcases List.mem_append.mp h with h | h
      · exact ih h
      · rw [List.mem_singleton.mp h]
        exact hexDigit_toNat_lt ⟨n % 16, Nat.mod_lt n (by decide)⟩

end Text

/-! ## Ids -/

namespace UserId

/-- ASCII characters take one byte each. -/
theorem byteLength_of_ascii {cs : List Char} (h : ∀ c ∈ cs, c.toNat < 128) : byteLength cs = cs.length := by
  induction cs with
  | nil => rfl
  | cons c cs ih =>
      have hc : c.utf8Size = 1 := by
        rw [Char.utf8Size_eq_one_iff, UInt32.le_iff_toNat_le]
        exact Nat.le_of_lt_succ (h c (by simp))
      have hrest := ih fun d hd => h d (by simp [hd])
      simp only [byteLength, Text.Utf8.encode, List.flatMap_cons, List.length_append,
        String.length_utf8EncodeChar] at hrest ⊢
      rw [hc, hrest, List.length_cons]
      omega

/-- Five groups of the right lengths, joined by hyphens, come apart again. -/
theorem ungroup?_join {a b c d e : List Char} (ha : a.length = 8) (hb : b.length = 4) (hc : c.length = 4)
    (hd : d.length = 4) (he : e.length = 12) :
    ungroup? (a ++ '-' :: (b ++ '-' :: (c ++ '-' :: (d ++ '-' :: e)))) = some (a ++ b ++ c ++ d ++ e) := by
  have hskip (group rest : List Char) : (group ++ '-' :: rest).drop (group.length + 1) = rest := by
    simp [List.drop_append]
  have hlen : (a ++ '-' :: (b ++ '-' :: (c ++ '-' :: (d ++ '-' :: e)))).length = 36 := by
    simp only [List.length_append, List.length_cons]
    omega
  have hdrop9 : (a ++ '-' :: (b ++ '-' :: (c ++ '-' :: (d ++ '-' :: e)))).drop 9 =
      b ++ '-' :: (c ++ '-' :: (d ++ '-' :: e)) := by
    simpa [ha] using hskip a (b ++ '-' :: (c ++ '-' :: (d ++ '-' :: e)))
  have hdrop14 : (a ++ '-' :: (b ++ '-' :: (c ++ '-' :: (d ++ '-' :: e)))).drop 14 =
      c ++ '-' :: (d ++ '-' :: e) := by
    rw [show 14 = 9 + 5 from rfl, ← List.drop_drop, hdrop9]
    simpa [hb] using hskip b (c ++ '-' :: (d ++ '-' :: e))
  have hdrop19 : (a ++ '-' :: (b ++ '-' :: (c ++ '-' :: (d ++ '-' :: e)))).drop 19 = d ++ '-' :: e := by
    rw [show 19 = 14 + 5 from rfl, ← List.drop_drop, hdrop14]
    simpa [hc] using hskip c (d ++ '-' :: e)
  have hdrop24 : (a ++ '-' :: (b ++ '-' :: (c ++ '-' :: (d ++ '-' :: e)))).drop 24 = e := by
    rw [show 24 = 19 + 5 from rfl, ← List.drop_drop, hdrop19]
    simpa [hd] using hskip d e
  simp only [ungroup?, hlen, hdrop9, hdrop14, hdrop19, hdrop24]
  simp [List.getElem?_append, ha, hb, hc, hd]

theorem ofDigits?_hexDigits (id : UserId) : ofDigits? (Text.hexDigits 32 id.bits.toNat) = some id := by
  obtain ⟨values, hvalues, hsum⟩ := Text.exists_mapM_hexDigits 32 id.bits.toNat
  have hbound : id.bits.toNat < 16 ^ 32 := id.bits.isLt
  rw [ofDigits?, if_pos (Text.length_hexDigits 32 _), hvalues, Option.map_some, hsum, Nat.mod_eq_of_lt hbound,
    BitVec.ofNat_toNat, BitVec.setWidth_eq]

/-- Digits cut into the five groups of an id join to the same digits. -/
theorem groups_join (ds : List Char) :
    ds.take 8 ++ (ds.drop 8).take 4 ++ (ds.drop 12).take 4 ++ (ds.drop 16).take 4 ++ ds.drop 20 = ds := by
  rw [← List.take_add, ← List.take_add, ← List.take_add]
  exact List.take_append_drop 20 ds

theorem ungroup?_toChars (id : UserId) : ungroup? id.toChars = some (Text.hexDigits 32 id.bits.toNat) := by
  have hlen := Text.length_hexDigits 32 id.bits.toNat
  rw [toChars, ungroup?_join (by simp [hlen]) (by simp [hlen]) (by simp [hlen]) (by simp [hlen]) (by simp [hlen]),
    groups_join]

theorem toNat_lt_of_mem_toChars {id : UserId} {c : Char} (h : c ∈ id.toChars) : c.toNat < 128 := by
  have hdigit : c ∈ Text.hexDigits 32 id.bits.toNat → c.toNat < 128 := Text.toNat_lt_of_mem_hexDigits
  simp only [toChars, List.mem_append, List.mem_cons] at h
  rcases h with h | rfl | h | rfl | h | rfl | h | rfl | h
  · exact hdigit (List.mem_of_mem_take h)
  · decide
  · exact hdigit (List.mem_of_mem_drop (List.mem_of_mem_take h))
  · decide
  · exact hdigit (List.mem_of_mem_drop (List.mem_of_mem_take h))
  · decide
  · exact hdigit (List.mem_of_mem_drop (List.mem_of_mem_take h))
  · decide
  · exact hdigit (List.mem_of_mem_drop h)

theorem length_toChars (id : UserId) : id.toChars.length = 36 := by
  simp [toChars, Text.length_hexDigits]

/-- An id is read from the text it is written as. -/
@[simp] theorem ofText_toText (id : UserId) : ofText id.toText = .ok id := by
  have hbytes : byteLength id.toChars = 36 := by
    rw [byteLength_of_ascii fun c => toNat_lt_of_mem_toChars, length_toChars]
  have hdigits : ofDigits? id.toChars = none := by
    rw [ofDigits?, if_neg (by rw [length_toChars]; decide)]
  have hgroups : ofGroups? id.toChars = some id := by
    rw [ofGroups?, ungroup?_toChars, Option.bind_some, ofDigits?_hexDigits]
  simp [ofText, toText, ofChars, enclosed?, hbytes, hdigits, hgroups]

end UserId

end TokenAuthority
