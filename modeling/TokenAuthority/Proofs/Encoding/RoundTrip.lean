import Mathlib.Algebra.Group.Nat.Defs
import TokenAuthority.Encoding.Base64
import TokenAuthority.Encoding.Unsigned
import TokenAuthority.Text.Utf8

/-!
# Encoded bytes read back

Characters come back from their UTF-8 bytes, bytes from their base64 text, and numbers from their bytes. The text
of a token segment never holds a dot.
-/

namespace TokenAuthority

/-! ## UTF-8 -/

namespace Text.Utf8

/-- The first character of encoded characters is found whatever bytes follow it. -/
theorem first?_encodeChar_append (c : Char) (bs : List UInt8) :
    first? (String.utf8EncodeChar c ++ bs) = some c := by
  have hlen : (String.utf8EncodeChar c).length ≤ 4 := by
    rw [String.length_utf8EncodeChar]
    exact c.utf8Size_le_four
  have htake : (String.utf8EncodeChar c ++ bs).take 4 =
      String.utf8EncodeChar c ++ bs.take (4 - (String.utf8EncodeChar c).length) := by
    rw [List.take_append, List.take_of_length_le hlen]
  have hbytes : (⟨((String.utf8EncodeChar c ++ bs).take 4).toArray⟩ : ByteArray) =
      (String.utf8EncodeChar c).toByteArray ++ (bs.take (4 - (String.utf8EncodeChar c).length)).toByteArray := by
    rw [htake, ← List.toByteArray_append]
    exact ByteArray.ext (List.data_toByteArray).symm
  simp only [first?, hbytes]
  exact ByteArray.utf8DecodeChar?_utf8EncodeChar_append

theorem decodeOnto_encode (found : List (Option Char)) (cs : List Char) :
    decodeOnto found (encode cs) = found.reverse ++ cs.map some := by
  induction cs generalizing found with
  | nil => simp [encode, decodeOnto]
  | cons c cs ih =>
      have hfirst := first?_encodeChar_append c (encode cs)
      cases he : String.utf8EncodeChar c with
      | nil => exact absurd he String.utf8EncodeChar_ne_nil
      | cons b rest =>
          have hsize : rest.length = c.utf8Size - 1 := by
            have := String.length_utf8EncodeChar c
            rw [he, List.length_cons] at this
            omega
          rw [he, List.cons_append] at hfirst
          have henc : encode (c :: cs) = b :: (rest ++ encode cs) := by
            simp [encode, he]
          rw [henc, decodeOnto]
          simp only [hfirst]
          rw [← hsize, List.drop_left, ih]
          simp

@[simp] theorem decode_encode (cs : List Char) : decode (encode cs) = cs.map some := by
  simp [decode, decodeOnto_encode]

theorem text?_bytes (s : String) : text? (bytes s) = some s := by
  have hall (cs : List Char) : (cs.map some).mapM id = some cs := by
    induction cs with
    | nil => rfl
    | cons c cs ih => simp [ih]
  rw [text?, bytes, decode_encode, hall, Option.map_some, String.ofList_toList]

theorem encode_of_ascii {cs : List Char} (h : ∀ c ∈ cs, c.toNat < 128) :
    encode cs = cs.map fun c => UInt8.ofNat c.toNat := by
  induction cs with
  | nil => rfl
  | cons c cs ih =>
      have hc : c.toNat < 128 := h c (by simp)
      have hsize : c.utf8Size = 1 := Char.utf8Size_eq_one_iff.2 (UInt32.le_iff_toNat_le.2 (Nat.le_of_lt_succ hc))
      have hbyte : String.utf8EncodeChar c = [UInt8.ofNat c.toNat] := String.utf8EncodeChar_eq_singleton hsize
      have hrest := ih fun d hd => h d (by simp [hd])
      rw [encode, List.flatMap_cons, hbyte, List.map_cons, ← hrest]
      rfl

end Text.Utf8

/-! ## Base64 -/

namespace Base64

/-- An alphabet in which the 64 characters have the values they are written for. -/
def Alphabet.Faithful (a : Alphabet) : Prop :=
  ∀ n : Fin 64, a.value? (a.char n) = some n.val

theorem url_faithful : url.Faithful := by
  unfold Alphabet.Faithful
  decide

theorem sextets_lt (bytes : List UInt8) : ∀ n ∈ sextets bytes, n < 64 := by
  fun_induction sextets bytes with
  | case1 => simp
  | case2 x =>
      have := x.toNat_lt
      simp only [List.mem_cons, List.not_mem_nil, or_false]
      omega
  | case3 x y =>
      have := x.toNat_lt
      have := y.toNat_lt
      simp only [List.mem_cons, List.not_mem_nil, or_false]
      omega
  | case4 x y z rest ih =>
      have := x.toNat_lt
      have := y.toNat_lt
      have := z.toNat_lt
      simp only [List.mem_cons]
      rintro n (rfl | rfl | rfl | rfl | hn)
      all_goals first
        | exact ih _ hn
        | omega

/-- Bytes come back from their groups of six bits. -/
theorem ofSextets?_sextets (bytes : List UInt8) : ofSextets? (sextets bytes) = some bytes := by
  have back (x : UInt8) {n : Nat} (h : n = x.toNat) : UInt8.ofNat n = x := by
    rw [h, UInt8.ofNat_toNat]
  fun_induction sextets bytes with
  | case1 => rfl
  | case2 x =>
      have := x.toNat_lt
      rw [ofSextets?, if_pos (by omega), back x (by omega)]
  | case3 x y =>
      have := x.toNat_lt
      have := y.toNat_lt
      rw [ofSextets?, if_pos (by omega), back x (by omega), back y (by omega)]
  | case4 x y z rest ih =>
      have := x.toNat_lt
      have := y.toNat_lt
      have := z.toNat_lt
      rw [ofSextets?, ih, Option.map_some, back x (by omega), back y (by omega), back z (by omega)]

theorem mapM_value?_char {a : Alphabet} (ha : a.Faithful) {ns : List Nat} (hns : ∀ n ∈ ns, n < 64) :
    (ns.map a.char).mapM a.value? = some ns := by
  induction ns with
  | nil => rfl
  | cons n ns ih =>
      have hn : a.value? (a.char n) = some n := ha ⟨n, hns n (by simp)⟩
      have hrest := ih fun m hm => hns m (by simp [hm])
      rw [List.map_cons, List.mapM_cons, hn, hrest]
      rfl

theorem decode?_encode {a : Alphabet} (ha : a.Faithful) (bytes : List UInt8) :
    decode? a (encode a bytes) = some bytes := by
  rw [decode?, encode, mapM_value?_char ha (sextets_lt bytes), Option.bind_some, ofSextets?_sextets]

theorem url_char_visible : ∀ n : Fin 64, 33 ≤ (url.char n).toNat ∧ (url.char n).toNat < 127 := by
  decide

/-- The text of a token segment is of visible ASCII characters. -/
theorem visible_of_mem_encode {bytes : List UInt8} {c : Char} (h : c ∈ encode url bytes) :
    33 ≤ c.toNat ∧ c.toNat < 127 := by
  obtain ⟨n, hn, rfl⟩ := List.mem_map.mp h
  exact url_char_visible ⟨n, sextets_lt bytes n hn⟩

theorem url_char_ne_dot : ∀ n : Fin 64, url.char n ≠ '.' := by
  decide

theorem dot_notMem_encode (bytes : List UInt8) : '.' ∉ encode url bytes := by
  intro h
  obtain ⟨n, hn, hc⟩ := List.mem_map.mp h
  exact url_char_ne_dot ⟨n, sextets_lt bytes n hn⟩ hc

end Base64

/-! ## Numbers -/

namespace Unsigned

theorem ofBytes_append_singleton (bytes : List UInt8) (b : UInt8) :
    ofBytes (bytes ++ [b]) = 256 * ofBytes bytes + b.toNat := by
  simp [ofBytes]

@[simp] theorem length_toBytes (width n : Nat) : (toBytes width n).length = width := by
  induction width generalizing n with
  | zero => rfl
  | succ width ih => simp [toBytes, ih]

theorem ofBytes_toBytes {width n : Nat} (h : n < 256 ^ width) : ofBytes (toBytes width n) = n := by
  induction width generalizing n with
  | zero =>
      have : n = 0 := by simpa using h
      subst this
      rfl
  | succ width ih =>
      have hquot : n / 256 < 256 ^ width := by
        rw [Nat.div_lt_iff_lt_mul (by decide), ← Nat.pow_succ]
        exact h
      have hlast : (UInt8.ofNat (n % 256)).toNat = n % 256 :=
        UInt8.toNat_ofNat_of_lt' (Nat.mod_lt n (by decide))
      rw [toBytes, ofBytes_append_singleton, ih hquot, hlast]
      omega

/-- A number is below the power of 256 with as many factors as it has bytes. -/
theorem lt_pow_byteLength (n : Nat) : n < 256 ^ byteLength n := by
  have hbits : n < 2 ^ bitLength n := by
    unfold bitLength
    split
    · omega
    · exact Nat.lt_log2_self
  have hle : 2 ^ bitLength n ≤ 256 ^ byteLength n := by
    rw [show 256 = 2 ^ 8 from rfl, ← Nat.pow_mul]
    exact Nat.pow_le_pow_right (by decide) (by unfold byteLength; omega)
  omega

end Unsigned

end TokenAuthority
