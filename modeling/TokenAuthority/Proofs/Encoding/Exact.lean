import Mathlib.Data.List.Induction
import Mathlib.Data.String.Basic
import Mathlib.Tactic.Ring
import TokenAuthority.Proofs.Basic
import TokenAuthority.Proofs.Encoding.RoundTrip

/-!
# Encodings are exact

What decodes is the encoding of what it decodes to, so nothing has two encodings: bytes that are read as text, base64
that is read as bytes, and bytes that are read as a number. The bytes of texts are in the order of the texts. Main
statements: `Text.Utf8.text?_eq_some_iff`, `Text.Utf8.bytes_lt_bytes_iff`, `Base64.decode?_eq_some_iff`.
-/

namespace TokenAuthority

/-! ## Bytes

With the bound as a numeral, so that `omega` can meet it. -/

namespace Octet

theorem toNat_ofNat {n : Nat} (h : n < 256) : (UInt8.ofNat n).toNat = n := UInt8.toNat_ofNat_of_lt' h

theorem ofNat_lt_ofNat_iff {m n : Nat} (hm : m < 256) (hn : n < 256) : UInt8.ofNat m < UInt8.ofNat n ↔ m < n :=
  UInt8.ofNat_lt_iff_lt hm hn

theorem ofNat_eq_ofNat_iff {m n : Nat} (hm : m < 256) (hn : n < 256) : UInt8.ofNat m = UInt8.ofNat n ↔ m = n := by
  rw [← UInt8.toNat_inj, toNat_ofNat hm, toNat_ofNat hn]

end Octet

/-! ## UTF-8 -/

namespace Text.Utf8

variable {found : List (Option Char)} {bs : List UInt8} {cs : List Char}

/-- A byte string that begins with a character begins with its bytes. -/
theorem eq_append_of_first? {b : UInt8} {rest : List UInt8} {c : Char} (h : first? (b :: rest) = some c) :
    b :: rest = String.utf8EncodeChar c ++ rest.drop (c.utf8Size - 1) := by
  obtain ⟨more, hmore⟩ := ByteArray.exists_of_utf8DecodeChar?_eq_some h
  have htake : (b :: rest).take 4 = String.utf8EncodeChar c ++ more.data.toList := by
    simpa using congrArg (fun bytes => bytes.data.toList) hmore
  have hsplit : b :: rest = String.utf8EncodeChar c ++ (more.data.toList ++ (b :: rest).drop 4) := by
    rw [← List.append_assoc, ← htake, List.take_append_drop]
  have hdrop : rest.drop (c.utf8Size - 1) = (b :: rest).drop (String.utf8EncodeChar c).length := by
    rw [String.length_utf8EncodeChar, ← Nat.sub_add_cancel c.utf8Size_pos, List.drop_succ_cons, Nat.add_sub_cancel]
  rw [hdrop]
  conv => rhs; rw [hsplit, List.drop_left]
  exact hsplit

/-- What has been found already stands in front. -/
theorem reverse_prefix_decodeOnto (found : List (Option Char)) (bs : List UInt8) :
    found.reverse <+: decodeOnto found bs := by
  fun_induction decodeOnto found bs with
  | case1 found => exact List.prefix_rfl
  | case2 found b rest c hfirst ih => exact (by simp : found.reverse <+: (some c :: found).reverse).trans ih
  | case3 found b rest hfirst ih => exact (by simp : found.reverse <+: (none :: found).reverse).trans ih

theorem eq_encode_of_decodeOnto (h : decodeOnto found bs = found.reverse ++ cs.map some) : bs = encode cs := by
  fun_induction decodeOnto found bs generalizing cs with
  | case1 found =>
      have hnil : cs = [] := by simpa using h
      rw [hnil]
      rfl
  | case2 found b rest c hfirst ih =>
      have hprefix := reverse_prefix_decodeOnto (some c :: found) (rest.drop (c.utf8Size - 1))
      rw [h, List.reverse_cons, List.prefix_append_right_inj] at hprefix
      cases cs with
      | nil => simp at hprefix
      | cons d ds =>
          have hc : c = d := by simpa using hprefix
          subst hc
          have hrest : rest.drop (c.utf8Size - 1) = encode ds := ih (by simpa using h)
          rw [eq_append_of_first? hfirst, hrest]
          rfl
  | case3 found b rest hfirst ih =>
      have hprefix := reverse_prefix_decodeOnto (none :: found) rest
      rw [h, List.reverse_cons, List.prefix_append_right_inj] at hprefix
      cases cs with
      | nil => simp at hprefix
      | cons d ds => simp at hprefix

/-- A text is read of its own bytes, and of no others. -/
theorem text?_eq_some_iff {s : String} : text? bs = some s ↔ bs = bytes s := by
  constructor
  · intro h
    obtain ⟨cs, hcs, rfl⟩ := Option.map_eq_some_iff.1 h
    have hdecode : decode bs = cs.map some := by simpa using Outcome.mapM_eq_some_iff.1 hcs
    rw [bytes, String.toList_ofList]
    refine eq_encode_of_decodeOnto (?_ : decodeOnto [] bs = [].reverse ++ cs.map some)
    exact hdecode
  · rintro rfl
    exact text?_bytes s

theorem bytes_inj {s t : String} (h : bytes s = bytes t) : s = t := by
  have hs := text?_bytes s
  rw [h, text?_bytes] at hs
  exact (Option.some.inj hs).symm

/-! ### The order of bytes -/

/-- The bytes of a character decide the order, whatever bytes follow. -/
theorem utf8EncodeChar_append_lt {c d : Char} (h : c < d) (x y : List UInt8) :
    String.utf8EncodeChar c ++ x < String.utf8EncodeChar d ++ y := by
  have hlt : c.val.toNat < d.val.toNat := h
  have hvalid : d.val.toNat < 0x110000 := by
    have hd := d.valid
    simp only [UInt32.isValidChar, Nat.isValidChar] at hd
    omega
  have hdiv₂ (k : Nat) : k / 4096 = k / 64 / 64 := (Nat.div_div_eq_div_mul k 64 64).symm
  have hdiv₃ (k : Nat) : k / 262144 = k / 64 / 64 / 64 := by
    rw [Nat.div_div_eq_div_mul, Nat.div_div_eq_div_mul]
  simp only [String.utf8EncodeChar, hdiv₂, hdiv₃]
  generalize c.val.toNat = m at hlt ⊢
  generalize d.val.toNat = n at hlt hvalid ⊢
  -- One case for each pair of lengths: the first bytes tell different lengths apart, and else the bytes are digits.
  split_ifs
  all_goals
    simp (disch := omega) only [List.cons_append, List.nil_append, List.cons_lt_cons_iff,
      Octet.ofNat_lt_ofNat_iff, Octet.ofNat_eq_ofNat_iff]
    omega

theorem encode_cons (c : Char) (cs : List Char) : encode (c :: cs) = String.utf8EncodeChar c ++ encode cs :=
  List.flatMap_cons

theorem encode_lt_encode {cs ds : List Char} (h : cs < ds) : encode cs < encode ds := by
  induction cs generalizing ds with
  | nil =>
      cases ds with
      | nil => exact absurd h (List.lt_irrefl _)
      | cons d ds =>
          rw [encode_cons]
          cases hd : String.utf8EncodeChar d with
          | nil => exact absurd hd String.utf8EncodeChar_ne_nil
          | cons b bs => exact List.nil_lt_cons _ _
  | cons c cs ih =>
      cases ds with
      | nil => cases h
      | cons d ds =>
          rw [encode_cons, encode_cons]
          rcases List.cons_lt_cons_iff.1 h with hlt | ⟨rfl, hlt⟩
          · exact utf8EncodeChar_append_lt hlt _ _
          · exact List.append_left_lt (ih hlt)

theorem bytes_lt_bytes {s t : String} (h : s < t) : bytes s < bytes t := encode_lt_encode h

/-- Texts are ordered as their bytes are. -/
theorem bytes_lt_bytes_iff {s t : String} : bytes s < bytes t ↔ s < t := by
  constructor
  · intro h
    rcases lt_trichotomy s t with hlt | rfl | hlt
    · exact hlt
    · exact absurd h (List.lt_irrefl _)
    · exact absurd (bytes_lt_bytes hlt) (List.lt_asymm h)
  · exact bytes_lt_bytes

end Text.Utf8

/-! ## Base64 -/

namespace Base64

variable {a : Alphabet} {cs : List Char} {bytes : List UInt8}

/-- A character is the one for its value. -/
theorem char_of_value? {c : Char} {n : Nat} (h : a.value? c = some n) : n < 64 ∧ a.char n = c := by
  simp only [Alphabet.value?] at h
  split_ifs at h with hupper hlower hdigit hplus hslash
  all_goals
    cases h
    refine ⟨by omega, ?_⟩
    unfold Alphabet.char
  · rw [if_pos (by omega), Nat.add_sub_cancel' hupper.1, Char.ofNat_toNat]
  · rw [if_neg (by omega), if_pos (by omega), Nat.add_sub_cancel' (by omega), Char.ofNat_toNat]
  · rw [if_neg (by omega), if_neg (by omega), if_pos (by omega), Nat.add_sub_cancel, Char.ofNat_toNat]
  · exact hplus.symm
  · exact hslash.symm

/-- Groups of six bits come back from the bytes they make up. -/
theorem sextets_of_ofSextets? {ns : List Nat} (hns : ∀ n ∈ ns, n < 64) (h : ofSextets? ns = some bytes) :
    sextets bytes = ns := by
  fun_induction ofSextets? ns generalizing bytes with
  | case1 =>
      cases h
      rfl
  | case2 => cases h
  | case3 x y hrest =>
      cases h
      simp only [List.forall_mem_cons] at hns
      rw [sextets, Octet.toNat_ofNat (by omega)]
      congr 2 <;> omega
  | case4 => cases h
  | case5 x y z hrest =>
      cases h
      simp only [List.forall_mem_cons] at hns
      rw [sextets, Octet.toNat_ofNat (by omega), Octet.toNat_ofNat (by omega)]
      congr 3 <;> omega
  | case6 => cases h
  | case7 w x y z rest ih =>
      obtain ⟨more, hmore, rfl⟩ := Option.map_eq_some_iff.1 h
      simp only [List.forall_mem_cons] at hns
      rw [sextets, ih hns.2.2.2.2 hmore, Octet.toNat_ofNat (by omega), Octet.toNat_ofNat (by omega),
        Octet.toNat_ofNat (by omega)]
      congr 4 <;> omega

theorem lt_of_mem_values {ns : List Nat} (h : cs.mapM a.value? = some ns) : ∀ n ∈ ns, n < 64 := by
  intro n hn
  have hmem : some n ∈ cs.map a.value? := Outcome.mapM_eq_some_iff.1 h ▸ List.mem_map_of_mem hn
  obtain ⟨c, _, hvalue⟩ := List.mem_map.1 hmem
  exact (char_of_value? hvalue).1

/-- Bytes are read of their own base64, and of no other. -/
theorem decode?_eq_some_iff (ha : a.Faithful) : decode? a cs = some bytes ↔ cs = encode a bytes := by
  constructor
  · intro h
    obtain ⟨ns, hns, hbytes⟩ := Option.bind_eq_some_iff.1 h
    rw [encode, sextets_of_ofSextets? (lt_of_mem_values hns) hbytes]
    exact (Outcome.map_eq_of_mapM (fun c n hvalue => (char_of_value? hvalue).2) hns).symm
  · rintro rfl
    exact decode?_encode ha bytes

end Base64

/-! ## Numbers -/

namespace Unsigned

theorem toBytes_ofBytes (bytes : List UInt8) : toBytes bytes.length (ofBytes bytes) = bytes := by
  induction bytes using List.reverseRecOn with
  | nil => rfl
  | append_singleton bytes b ih =>
      have hb := b.toNat_lt
      have hquot : (256 * ofBytes bytes + b.toNat) / 256 = ofBytes bytes := by omega
      have hrest : (256 * ofBytes bytes + b.toNat) % 256 = b.toNat := by omega
      rw [List.length_append, List.length_singleton, ofBytes_append_singleton, toBytes, hquot, hrest, ih,
        UInt8.ofNat_toNat]

theorem ofBytes_inj {bytes bytes' : List UInt8} (hlength : bytes.length = bytes'.length)
    (h : ofBytes bytes = ofBytes bytes') : bytes = bytes' := by
  rw [← toBytes_ofBytes bytes, hlength, h, toBytes_ofBytes]

theorem ofBytes_append (front back : List UInt8) :
    ofBytes (front ++ back) = ofBytes front * 256 ^ back.length + ofBytes back := by
  induction back using List.reverseRecOn with
  | nil => simp [ofBytes]
  | append_singleton back b ih =>
      rw [← List.append_assoc, ofBytes_append_singleton, ih, ofBytes_append_singleton, List.length_append,
        List.length_singleton, Nat.pow_succ]
      ring

theorem ofBytes_lt (bytes : List UInt8) : ofBytes bytes < 256 ^ bytes.length := by
  induction bytes using List.reverseRecOn with
  | nil => decide
  | append_singleton bytes b ih =>
      rw [ofBytes_append_singleton, List.length_append, List.length_singleton, Nat.pow_succ]
      have hb := b.toNat_lt
      omega

/-- A number is no less than the power of 256 with one factor fewer than it has bytes. -/
theorem pow_byteLength_le {n : Nat} (hn : n ≠ 0) : 256 ^ (byteLength n - 1) ≤ n := by
  have hlength : byteLength n - 1 = n.log2 / 8 := by
    rw [byteLength, bitLength, if_neg hn]
    omega
  calc
    256 ^ (byteLength n - 1) = 2 ^ (8 * (n.log2 / 8)) := by rw [hlength, Nat.pow_mul]
    _ ≤ 2 ^ n.log2 := Nat.pow_le_pow_right (by decide) (Nat.mul_div_le _ _)
    _ ≤ n := Nat.log2_self_le hn

end Unsigned

end TokenAuthority
