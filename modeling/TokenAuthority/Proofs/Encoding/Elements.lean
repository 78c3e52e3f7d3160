import TokenAuthority.Encoding.Der
import TokenAuthority.Proofs.Encoding.Exact

/-!
# Elements are exact

What is read as a length, an element or a natural number is what is written for it, and nothing else is. Main
statements: `Der.element?_eq_some_iff`, `Der.natural?_eq_some_iff`, `Der.integers?_eq_some_iff`.
-/

namespace TokenAuthority

namespace Unsigned

variable {n width : Nat}

theorem bitLength_le_iff : bitLength n ≤ width ↔ n < 2 ^ width := by
  by_cases hzero : n = 0
  · simp [bitLength, hzero]
  · rw [bitLength, if_neg hzero, Nat.succ_le_iff, Nat.log2_lt hzero]

theorem byteLength_le_iff : byteLength n ≤ width ↔ n < 256 ^ width := by
  have hpow : 256 ^ width = 2 ^ (8 * width) := (Nat.pow_mul 2 8 width).symm
  rw [hpow, ← bitLength_le_iff, byteLength]
  omega

/-- The first byte of a number is its quotient by the power of 256 that the other bytes are below. -/
theorem ofBytes_div_pow (front back : List UInt8) : ofBytes (front ++ back) / 256 ^ back.length = ofBytes front := by
  rw [ofBytes_append, Nat.mul_comm, Nat.mul_add_div (Nat.pow_pos (by decide)), Nat.div_eq_of_lt (ofBytes_lt back),
    Nat.add_zero]

end Unsigned

namespace Der

variable {bytes contents rest : List UInt8} {tag : UInt8} {n : Nat}

/-! ## Lengths -/

/-- Contents are short enough to be read if four bytes can tell their length. -/
def lengthLimit : Nat := 256 ^ 4

theorem length?_append (h : n < lengthLimit) (rest : List UInt8) :
    length? (lengthBytes n ++ rest) = some (n, rest) := by
  unfold lengthBytes
  split
  · rename_i hshort
    have hb : UInt8.ofNat n < 128 := (Octet.ofNat_lt_ofNat_iff (by omega) (by decide)).2 hshort
    simp only [List.singleton_append, length?, if_pos hb, Octet.toNat_ofNat (by omega : n < 256)]
  · rename_i hlong
    have hwidth : Unsigned.byteLength n ≤ 4 := Unsigned.byteLength_le_iff.2 h
    have hnat : (UInt8.ofNat (128 + Unsigned.byteLength n)).toNat = 128 + Unsigned.byteLength n :=
      Octet.toNat_ofNat (by omega)
    have hb : ¬ UInt8.ofNat (128 + Unsigned.byteLength n) < 128 := by
      rw [UInt8.lt_iff_toNat_lt, hnat]
      exact Nat.not_lt.2 (Nat.le_add_right _ _)
    have htake : ∀ w k, (Unsigned.toBytes w k ++ rest).take w = Unsigned.toBytes w k := fun w k => by
      rw [List.take_append_of_le_length (by simp), List.take_of_length_le (by simp)]
    have hdrop : ∀ w k, (Unsigned.toBytes w k ++ rest).drop w = rest := fun w k => by
      rw [List.drop_append_of_le_length (by simp), List.drop_of_length_le (by simp), List.nil_append]
    have hvalue := Unsigned.ofBytes_toBytes (Unsigned.lt_pow_byteLength n)
    simp only [List.cons_append, length?, if_neg hb, hnat, Nat.add_sub_cancel_left, htake, hdrop, hvalue]
    rw [if_pos ⟨hwidth, by simp, by omega, trivial⟩]

theorem length?_eq_some_iff : length? bytes = some (n, rest) ↔ n < lengthLimit ∧ bytes = lengthBytes n ++ rest := by
  constructor
  · intro h
    cases bytes with
    | nil => cases h
    | cons b more =>
        simp only [length?] at h
        split_ifs at h with hshort hlong
        · cases h
          have hb : b.toNat < 128 := UInt8.lt_iff_toNat_lt.1 hshort
          refine ⟨?_, ?_⟩
          · rw [lengthLimit]
            omega
          · simp [lengthBytes, hb]
        · rw [Option.some.injEq, Prod.mk.injEq] at h
          obtain ⟨rfl, rfl⟩ := h
          obtain ⟨hfour, hfits, hleast, hwidth⟩ := hlong
          have hlength : (more.take (b.toNat - 128)).length = b.toNat - 128 := by
            rw [List.length_take]
            omega
          have hbytes := Unsigned.toBytes_ofBytes (more.take (b.toNat - 128))
          rw [hlength] at hbytes
          have hb : 128 ≤ b.toNat := Nat.not_lt.1 hshort
          refine ⟨Unsigned.byteLength_le_iff.1 (hwidth.trans_le hfour), ?_⟩
          rw [lengthBytes, if_neg (by omega), hwidth, Nat.add_sub_cancel' hb, UInt8.ofNat_toNat, hbytes,
            List.cons_append, List.take_append_drop]
  · rintro ⟨hn, rfl⟩
    exact length?_append hn rest

/-! ## Elements -/

theorem element?_eq_some_iff : element? tag bytes = some (contents, rest) ↔
    contents.length < lengthLimit ∧ bytes = element tag contents ++ rest := by
  constructor
  · intro h
    cases bytes with
    | nil => cases h
    | cons t more =>
        simp only [element?] at h
        split_ifs at h with htag
        obtain ⟨⟨n, after⟩, hlength, hsplit⟩ := Option.bind_eq_some_iff.1 h
        obtain ⟨hn, rfl⟩ := length?_eq_some_iff.1 hlength
        split_ifs at hsplit with hfits
        cases hsplit
        have htake : (after.take n).length = n := List.length_take_of_le hfits
        rw [htake]
        exact ⟨hn, by rw [element, htake, htag, List.cons_append, List.append_assoc, List.take_append_drop]⟩
  · rintro ⟨hlength, rfl⟩
    rw [element, List.cons_append, List.append_assoc, element?, if_pos rfl, length?_append hlength]
    simp

theorem length_lengthBytes_le (h : n < lengthLimit) : (lengthBytes n).length ≤ 5 := by
  have hwidth : Unsigned.byteLength n ≤ 4 := Unsigned.byteLength_le_iff.2 h
  unfold lengthBytes
  split
  · simp
  · rw [List.length_cons, Unsigned.length_toBytes]
    omega

theorem length_element (tag : UInt8) (contents : List UInt8) :
    (element tag contents).length = (lengthBytes contents.length).length + contents.length + 1 := by
  rw [element, List.length_cons, List.length_append]

theorem length_lt_length_element (tag : UInt8) (contents : List UInt8) :
    contents.length < (element tag contents).length := by
  rw [length_element]
  omega

theorem length_element_le (h : contents.length < lengthLimit) (tag : UInt8) :
    (element tag contents).length ≤ contents.length + 6 := by
  have hbytes := length_lengthBytes_le h
  rw [length_element]
  omega

/-- Within the limit bytes begin with one element of a tag at most. -/
theorem element_append_inj {contents' rest' : List UInt8} (hlimit : (element tag contents ++ rest).length < lengthLimit)
    (h : element tag contents ++ rest = element tag contents' ++ rest') : contents = contents' ∧ rest = rest' := by
  have hlength := length_lt_length_element tag contents
  have hlength' := length_lt_length_element tag contents'
  have hlimit' := h ▸ hlimit
  rw [List.length_append] at hlimit hlimit'
  have hread : element? tag (element tag contents ++ rest) = some (contents, rest) :=
    element?_eq_some_iff.2 ⟨by omega, rfl⟩
  have hread' : element? tag (element tag contents' ++ rest') = some (contents', rest') :=
    element?_eq_some_iff.2 ⟨by omega, rfl⟩
  rw [h, hread'] at hread
  cases hread
  exact ⟨rfl, rfl⟩

/-- An element that is read: four bytes can tell the length of its contents. -/
def Encloses (tag : UInt8) (contents bytes : List UInt8) : Prop :=
  contents.length < lengthLimit ∧ bytes = element tag contents

theorem only?_eq_some_iff : only? tag bytes = some contents ↔ Encloses tag contents bytes := by
  unfold only?
  split
  · rename_i found hfound
    obtain ⟨hlength, rfl⟩ := element?_eq_some_iff.1 hfound
    rw [List.append_nil, Option.some.injEq]
    constructor
    · rintro rfl
      exact ⟨hlength, rfl⟩
    · rintro ⟨hlength', heq⟩
      have hread := element?_eq_some_iff.2 ⟨hlength', heq.trans (List.append_nil _).symm⟩
      rw [element?_eq_some_iff.2 ⟨hlength, (List.append_nil _).symm⟩] at hread
      cases hread
      rfl
  · rename_i hother
    refine ⟨nofun, fun ⟨hlength, heq⟩ => ?_⟩
    exact absurd (element?_eq_some_iff.2 ⟨hlength, heq.trans (List.append_nil _).symm⟩) (hother contents)

theorem Encloses.unique {contents' : List UInt8} (h : Encloses tag contents bytes) (h' : Encloses tag contents' bytes) :
    contents = contents' :=
  Option.some.inj ((only?_eq_some_iff.2 h).symm.trans (only?_eq_some_iff.2 h'))

/-! ## Natural numbers -/

/-- The number of bytes of a natural number with its sign bit. -/
def width (n : Nat) : Nat := Unsigned.bitLength n / 8 + 1

theorem lt_pow_width (n : Nat) : n < 256 ^ width n := by
  refine Unsigned.byteLength_le_iff.1 ?_
  rw [Unsigned.byteLength, width]
  omega

/-- A product takes no more bytes than its factors. -/
theorem width_mul_le (m n : Nat) : width (m * n) ≤ width m + width n := by
  have hm : m < 2 ^ Unsigned.bitLength m := Unsigned.bitLength_le_iff.1 (Nat.le_refl _)
  have hn : n < 2 ^ Unsigned.bitLength n := Unsigned.bitLength_le_iff.1 (Nat.le_refl _)
  have hbits : Unsigned.bitLength (m * n) ≤ Unsigned.bitLength m + Unsigned.bitLength n := by
    rw [Unsigned.bitLength_le_iff, Nat.pow_add]
    exact Nat.mul_lt_mul'' hm hn
  unfold width
  omega

theorem width_le_width {m n : Nat} (h : m ≤ n) : width m ≤ width n := by
  have hbits : Unsigned.bitLength m ≤ Unsigned.bitLength n :=
    Unsigned.bitLength_le_iff.2 (Nat.lt_of_le_of_lt h (Unsigned.bitLength_le_iff.1 (Nat.le_refl _)))
  unfold width
  omega

/-- Contents are read as a number when they have the length that is written for it. -/
theorem natural?_eq (contents : List UInt8) : natural? contents =
    if contents.length = width (Unsigned.ofBytes contents) then some (Unsigned.ofBytes contents) else none := by
  match contents with
  | [] => rfl
  | [b] =>
      have hvalue : Unsigned.ofBytes [b] = b.toNat := by simp [Unsigned.ofBytes]
      have hlength : [b].length = width b.toNat ↔ b < 128 := by
        rw [List.length_singleton, width, UInt8.lt_iff_toNat_lt, show (128 : UInt8).toNat = 2 ^ 7 from rfl,
          ← Unsigned.bitLength_le_iff]
        omega
      rw [hvalue, natural?]
      exact if_congr hlength.symm rfl rfl
  | b :: c :: back =>
      have hb := b.toNat_lt
      have hc := c.toNat_lt
      have hlead : Unsigned.ofBytes [b, c] = 256 * b.toNat + c.toNat := by simp [Unsigned.ofBytes]
      have hdiv := Unsigned.ofBytes_div_pow [b, c] back
      rw [hlead, List.cons_append, List.singleton_append] at hdiv
      have hpow : 256 ^ back.length = 2 ^ (8 * back.length) := (Nat.pow_mul 2 8 _).symm
      -- Both bounds on the length are bounds on the first two bytes.
      have hbound (k : Nat) : Unsigned.bitLength (Unsigned.ofBytes (b :: c :: back)) ≤ k + 8 * back.length ↔
          256 * b.toNat + c.toNat < 2 ^ k := by
        rw [Unsigned.bitLength_le_iff, Nat.pow_add, ← hpow, ← Nat.div_lt_iff_lt_mul (Nat.pow_pos (by decide)), hdiv]
      have hupper := hbound 15
      have hlower := hbound 7
      have hzero : b = 0 ↔ b.toNat = 0 := UInt8.toNat_inj.symm
      have hlength : (b :: c :: back).length = width (Unsigned.ofBytes (b :: c :: back)) ↔
          b < 128 ∧ ¬ (b = 0 ∧ c < 128) := by
        rw [List.length_cons, List.length_cons, width, UInt8.lt_iff_toNat_lt, UInt8.lt_iff_toNat_lt,
          show (128 : UInt8).toNat = 128 from rfl, hzero]
        omega
      rw [natural?]
      exact if_congr hlength.symm rfl rfl

theorem natural?_eq_some_iff : natural? contents = some n ↔ contents = Unsigned.toBytes (width n) n := by
  rw [natural?_eq]
  constructor
  · intro h
    split_ifs at h with hlength
    cases h
    rw [← hlength, Unsigned.toBytes_ofBytes]
  · rintro rfl
    rw [Unsigned.ofBytes_toBytes (lt_pow_width n), Unsigned.length_toBytes, if_pos rfl]

theorem integer?_eq_some_iff : integer? bytes = some (n, rest) ↔
    width n < lengthLimit ∧ bytes = integer n ++ rest := by
  rw [integer?, Option.bind_eq_some_iff]
  constructor
  · rintro ⟨⟨contents, after⟩, helement, hnatural⟩
    obtain ⟨number, hnumber, heq⟩ := Option.map_eq_some_iff.1 hnatural
    cases heq
    obtain ⟨hlength, rfl⟩ := element?_eq_some_iff.1 helement
    obtain rfl := natural?_eq_some_iff.1 hnumber
    rw [Unsigned.length_toBytes] at hlength
    exact ⟨hlength, rfl⟩
  · rintro ⟨hwidth, rfl⟩
    refine ⟨(Unsigned.toBytes (width n) n, rest), element?_eq_some_iff.2 ⟨?_, rfl⟩, ?_⟩
    · rwa [Unsigned.length_toBytes]
    · exact congrArg (Option.map fun n => (n, rest)) (natural?_eq_some_iff.2 rfl)

theorem length_integer (n : Nat) : (integer n).length = (lengthBytes (width n)).length + width n + 1 := by
  have h := length_element integerTag (Unsigned.toBytes (width n) n)
  rwa [Unsigned.length_toBytes] at h

theorem width_add_two_le_length_integer (n : Nat) : width n + 2 ≤ (integer n).length := by
  have hbytes : 0 < (lengthBytes (width n)).length := by
    unfold lengthBytes
    split <;> simp
  rw [length_integer]
  omega

theorem length_integer_le (h : width n < lengthLimit) : (integer n).length ≤ width n + 6 := by
  have hbytes := length_lengthBytes_le h
  rw [length_integer]
  omega

theorem integers?_eq_some_iff {count : Nat} {ns : List Nat} (hshort : bytes.length ≤ lengthLimit) :
    integers? count bytes = some ns ↔ ns.length = count ∧ bytes = ns.flatMap integer := by
  induction count generalizing bytes ns with
  | zero =>
      rw [List.length_eq_zero_iff]
      cases bytes with
      | nil =>
          rw [integers?, Option.some.injEq]
          exact ⟨fun h => ⟨h.symm, by rw [← h]; rfl⟩, fun h => h.1.symm⟩
      | cons b more =>
          refine ⟨nofun, ?_⟩
          rintro ⟨rfl, heq⟩
          cases heq
  | succ count ih =>
      simp only [integers?, Option.bind_eq_bind, Option.bind_eq_some_iff, Option.some.injEq]
      constructor
      · rintro ⟨⟨n, rest⟩, hfirst, others, hothers, rfl⟩
        obtain ⟨-, rfl⟩ := integer?_eq_some_iff.1 hfirst
        have hrest : rest.length ≤ lengthLimit := by
          rw [List.length_append] at hshort
          omega
        obtain ⟨rfl, rfl⟩ := (ih hrest).1 hothers
        exact ⟨rfl, rfl⟩
      · rintro ⟨hcount, rfl⟩
        cases ns with
        | nil => cases hcount
        | cons n others =>
            have hwidth := width_add_two_le_length_integer n
            rw [List.flatMap_cons, List.length_append] at hshort
            have hothers : (others.flatMap integer).length ≤ lengthLimit := by omega
            refine ⟨(n, others.flatMap integer), integer?_eq_some_iff.2 ⟨by omega, List.flatMap_cons⟩, others, ?_, rfl⟩
            exact (ih hothers).2 ⟨Nat.succ.inj hcount, rfl⟩

end Der

end TokenAuthority
