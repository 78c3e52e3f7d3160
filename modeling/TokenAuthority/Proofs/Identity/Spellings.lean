import Mathlib.Data.List.Induction
import TokenAuthority.Proofs.Basic
import TokenAuthority.Proofs.Identity.UserIdText

/-!
# The spellings of a user id

A text names a user id in four ways: by 32 hexadecimal digits, by the same digits in hyphenated groups, and by such
groups in braces or after `urn:uuid:`. Letters may be of any case. Main statements: `UserId.ofText_eq_ok_iff`,
`UserId.ofText_eq_iff`.
-/

namespace TokenAuthority

/-! ## Hexadecimal digits -/

namespace Text

variable {c : Char} {n : Nat} {ds : List Char} {values : List Nat}

/-- The characters that stand for a hexadecimal digit. -/
def hexAlphabet : List Char := "0123456789abcdefABCDEF".toList

/-- What holds of each ASCII character by itself. -/
theorem of_ascii {p : Char → Prop} (hall : ∀ n : Fin 128, p (Char.ofNat n)) (hc : c.toNat < 128) : p c := by
  have h := hall ⟨c.toNat, hc⟩
  rwa [Char.ofNat_toNat] at h

theorem toNat_lt_of_mem_hexAlphabet (h : c ∈ hexAlphabet) : c.toNat < 128 := by
  have hall : (hexAlphabet.all fun c => c.toNat < 128) = true := by decide
  exact of_decide_eq_true (List.all_eq_true.1 hall c h)

theorem toNat_lt_of_toLower (h : c.toLower.toNat < 128) : c.toNat < 128 := by
  unfold Char.toLower at h
  split at h
  · rename_i hupper
    have hle : c.toNat ≤ 'Z'.toNat := UInt32.le_iff_toNat_le.1 hupper.2
    exact Nat.lt_of_le_of_lt hle (by decide)
  · exact h

theorem mem_hexAlphabet_of_hexValue? (h : hexValue? c = some n) : c ∈ hexAlphabet := by
  have hascii : c.toNat < 128 := by
    simp only [hexValue?] at h
    split at h
    · omega
    · split at h
      · omega
      · split at h
        · omega
        · cases h
  have hall : ∀ m : Fin 128, (hexValue? (Char.ofNat m)).isSome = true → Char.ofNat m ∈ hexAlphabet := by decide
  have hmem : (hexValue? c).isSome = true → c ∈ hexAlphabet :=
    of_ascii (p := fun c => (hexValue? c).isSome = true → c ∈ hexAlphabet) hall hascii
  exact hmem (by simp [h])

/-- A digit of either case is written in lower case. -/
theorem hexDigit_of_hexValue? (h : hexValue? c = some n) : n < 16 ∧ hexDigit n = c.toLower := by
  have hall : (hexAlphabet.all fun c =>
      (hexValue? c).any fun n => decide (n < 16) && hexDigit n == c.toLower) = true := by decide
  have hdigit := List.all_eq_true.1 hall c (mem_hexAlphabet_of_hexValue? h)
  rw [h] at hdigit
  simpa using hdigit

theorem hexValue?_eq_none_iff : hexValue? c = none ↔ c ∉ hexAlphabet := by
  have hall : (hexAlphabet.all fun c => (hexValue? c).isSome) = true := by decide
  constructor
  · intro h hmem
    have hvalue := List.all_eq_true.1 hall c hmem
    rw [h] at hvalue
    cases hvalue
  · intro h
    cases hvalue : hexValue? c with
    | none => rfl
    | some n => exact absurd (mem_hexAlphabet_of_hexValue? hvalue) h

theorem exists_mapM_hexValue?_iff : (∃ values, ds.mapM hexValue? = some values) ↔ ∀ c ∈ ds, c ∈ hexAlphabet := by
  rw [← Option.ne_none_iff_exists', Ne, Outcome.mapM_eq_none_iff]
  simp only [hexValue?_eq_none_iff, not_exists, not_and, not_not]

theorem digits_of_mapM_hexValue? (h : ds.mapM hexValue? = some values) :
    (∀ n ∈ values, n < 16) ∧ values.map hexDigit = ds.map Char.toLower := by
  rw [Outcome.mapM_eq_some_iff] at h
  induction ds generalizing values with
  | nil =>
      cases values with
      | nil => simp
      | cons n values => cases h
  | cons c ds ih =>
      cases values with
      | nil => cases h
      | cons n values =>
          obtain ⟨hhead, htail⟩ := List.cons.inj h
          obtain ⟨hn, hdigit⟩ := hexDigit_of_hexValue? hhead
          obtain ⟨hvalues, hdigits⟩ := ih htail
          rw [List.forall_mem_cons, List.map_cons, List.map_cons, hdigit, hdigits]
          exact ⟨⟨hn, hvalues⟩, rfl⟩

/-- A number is written with the digits that it is made of. -/
theorem hexDigits_ofHexValues (h : ∀ n ∈ values, n < 16) :
    hexDigits values.length (ofHexValues values) = values.map hexDigit := by
  induction values using List.reverseRecOn with
  | nil => rfl
  | append_singleton values n ih =>
      have hlast : n < 16 := h n (by simp)
      have hfront := ih fun m hm => h m (by simp [hm])
      have hnumber : ofHexValues (values ++ [n]) = 16 * ofHexValues values + n := by simp [ofHexValues]
      have hdiv : (16 * ofHexValues values + n) / 16 = ofHexValues values := by omega
      have hmod : (16 * ofHexValues values + n) % 16 = n := by omega
      rw [hnumber, List.length_append, List.length_singleton, hexDigits, hdiv, hmod, hfront]
      simp

theorem ofHexValues_lt (h : ∀ n ∈ values, n < 16) : ofHexValues values < 16 ^ values.length := by
  induction values using List.reverseRecOn with
  | nil => simp [ofHexValues]
  | append_singleton values n ih =>
      have hlast : n < 16 := h n (by simp)
      have hfront := ih fun m hm => h m (by simp [hm])
      have hnumber : ofHexValues (values ++ [n]) = 16 * ofHexValues values + n := by simp [ofHexValues]
      rw [hnumber, List.length_append, List.length_singleton, Nat.pow_succ]
      omega

end Text

/-! ## Spellings -/

namespace UserId

variable {cs ds ds' : List Char} {id id' : UserId} {s s' : String}

/-- The 32 hexadecimal digits of an id. -/
structure IsDigits (ds : List Char) : Prop where
  length : ds.length = 32
  hexadecimal : ∀ c ∈ ds, c ∈ Text.hexAlphabet

/-- Digits are told by their number and the alphabet. -/
instance (ds : List Char) : Decidable (IsDigits ds) :=
  decidable_of_iff (ds.length = 32 ∧ (ds.all fun c => c ∈ Text.hexAlphabet) = true) <| by
    simp only [List.all_eq_true, decide_eq_true_eq]
    exact ⟨fun h => ⟨h.1, h.2⟩, fun h => ⟨h.1, h.2⟩⟩

/-- A text that has digits in groups of 8, 4, 4, 4 and 12, with a hyphen between any two. -/
inductive Groups : List Char → List Char → Prop
  | mk {a b c d e : List Char} (ha : a.length = 8) (hb : b.length = 4) (hc : c.length = 4) (hd : d.length = 4)
      (he : e.length = 12) : Groups (a ++ '-' :: (b ++ '-' :: (c ++ '-' :: (d ++ '-' :: e)))) (a ++ b ++ c ++ d ++ e)

/-- A text that names an id by its digits. -/
inductive Spelling : List Char → List Char → Prop
  | bare {ds : List Char} (hds : IsDigits ds) : Spelling ds ds
  | grouped {cs ds : List Char} (hcs : Groups cs ds) (hds : IsDigits ds) : Spelling cs ds
  | braced {cs ds : List Char} (hcs : Groups cs ds) (hds : IsDigits ds) : Spelling ('\x7b' :: (cs ++ ['\x7d'])) ds
  | urn {front cs ds : List Char} (hfront : front.map Char.toLower = "urn:uuid:".toList) (hcs : Groups cs ds)
      (hds : IsDigits ds) : Spelling (front ++ cs) ds

/-! ### Digits -/

/-- The digits that an id is written with, without hyphens. -/
def digits (id : UserId) : List Char := Text.hexDigits 32 id.bits.toNat

theorem digits_inj (h : id.digits = id'.digits) : id = id' := by
  have hread := ofDigits?_hexDigits id
  rw [← digits, h, digits, ofDigits?_hexDigits] at hread
  exact (Option.some.inj hread).symm

theorem digits_of_ofDigits? (h : ofDigits? ds = some id) : IsDigits ds ∧ id.digits = ds.map Char.toLower := by
  unfold ofDigits? at h
  split at h
  · rename_i hlength
    obtain ⟨values, hvalues, rfl⟩ := Option.map_eq_some_iff.1 h
    obtain ⟨hsmall, hdigits⟩ := Text.digits_of_mapM_hexValue? hvalues
    have hcount : values.length = 32 := by
      have h := congrArg List.length hdigits
      rwa [List.length_map, List.length_map, hlength] at h
    have hbound : Text.ofHexValues values < 2 ^ 128 := by
      have h := Text.ofHexValues_lt hsmall
      rwa [hcount, show 16 ^ 32 = 2 ^ 128 from rfl] at h
    have hexact := Text.hexDigits_ofHexValues hsmall
    rw [hcount] at hexact
    refine ⟨⟨hlength, Text.exists_mapM_hexValue?_iff.1 ⟨values, hvalues⟩⟩, ?_⟩
    rw [digits, BitVec.toNat_ofNat, Nat.mod_eq_of_lt hbound, hexact, hdigits]
  · cases h

theorem exists_ofDigits? (h : IsDigits ds) : ∃ id, ofDigits? ds = some id := by
  obtain ⟨values, hvalues⟩ := Text.exists_mapM_hexValue?_iff.2 h.hexadecimal
  rw [ofDigits?, if_pos h.length, hvalues]
  exact ⟨_, rfl⟩

theorem ofDigits?_eq_some_iff : ofDigits? ds = some id ↔ IsDigits ds ∧ id.digits = ds.map Char.toLower := by
  constructor
  · exact digits_of_ofDigits?
  · rintro ⟨hds, hdigits⟩
    obtain ⟨id', hread⟩ := exists_ofDigits? hds
    rw [hread, digits_inj ((digits_of_ofDigits? hread).2.trans hdigits.symm)]

/-! ### Groups -/

theorem ungroup?_eq_some_iff : ungroup? cs = some ds ↔ Groups cs ds := by
  constructor
  · intro h
    unfold ungroup? at h
    split at h
    · rename_i hshape
      obtain ⟨hlength, h8, h13, h18, h23⟩ := hshape
      have hcut (n : Nat) (h : cs[n]? = some '-') (m : Nat) (hm : m ≤ n) :
          cs.drop m = (cs.drop m).take (n - m) ++ '-' :: cs.drop (n + 1) := by
        obtain ⟨hn, hget⟩ := List.getElem?_eq_some_iff.1 h
        have hrest : (cs.drop m).drop (n - m) = '-' :: cs.drop (n + 1) := by
          rw [List.drop_drop, Nat.add_sub_cancel' hm, List.drop_eq_getElem_cons hn, hget]
        rw [← hrest, List.take_append_drop]
      have hgroups : cs = cs.take 8 ++ '-' :: ((cs.drop 9).take 4 ++ '-' :: ((cs.drop 14).take 4 ++ '-' ::
          ((cs.drop 19).take 4 ++ '-' :: cs.drop 24))) := by
        rw [← hcut 23 h23 19 (by decide), ← hcut 18 h18 14 (by decide), ← hcut 13 h13 9 (by decide)]
        exact hcut 8 h8 0 (by decide)
      cases h
      have hmade := @Groups.mk (cs.take 8) ((cs.drop 9).take 4) ((cs.drop 14).take 4) ((cs.drop 19).take 4) (cs.drop 24)
        (by simp [hlength]) (by simp [hlength]) (by simp [hlength]) (by simp [hlength]) (by simp [hlength])
      rwa [← hgroups] at hmade
    · cases h
  · rintro ⟨ha, hb, hc, hd, he⟩
    exact ungroup?_join ha hb hc hd he

theorem ofGroups?_eq_some_iff : ofGroups? cs = some id ↔
    ∃ ds, Groups cs ds ∧ IsDigits ds ∧ id.digits = ds.map Char.toLower := by
  rw [ofGroups?, Option.bind_eq_some_iff]
  simp only [ungroup?_eq_some_iff, ofDigits?_eq_some_iff]

theorem Groups.length_eq (h : Groups cs ds) : cs.length = 36 := by
  obtain ⟨ha, hb, hc, hd, he⟩ := h
  simp [ha, hb, hc, hd, he]

theorem Groups.mem {c : Char} (h : Groups cs ds) (hc : c ∈ cs) : c = '-' ∨ c ∈ ds := by
  cases h
  simp only [List.mem_append, List.mem_cons] at hc ⊢
  tauto

/-! ### Lengths -/

theorem IsDigits.ascii {c : Char} (h : IsDigits ds) (hc : c ∈ ds) : c.toNat < 128 :=
  Text.toNat_lt_of_mem_hexAlphabet (h.hexadecimal c hc)

theorem Groups.ascii {c : Char} (h : Groups cs ds) (hds : IsDigits ds) (hc : c ∈ cs) : c.toNat < 128 := by
  rcases h.mem hc with rfl | hc
  · decide
  · exact hds.ascii hc

theorem IsDigits.byteLength_eq (h : IsDigits ds) : byteLength ds = 32 := by
  rw [byteLength_of_ascii fun c => h.ascii, h.length]

theorem Groups.byteLength_eq (h : Groups cs ds) (hds : IsDigits ds) : byteLength cs = 36 := by
  rw [byteLength_of_ascii fun c => h.ascii hds, h.length_eq]

theorem byteLength_append (cs cs' : List Char) : byteLength (cs ++ cs') = byteLength cs + byteLength cs' := by
  simp [byteLength, Text.Utf8.encode]

/-! ### Enclosed groups -/

theorem unbrace?_eq_some_iff {inner : List Char} :
    unbrace? cs = some inner ↔ cs = '\x7b' :: (inner ++ ['\x7d']) := by
  constructor
  · intro h
    unfold unbrace? at h
    split at h
    · rename_i rest
      split at h
      · rename_i hlast
        obtain ⟨front, rfl⟩ := List.getLast?_eq_some_iff.1 hlast
        rw [List.dropLast_concat] at h
        cases h
        rfl
      · cases h
    · cases h
  · rintro rfl
    simp [unbrace?]

theorem afterUrn?_eq_some_iff {inner : List Char} : afterUrn? cs = some inner ↔
    ∃ front : List Char, front.map Char.toLower = "urn:uuid:".toList ∧ cs = front ++ inner := by
  constructor
  · intro h
    unfold afterUrn? at h
    split at h
    · rename_i hfront
      cases h
      exact ⟨cs.take 9, hfront, (List.take_append_drop 9 cs).symm⟩
    · cases h
  · rintro ⟨front, hfront, rfl⟩
    have hlength : front.length = 9 := by simpa using congrArg List.length hfront
    have hmark : (front.map Char.toLower) = ['u', 'r', 'n', ':', 'u', 'u', 'i', 'd', ':'] := hfront
    simp [afterUrn?, ← hlength, hmark]

theorem byteLength_front {front : List Char} (h : front.map Char.toLower = "urn:uuid:".toList) :
    byteLength front = 9 := by
  have hlower : ("urn:uuid:".toList.all fun c => c.toNat < 128) = true := by decide
  have hascii : ∀ c ∈ front, c.toNat < 128 := by
    intro c hc
    apply Text.toNat_lt_of_toLower
    have hmem : c.toLower ∈ "urn:uuid:".toList := h ▸ List.mem_map_of_mem hc
    exact of_decide_eq_true (List.all_eq_true.1 hlower c.toLower hmem)
  rw [byteLength_of_ascii hascii]
  simpa using congrArg List.length h

/-! ### Texts -/

theorem ofChars_eq_ok_iff_enclosed : ofChars cs = .ok id ↔
    (∃ inner, enclosed? cs = some inner ∧ ofGroups? inner = some id) ∨
      enclosed? cs = none ∧ (ofDigits? cs).or (ofGroups? cs) = some id := by
  unfold ofChars
  rw [Option.orElse_eq_orElse, Option.orElse_eq_or]
  cases enclosed? cs with
  | none => cases (ofDigits? cs).or (ofGroups? cs) <;> simp
  | some inner => cases hgroups : ofGroups? inner <;> simp [hgroups]

/-- The texts that are ids, and which: the one that is written with the digits of the text in lower case. -/
theorem ofChars_eq_ok_iff : ofChars cs = .ok id ↔ ∃ ds, Spelling cs ds ∧ id.digits = ds.map Char.toLower := by
  rw [ofChars_eq_ok_iff_enclosed]
  constructor
  · rintro (⟨inner, henclosed, hread⟩ | ⟨_, hread⟩)
    · obtain ⟨ds, hgroups, hds, hdigits⟩ := ofGroups?_eq_some_iff.1 hread
      refine ⟨ds, ?_, hdigits⟩
      unfold enclosed? at henclosed
      split at henclosed
      · rw [unbrace?_eq_some_iff.1 henclosed]
        exact .braced hgroups hds
      · split at henclosed
        · obtain ⟨front, hfront, rfl⟩ := afterUrn?_eq_some_iff.1 henclosed
          exact .urn hfront hgroups hds
        · cases henclosed
    · rcases Option.or_eq_some_iff.1 hread with hread | ⟨_, hread⟩
      · obtain ⟨hds, hdigits⟩ := ofDigits?_eq_some_iff.1 hread
        exact ⟨cs, .bare hds, hdigits⟩
      · obtain ⟨ds, hgroups, hds, hdigits⟩ := ofGroups?_eq_some_iff.1 hread
        exact ⟨ds, .grouped hgroups hds, hdigits⟩
  · rintro ⟨ds, hspelling, hdigits⟩
    cases hspelling with
    | bare hds =>
        have hread := ofDigits?_eq_some_iff.2 ⟨hds, hdigits⟩
        exact .inr ⟨by simp [enclosed?, hds.byteLength_eq], by simp [hread]⟩
    | grouped hcs hds =>
        have hread := ofGroups?_eq_some_iff.2 ⟨ds, hcs, hds, hdigits⟩
        have hlong : ofDigits? cs = none := by simp [ofDigits?, hcs.length_eq]
        exact .inr ⟨by simp [enclosed?, hcs.byteLength_eq hds], by simp [hread, hlong]⟩
    | @braced inner _ hcs hds =>
        have hread := ofGroups?_eq_some_iff.2 ⟨ds, hcs, hds, hdigits⟩
        have hlength : byteLength ('\x7b' :: (inner ++ ['\x7d'])) = 38 := by
          rw [← List.singleton_append, byteLength_append, byteLength_append, hcs.byteLength_eq hds]
          rfl
        refine .inl ⟨inner, ?_, hread⟩
        rw [enclosed?, if_pos hlength, unbrace?_eq_some_iff]
    | @urn front inner _ hfront hcs hds =>
        have hread := ofGroups?_eq_some_iff.2 ⟨ds, hcs, hds, hdigits⟩
        have hlength : byteLength (front ++ inner) = 45 := by
          rw [byteLength_append, byteLength_front hfront, hcs.byteLength_eq hds]
        refine .inl ⟨inner, ?_, hread⟩
        rw [enclosed?, if_neg (by omega), if_pos hlength]
        exact afterUrn?_eq_some_iff.2 ⟨front, hfront, rfl⟩

theorem ofText_eq_ok_iff : ofText s = .ok id ↔ ∃ ds, Spelling s.toList ds ∧ id.digits = ds.map Char.toLower :=
  ofChars_eq_ok_iff

theorem Spelling.isDigits (h : Spelling cs ds) : IsDigits ds := by
  cases h with
  | bare hds => exact hds
  | grouped _ hds => exact hds
  | braced _ hds => exact hds
  | urn _ _ hds => exact hds

theorem exists_ofText (h : Spelling s.toList ds) : ∃ id, ofText s = .ok id ∧ id.digits = ds.map Char.toLower := by
  obtain ⟨id, hread⟩ := exists_ofDigits? h.isDigits
  have hdigits := (digits_of_ofDigits? hread).2
  exact ⟨id, ofText_eq_ok_iff.2 ⟨ds, h, hdigits⟩, hdigits⟩

/-- Two texts name the same id exactly if their digits are the same but for the case of letters. -/
theorem ofText_eq_iff (h : Spelling s.toList ds) (h' : Spelling s'.toList ds') :
    ofText s = ofText s' ↔ ds.map Char.toLower = ds'.map Char.toLower := by
  obtain ⟨id, hread, hdigits⟩ := exists_ofText h
  obtain ⟨id', hread', hdigits'⟩ := exists_ofText h'
  rw [hread, hread', ← hdigits, ← hdigits', Except.ok.injEq]
  exact ⟨fun heq => heq ▸ rfl, digits_inj⟩

/-- An id is written as a spelling of its own digits. -/
theorem spelling_toText (id : UserId) : Spelling id.toText.toList id.digits := by
  rw [toText, String.toList_ofList]
  exact .grouped (ungroup?_eq_some_iff.1 (ungroup?_toChars id)) (digits_of_ofDigits? (ofDigits?_hexDigits id)).1

end UserId

end TokenAuthority
