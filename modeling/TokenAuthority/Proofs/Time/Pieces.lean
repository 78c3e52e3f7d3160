import Mathlib.Algebra.Group.Nat.Defs
import TokenAuthority.Proofs.Time.Instants
import TokenAuthority.Time.Timestamp

/-!
# The pieces of a timestamp

The grammar of the numbers, marks, fractions and offsets that timestamps are made of, as relations between a value, the
text that begins with it and the text after it. The readers follow it, and the pieces that are written are of it.
-/

namespace TokenAuthority.Timestamp

variable {p : Char → Bool} {source rest : List Char} {limit n : Nat}

/-! ## Runs of characters -/

/-- Characters with a property, as many as there are. -/
structure Run (p : Char → Bool) (run source rest : List Char) : Prop where
  source_eq : source = run ++ rest
  all : ∀ c ∈ run, p c = true
  ends : ∀ c, rest.head? = some c → p c = false

theorem run_span (p : Char → Bool) (source : List Char) : Run p (source.takeWhile p) source (source.dropWhile p) := by
  refine ⟨List.takeWhile_append_dropWhile.symm, List.all_eq_true.1 List.all_takeWhile, ?_⟩
  intro c hc
  have hends := List.head?_dropWhile_not p source
  rwa [hc] at hends

theorem Run.takeWhile_eq {run : List Char} (h : Run p run source rest) : source.takeWhile p = run := by
  rw [h.source_eq, List.takeWhile_append_of_pos h.all]
  cases rest with
  | nil => simp
  | cons c rest => simp [h.ends c rfl]

theorem Run.dropWhile_eq {run : List Char} (h : Run p run source rest) : source.dropWhile p = rest := by
  rw [h.source_eq, List.dropWhile_append_of_pos h.all]
  cases rest with
  | nil => rfl
  | cons c rest => simp [h.ends c rfl]

theorem dropWhile_eq_iff : source.dropWhile p = rest ↔ ∃ run, Run p run source rest := by
  constructor
  · rintro rfl
    exact ⟨_, run_span p source⟩
  · rintro ⟨_, h⟩
    exact h.dropWhile_eq

/-- The text after leading white space. -/
def Blanks (source rest : List Char) : Prop := ∃ blanks, Run Text.isBlank blanks source rest

theorem skipBlank_eq_iff : skipBlank source = rest ↔ Blanks source rest := dropWhile_eq_iff

theorem Blanks.of_head (h : ∀ c, source.head? = some c → Text.isBlank c = false) : Blanks source source :=
  ⟨[], rfl, List.forall_mem_nil _, h⟩

theorem isBlank_of_isDigit {c : Char} (h : c.isDigit = true) : Text.isBlank c = false := by
  have hn : 48 ≤ c.toNat ∧ c.toNat ≤ 57 := Char.isDigit_iff_toNat.1 h
  simp [Text.isBlank]
  omega

/-! ## Numbers -/

/-- A number in the first digits of a run, up to a limit. -/
inductive Numeral (limit : Nat) : Nat → List Char → List Char → Prop
  | digits {ds source rest : List Char} (hne : ds.take limit ≠ []) (h : Run Char.isDigit ds source rest) :
      Numeral limit (Nat.ofDigitChars 10 (ds.take limit) 0) source (ds.drop limit ++ rest)

theorem drop_length_take (run rest : List Char) (limit : Nat) :
    (run ++ rest).drop (run.take limit).length = run.drop limit ++ rest := by
  conv_lhs => rw [← List.take_append_drop limit run, List.append_assoc]
  simp

theorem number?_run {run : List Char} (h : Run Char.isDigit run source rest) : number? limit source =
    if run.take limit = [] then none
    else some (Nat.ofDigitChars 10 (run.take limit) 0, run.drop limit ++ rest) := by
  simp only [number?, ← List.take_takeWhile, h.takeWhile_eq, List.isEmpty_iff]
  rw [h.source_eq, drop_length_take]

theorem number?_eq_some_iff : number? limit source = some (n, rest) ↔ Numeral limit n source rest := by
  constructor
  · intro h
    have hrun := run_span Char.isDigit source
    rw [number?_run hrun, Option.ite_none_left_eq_some] at h
    obtain ⟨hne, h⟩ := h
    cases h
    exact .digits hne hrun
  · rintro ⟨hne, hrun⟩
    rw [number?_run hrun, if_neg hne]

theorem Numeral.isDigit_head (h : Numeral limit n source rest) {c : Char} (hc : source.head? = some c) :
    c.isDigit = true := by
  cases h with
  | @digits ds _ _ hne h =>
      cases ds with
      | nil => exact absurd List.take_nil hne
      | cons d ds =>
          rw [h.source_eq] at hc
          cases hc
          exact h.all _ (.head _)

theorem Numeral.blanks (h : Numeral limit n source rest) : Blanks source source :=
  .of_head fun _ hc => isBlank_of_isDigit (h.isDigit_head hc)

/-- A number of at most two digits, after white space. -/
def Pair (n : Nat) (source rest : List Char) : Prop := ∃ mid, Blanks source mid ∧ Numeral 2 n mid rest

theorem pair?_eq_some_iff : pair? source = some (n, rest) ↔ Pair n source rest := by
  simp only [pair?, number?_eq_some_iff, Pair, ← skipBlank_eq_iff, exists_eq_left']

/-- A character, after white space. -/
def Mark (mark : Char) (source rest : List Char) : Prop := Blanks source (mark :: rest)

theorem mark?_eq_some_iff {mark : Char} : mark? mark source = some rest ↔ Mark mark source rest := by
  rw [Mark, ← skipBlank_eq_iff]
  unfold mark?
  split
  · rename_i c tail htail
    rw [htail, List.cons.injEq, Option.ite_none_right_eq_some, Option.some.injEq]
  · rename_i hnil
    simp [hnil]

/-- A year, after white space: of any number of digits with a sign, of at most four without. -/
inductive Year : Int → List Char → List Char → Prop
  | minus {n : Nat} {source mid rest : List Char} (hblank : Blanks source ('-' :: mid))
      (h : Numeral mid.length n mid rest) : Year (-n) source rest
  | plus {n : Nat} {source mid rest : List Char} (hblank : Blanks source ('+' :: mid))
      (h : Numeral mid.length n mid rest) : Year n source rest
  | unsigned {n : Nat} {source mid rest : List Char} (hblank : Blanks source mid) (h : Numeral 4 n mid rest) :
      Year n source rest

theorem year?_eq_some_iff {year : Int} : year? source = some (year, rest) ↔ Year year source rest := by
  constructor
  · intro h
    unfold year? at h
    split at h
    · rename_i mid hmid
      obtain ⟨⟨n, _⟩, hn, h⟩ := Option.map_eq_some_iff.1 h
      cases h
      exact .minus (skipBlank_eq_iff.1 hmid) (number?_eq_some_iff.1 hn)
    · rename_i mid hmid
      obtain ⟨⟨n, _⟩, hn, h⟩ := Option.map_eq_some_iff.1 h
      cases h
      exact .plus (skipBlank_eq_iff.1 hmid) (number?_eq_some_iff.1 hn)
    · obtain ⟨⟨n, _⟩, hn, h⟩ := Option.map_eq_some_iff.1 h
      cases h
      exact .unsigned (skipBlank_eq_iff.1 rfl) (number?_eq_some_iff.1 hn)
  · intro h
    cases h with
    | minus hblank h => simp [year?, skipBlank_eq_iff.2 hblank, number?_eq_some_iff.2 h]
    | plus hblank h => simp [year?, skipBlank_eq_iff.2 hblank, number?_eq_some_iff.2 h]
    | @unsigned n _ mid _ hblank h =>
        rw [year?, skipBlank_eq_iff.2 hblank]
        split
        · cases h.isDigit_head rfl
        · cases h.isDigit_head rfl
        · rw [number?_eq_some_iff.2 h]
          rfl

/-! ## Fractions -/

theorem ofDigitChars_lt {ds : List Char} (h : ∀ d ∈ ds, d.isDigit = true) :
    Nat.ofDigitChars 10 ds 0 < 10 ^ ds.length := by
  induction ds with
  | nil => simp
  | cons d ds ih =>
      obtain ⟨hd, hds⟩ := List.forall_mem_cons.1 h
      have hn : 48 ≤ d.toNat ∧ d.toNat ≤ 57 := Char.isDigit_iff_toNat.1 hd
      have hdigit : d.toNat - 48 ≤ 9 := by omega
      have hscaled := Nat.mul_le_mul_left (10 ^ ds.length) hdigit
      have hrest := ih hds
      rw [Nat.ofDigitChars_cons, Nat.ofDigitChars_eq_ofDigitChars_zero, List.length_cons, Nat.pow_succ, Nat.mul_zero,
        Nat.zero_add]
      change 10 ^ ds.length * (d.toNat - 48) + _ < _
      omega

/-- What may follow the seconds: a point and digits, of which the first nine count. -/
inductive Fraction : Nat → List Char → List Char → Prop
  | absent {rest : List Char} (h : rest.head? ≠ some '.') : Fraction 0 rest rest
  | written {ds source rest : List Char} (hne : ds ≠ []) (h : Run Char.isDigit ds source rest) :
      Fraction (Nat.ofDigitChars 10 (ds.take 9) 0 * 10 ^ (9 - ds.length)) ('.' :: source) rest

theorem fraction?_point {run : List Char} (h : Run Char.isDigit run source rest) : fraction? ('.' :: source) =
    if run = [] then none else some (Nat.ofDigitChars 10 (run.take 9) 0 * 10 ^ (9 - run.length), rest) := by
  have hrest : (run.drop 9 ++ rest).dropWhile Char.isDigit = rest :=
    Run.dropWhile_eq ⟨rfl, fun c hc => h.all c (List.mem_of_mem_drop hc), h.ends⟩
  have hscale : 9 - min 9 run.length = 9 - run.length := by omega
  simp only [fraction?, ← List.take_takeWhile, h.takeWhile_eq, List.isEmpty_iff]
  rw [h.source_eq, drop_length_take, hrest, List.length_take, hscale]
  simp

theorem fraction?_of_head_ne (h : source.head? ≠ some '.') : fraction? source = some (0, source) := by
  unfold fraction?
  split
  · exact absurd rfl h
  · rfl

theorem fraction?_eq_some_iff : fraction? source = some (n, rest) ↔ Fraction n source rest := by
  constructor
  · intro h
    by_cases hpoint : source.head? = some '.'
    · obtain ⟨digits, rfl⟩ := List.head?_eq_some_iff.1 hpoint
      have hrun := run_span Char.isDigit digits
      rw [fraction?_point hrun, Option.ite_none_left_eq_some] at h
      obtain ⟨hne, h⟩ := h
      cases h
      exact .written hne hrun
    · rw [fraction?_of_head_ne hpoint] at h
      cases h
      exact .absent hpoint
  · intro h
    cases h with
    | absent h => exact fraction?_of_head_ne h
    | written hne h => rw [fraction?_point h, if_neg hne]

theorem Fraction.lt (h : Fraction n source rest) : n < nanosPerSecond := by
  cases h with
  | absent h => decide
  | @written ds source rest hne h =>
      have hvalue := ofDigitChars_lt fun d (hd : d ∈ ds.take 9) => h.all d (List.mem_of_mem_take hd)
      rw [List.length_take] at hvalue
      have hscale : min 9 ds.length + (9 - ds.length) = 9 := by omega
      calc Nat.ofDigitChars 10 (ds.take 9) 0 * 10 ^ (9 - ds.length)
        _ < 10 ^ min 9 ds.length * 10 ^ (9 - ds.length) :=
          Nat.mul_lt_mul_of_pos_right hvalue (Nat.pow_pos (by decide))
        _ = 10 ^ 9 := by rw [← Nat.pow_add, hscale]

/-! ## Offsets -/

/-- A number in exactly two digits. -/
inductive TwoDigits : Nat → List Char → List Char → Prop
  | digits {a b : Char} {rest : List Char} (ha : a.isDigit = true) (hb : b.isDigit = true) :
      TwoDigits (Nat.ofDigitChars 10 [a, b] 0) (a :: b :: rest) rest

theorem twoDigits?_eq_some_iff : twoDigits? source = some (n, rest) ↔ TwoDigits n source rest := by
  constructor
  · intro h
    unfold twoDigits? at h
    split at h
    · rename_i a b tail
      split at h
      · rename_i hdigits
        cases h
        rw [Bool.and_eq_true] at hdigits
        exact .digits hdigits.1 hdigits.2
      · cases h
    · cases h
  · rintro ⟨ha, hb⟩
    simp [twoDigits?, ha, hb]

/-- A length of time in seconds: hours and minutes in two digits each, with colons or white space between them. -/
inductive Away : Nat → List Char → List Char → Prop
  | clock {hours minutes : Nat} {run source mid mid' rest : List Char} (hhours : TwoDigits hours source mid)
      (hrun : Run (fun c => c == ':' || Text.isBlank c) run mid mid') (hminutes : TwoDigits minutes mid' rest)
      (hlt : minutes < 60) : Away (hours * 3600 + minutes * 60) source rest

theorem clockOffset?_eq_some_iff : clockOffset? source = some (n, rest) ↔ Away n source rest := by
  constructor
  · intro h
    simp only [clockOffset?, Option.bind_eq_bind, Option.bind_eq_some_iff, Prod.exists] at h
    obtain ⟨hours, mid, hhours, minutes, tail, hminutes, h⟩ := h
    split at h
    · cases h
      exact .clock (twoDigits?_eq_some_iff.1 hhours) (run_span _ _) (twoDigits?_eq_some_iff.1 hminutes) ‹_›
    · cases h
  · rintro ⟨hhours, hrun, hminutes, hlt⟩
    simp [clockOffset?, twoDigits?_eq_some_iff.2 hhours, hrun.dropWhile_eq, twoDigits?_eq_some_iff.2 hminutes, hlt]

/-- An offset from UTC in seconds: its name, its letter, or a length of time with a sign. -/
inductive Zone : Int → List Char → List Char → Prop
  | name {u t c : Char} {rest : List Char} (h : [u, t, c].map Char.toUpper = ['U', 'T', 'C']) :
      Zone 0 (u :: t :: c :: rest) rest
  | letter {z : Char} {rest : List Char} (h : z = 'Z' ∨ z = 'z') : Zone 0 (z :: rest) rest
  | ahead {n : Nat} {source rest : List Char} (h : Away n source rest) : Zone n ('+' :: source) rest
  | behind {sign : Char} {n : Nat} {source rest : List Char} (hsign : sign = '-' ∨ sign = '\u2212')
      (h : Away n source rest) : Zone (-n) (sign :: source) rest

theorem offset?_eq_some_iff {offset : Int} : offset? source = some (offset, rest) ↔ Zone offset source rest := by
  constructor
  · intro h
    unfold offset? at h
    split at h
    · rename_i hname
      match source, hname, h with
      | [], hname, _ | [_], hname, _ | [_, _], hname, _ => simp at hname
      | _ :: _ :: _ :: _, hname, h =>
          cases h
          exact .name hname
    · split at h
      · cases h
        exact .letter (.inl rfl)
      · cases h
        exact .letter (.inr rfl)
      · obtain ⟨⟨n, _⟩, hn, h⟩ := Option.map_eq_some_iff.1 h
        cases h
        exact .ahead (clockOffset?_eq_some_iff.1 hn)
      · obtain ⟨⟨n, _⟩, hn, h⟩ := Option.map_eq_some_iff.1 h
        cases h
        exact .behind (.inl rfl) (clockOffset?_eq_some_iff.1 hn)
      · obtain ⟨⟨n, _⟩, hn, h⟩ := Option.map_eq_some_iff.1 h
        cases h
        exact .behind (.inr rfl) (clockOffset?_eq_some_iff.1 hn)
      · cases h
  · intro h
    cases h with
    | name h => simp_all [offset?]
    | letter h => rcases h with rfl | rfl <;> simp [offset?]
    | ahead h => simp [offset?, clockOffset?_eq_some_iff.2 h]
    | behind hsign h => rcases hsign with rfl | rfl <;> simp [offset?, clockOffset?_eq_some_iff.2 h]

theorem Zone.whole_minutes {offset : Int} (h : Zone offset source rest) : offset % 60 = 0 := by
  cases h with
  | name => rfl
  | letter => rfl
  | ahead h =>
      cases h
      omega
  | behind _ h =>
      cases h
      omega

/-! ## Written pieces -/

theorem isDigit_of_mem_padded {width : Nat} {c : Char} (h : c ∈ padded width n) : c.isDigit = true := by
  rcases List.mem_append.1 h with h | h
  · rw [List.eq_of_mem_replicate h]
    decide
  · exact Nat.isDigit_of_mem_toDigits (by decide) (by decide) h

theorem length_padded {width : Nat} (hwidth : 0 < width) (h : n < 10 ^ width) : (padded width n).length = width := by
  have hlength := (Nat.length_toDigits_le_iff (by decide) hwidth).2 h
  simp only [padded, List.length_append, List.length_replicate]
  omega

theorem ofDigitChars_padded (width n : Nat) : Nat.ofDigitChars 10 (padded width n) 0 = n := by
  rw [padded, Nat.ofDigitChars_append, Nat.ofDigitChars_replicate_zero, Nat.mul_zero, Nat.ofDigitChars_ten_toDigits]

theorem padded_ne_nil (width n : Nat) : padded width n ≠ [] := by
  simp [padded, Nat.toDigits_ne_nil]

theorem mark_cons {mark : Char} (h : Text.isBlank mark = false) : Mark mark (mark :: rest) rest :=
  .of_head (by simpa using h)

section

variable {width m : Nat} (hends : ∀ c, rest.head? = some c → c.isDigit = false)

include hends

theorem run_padded (width n : Nat) : Run Char.isDigit (padded width n) (padded width n ++ rest) rest :=
  ⟨rfl, fun _ => isDigit_of_mem_padded, hends⟩

theorem numeral_padded (hlimit : (padded width n).length ≤ limit) : Numeral limit n (padded width n ++ rest) rest := by
  have htake := List.take_of_length_le hlimit
  have h := Numeral.digits (htake.symm ▸ padded_ne_nil width n) (run_padded hends width n)
  rwa [htake, ofDigitChars_padded, List.drop_of_length_le hlimit] at h

theorem pair_padded (h : n < 100) : Pair n (padded 2 n ++ rest) rest := by
  have hlength : (padded 2 n).length = 2 := length_padded (by decide) h
  have hnumeral : Numeral 2 n (padded 2 n ++ rest) rest := numeral_padded hends (Nat.le_of_eq hlength)
  exact ⟨_, hnumeral.blanks, hnumeral⟩

theorem year_writeYear (year : Int) : Year year (writeYear year ++ rest) rest := by
  have hsigned : Numeral (padded 4 year.natAbs ++ rest).length year.natAbs (padded 4 year.natAbs ++ rest) rest :=
    numeral_padded hends (by simp)
  unfold writeYear
  split
  · have hvalue : (year.toNat : Int) = year := by omega
    have hlength : (padded 4 year.toNat).length = 4 := length_padded (by decide) (by omega)
    have hnumeral : Numeral 4 year.toNat (padded 4 year.toNat ++ rest) rest :=
      numeral_padded hends (Nat.le_of_eq hlength)
    have hyear := Year.unsigned hnumeral.blanks hnumeral
    rwa [hvalue] at hyear
  · split
    · have hvalue : -(year.natAbs : Int) = year := by omega
      have hyear := Year.minus (.of_head (by simp [Text.isBlank])) hsigned
      rwa [hvalue] at hyear
    · have hvalue : (year.natAbs : Int) = year := by omega
      have hyear := Year.plus (.of_head (by simp [Text.isBlank])) hsigned
      rwa [hvalue] at hyear

theorem fraction_padded (hwidth : 0 < width) (hwidth' : width ≤ 9) (hm : m < 10 ^ width)
    (hvalue : m * 10 ^ (9 - width) = n) : Fraction n ('.' :: (padded width m ++ rest)) rest := by
  have hlength := length_padded hwidth hm
  have hfraction := Fraction.written (padded_ne_nil width m) (run_padded hends width m)
  rwa [List.take_of_length_le (by omega), hlength, ofDigitChars_padded, hvalue] at hfraction

theorem fraction_writeFraction (h : n < nanosPerSecond) (hpoint : rest.head? ≠ some '.') :
    Fraction n (writeFraction n ++ rest) rest := by
  simp only [nanosPerSecond] at h
  unfold writeFraction
  split
  · rename_i hzero
    rw [hzero]
    exact .absent hpoint
  · split
    · exact fraction_padded hends (by decide) (by decide) (by omega) (by omega)
    · split
      · exact fraction_padded hends (by decide) (by decide) (by omega) (by omega)
      · exact fraction_padded hends (by decide) (by decide) (by omega) (by omega)

end

theorem head_writeFraction (n : Nat) {c : Char} (h : (writeFraction n ++ ['Z']).head? = some c) :
    c.isDigit = false := by
  unfold writeFraction at h
  split_ifs at h
  all_goals
    cases h
    decide

end TokenAuthority.Timestamp
