import TokenAuthority.Proofs.Json.Documents

/-!
# How tokens are written

The grammar of the lexical elements of a JSON text, as relations between what is written, the source it leads and the
source after it. Main statements: `Piece.isSome_join_iff`, which quoted texts have a value, and
`Token.next_eq_some_iff`, that the tokens found are the ones that are written.
-/

namespace TokenAuthority.Json

/-! ## Quoted texts -/

/-- How one element is written inside quotes. -/
inductive Piece.Leads : Piece → Source → Source → Prop
  | plain {c : Char} (hquote : c ≠ '"') (hslash : c ≠ '\\') (hcontrol : 0x20 ≤ c.toNat) (rest : Source) :
      Leads (.char c) (some c :: rest) rest
  | short {e c : Char} (h : shortEscape? e = some c) (rest : Source) :
      Leads (.char c) (some '\\' :: some e :: rest) rest
  | unit {a b c d : Option Char} {n : Nat} (h : unit? a b c d = some n) (rest : Source) :
      Leads (.unit n) (some '\\' :: some 'u' :: a :: b :: c :: d :: rest) rest
  | stray (rest : Source) : Leads .stray (none :: rest) rest

/-- How elements are written up to the closing quote. -/
inductive Quoted : List Piece → Source → Source → Prop
  | close (rest : Source) : Quoted [] (some '"' :: rest) rest
  | cons {piece : Piece} {pieces : List Piece} {source mid rest : Source} (h : piece.Leads source mid)
      (hrest : Quoted pieces mid rest) : Quoted (piece :: pieces) source rest

theorem scanText_of_leads {piece : Piece} {found : List Piece} {source rest : Source} (h : piece.Leads source rest) :
    scanText found source = scanText (piece :: found) rest := by
  cases h with
  | @plain c hquote hslash hcontrol rest =>
      have hplain : ¬ (c = '\\' ∨ c.toNat < 0x20) := by simp [hslash, hcontrol]
      rw [scanText.eq_def]
      split
      case h_6 => simp_all only [List.cons.injEq, Option.some.injEq, if_false]
      all_goals simp_all
  | @short e c h rest =>
      have hu : e ≠ 'u' := by
        rintro rfl
        cases h
      simp [scanText, hu, h]
  | unit h rest => simp [scanText, h]
  | stray rest => rw [scanText]

theorem scanText_of_quoted {found pieces : List Piece} {source rest : Source} (h : Quoted pieces source rest) :
    scanText found source = some (found.reverse ++ pieces, rest) := by
  induction h generalizing found with
  | close rest => simp [scanText]
  | cons hpiece _ ih => rw [scanText_of_leads hpiece, ih]; simp

theorem quoted_of_scanText {found ps : List Piece} {source rest : Source}
    (h : scanText found source = some (ps, rest)) :
    ∃ pieces, ps = found.reverse ++ pieces ∧ Quoted pieces source rest := by
  -- The cases are those of the scanner, which fails in four of them.
  fun_induction scanText found source with
  | case1 => cases h
  | case2 found rest' ih =>
      obtain ⟨pieces, rfl, hrest⟩ := ih h
      exact ⟨.stray :: pieces, by simp, .cons (.stray _) hrest⟩
  | case3 found rest' =>
      cases h
      exact ⟨[], by simp, .close _⟩
  | case4 found a b c d rest' n hunit ih =>
      obtain ⟨pieces, rfl, hrest⟩ := ih h
      exact ⟨.unit n :: pieces, by simp, .cons (.unit hunit _) hrest⟩
  | case5 => cases h
  | case6 found e rest' hne c hshort ih =>
      obtain ⟨pieces, rfl, hrest⟩ := ih h
      exact ⟨.char c :: pieces, by simp, .cons (.short hshort _) hrest⟩
  | case7 => cases h
  | case8 => cases h
  | case9 found c rest' hquote _ _ hplain ih =>
      obtain ⟨pieces, rfl, hrest⟩ := ih h
      obtain ⟨hslash, hcontrol⟩ := not_or.1 hplain
      exact ⟨.char c :: pieces, by simp, .cons (.plain hquote hslash (Nat.not_lt.1 hcontrol) _) hrest⟩

theorem scanText_eq_some_iff {pieces : List Piece} {source rest : Source} :
    scanText [] source = some (pieces, rest) ↔ Quoted pieces source rest := by
  constructor
  · intro h
    obtain ⟨_, rfl, hquoted⟩ := quoted_of_scanText h
    exact hquoted
  · exact fun h => scanText_of_quoted h

/-! ## Values of quoted texts -/

namespace Piece

variable {found : List Char} {pieces : List Piece}

/-- Pieces that do not end in the first half of a surrogate pair. -/
def EndsPaired (pieces : List Piece) : Prop := ∀ n, [.unit n] <:+ pieces → isHigh n = false

theorem isHigh_of_isLow {n : Nat} (h : isLow n = true) : isHigh n = false := by
  simp only [isLow, isHigh, Bool.and_eq_true, decide_eq_true_eq] at *
  simp
  omega

theorem endsPaired_cons_iff {piece : Piece} (h : ∀ n, piece = .unit n → pieces = [] → isHigh n = false) :
    EndsPaired (piece :: pieces) ↔ EndsPaired pieces := by
  constructor
  · exact fun hends n hsuffix => hends n (List.suffix_cons_iff.2 (.inr hsuffix))
  · intro hends n hsuffix
    rcases List.suffix_cons_iff.1 hsuffix with hwhole | hsuffix
    · cases hwhole
      exact h n rfl rfl
    · exact hends n hsuffix

/-- A torn text has no value. -/
theorem joinOnto_of_areTorn (h : areTorn pieces = true) : joinOnto found pieces = none := by
  fun_induction areTorn pieces generalizing found with
  | case1 => cases h
  | case2 => cases h
  | case3 n hhigh m rest ih =>
      rw [joinOnto, if_pos hhigh]
      cases hlow : isLow m with
      | true => simpa using ih (by simpa [hlow] using h)
      | false => rfl
  | case4 n rest hhigh _ hunit =>
      rw [joinOnto.eq_def]
      simp only [hhigh, if_true]
  | case5 n rest hhigh ih =>
      rw [joinOnto.eq_def]
      cases hlow : isLow n with
      | true => simp [hhigh, hlow]
      | false => simpa [hhigh, hlow] using ih (by simpa [hlow] using h)
  | case6 piece rest hunit ih =>
      cases piece with
      | char c => exact ih h
      | unit n => exact (hunit n rfl).elim
      | stray => rfl

theorem isSome_joinOnto_iff (h : areTorn pieces = false) :
    (joinOnto found pieces).isSome = true ↔ .stray ∉ pieces ∧ EndsPaired pieces := by
  fun_induction areTorn pieces generalizing found with
  | case1 => simp [joinOnto, EndsPaired]
  | case2 n hhigh =>
      have hends : ¬ EndsPaired [.unit n] := fun hends => by simp [hends n List.suffix_rfl] at hhigh
      simp [joinOnto, hhigh, hends]
  | case3 n hhigh m rest ih =>
      obtain ⟨hlow, hrest⟩ : isLow m = true ∧ areTorn rest = false := by simpa using h
      rw [joinOnto, if_pos hhigh, if_pos hlow, ih hrest, endsPaired_cons_iff (by simp),
        endsPaired_cons_iff (by simpa using fun _ => isHigh_of_isLow hlow)]
      simp
  | case4 => cases h
  | case5 n rest hhigh ih =>
      obtain ⟨hlow, hrest⟩ : isLow n = false ∧ areTorn rest = false := by simpa using h
      rw [joinOnto.eq_def, endsPaired_cons_iff (by simpa using fun _ => hhigh)]
      simp [hhigh, hlow, ih hrest]
  | case6 piece rest hunit ih =>
      rw [endsPaired_cons_iff fun n hn => (hunit n hn).elim]
      cases piece with
      | char c => simp [joinOnto, ih h]
      | unit n => exact (hunit n rfl).elim
      | stray => simp [joinOnto]

/-- A quoted text has a value unless it is torn, holds a stray byte or ends in the first half of a surrogate pair. -/
theorem isSome_join_iff :
    (join pieces).isSome = true ↔ areTorn pieces = false ∧ .stray ∉ pieces ∧ EndsPaired pieces := by
  rw [join, Option.isSome_map]
  cases htorn : areTorn pieces with
  | true => simp [joinOnto_of_areTorn htorn]
  | false => simp [isSome_joinOnto_iff htorn]

example : Token.ofPieces [.unit 0xD83D, .char 'a'] = .torn ∧ Token.ofPieces [.char 'a', .unit 0xD83D] = .text none := by
  decide

end Piece

/-! ## Numbers -/

/-- Digits, as many as there are. -/
structure Digits (ds : List Char) (source rest : Source) : Prop where
  source_eq : source = ds.map some ++ rest
  digits : ∀ d ∈ ds, d.isDigit = true
  ends : ∀ c, rest.head? = some (some c) → c.isDigit = false

theorem spanDigits_eq_iff {ds : List Char} {source rest : Source} :
    spanDigits source = (ds, rest) ↔ Digits ds source rest := by
  constructor
  · intro h
    fun_induction spanDigits source generalizing ds with
    | case1 c tail hc ds' rest' hspan ih =>
        cases h
        obtain ⟨hsource, hdigits, hends⟩ := ih hspan
        exact ⟨by rw [hsource]; rfl, List.forall_mem_cons.2 ⟨hc, hdigits⟩, hends⟩
    | case2 c tail hc =>
        cases h
        refine ⟨rfl, List.forall_mem_nil _, fun d hd => ?_⟩
        cases hd
        simpa using hc
    | case3 source hnone =>
        cases h
        refine ⟨rfl, List.forall_mem_nil _, fun c hc => ?_⟩
        obtain ⟨tail, rfl⟩ := List.head?_eq_some_iff.1 hc
        exact absurd rfl (hnone c tail)
  · rintro ⟨rfl, hdigits, hends⟩
    induction ds with
    | nil =>
        cases rest with
        | nil => rfl
        | cons o tail =>
            cases o with
            | none => rfl
            | some c => simp [spanDigits, hends c rfl]
    | cons d ds ih =>
        obtain ⟨hd, hds⟩ := List.forall_mem_cons.1 hdigits
        simp [spanDigits, hd, ih hds]

/-- What may follow the digits before the point. -/
inductive Fraction : Option (List Char) → Source → Source → Prop
  | absent {rest : Source} (h : rest.head? ≠ some (some '.')) : Fraction none rest rest
  | written {ds : List Char} {source rest : Source} (hne : ds ≠ []) (h : Digits ds source rest) :
      Fraction (some ds) (some '.' :: source) rest

theorem scanFraction_eq_some_iff {fraction : Option (List Char)} {source rest : Source} :
    scanFraction source = some (fraction, rest) ↔ Fraction fraction source rest := by
  constructor
  · intro h
    unfold scanFraction at h
    split at h
    · rename_i tail
      rcases hspan : spanDigits tail with ⟨ds, rest'⟩
      simp only [hspan] at h
      split at h
      · cases h
      · rename_i hne
        cases h
        exact .written (by simpa using hne) (spanDigits_eq_iff.1 hspan)
    · rename_i hpoint
      cases h
      refine .absent fun hhead => ?_
      obtain ⟨tail, rfl⟩ := List.head?_eq_some_iff.1 hhead
      exact hpoint tail rfl
  · intro h
    cases h with
    | absent h =>
        unfold scanFraction
        split
        · exact absurd rfl h
        · rfl
    | written hne h => simp [scanFraction, spanDigits_eq_iff.2 h, hne]

/-- The sign of an exponent, which may be left out. -/
inductive Sign : Bool → Source → Source → Prop
  | plus (rest : Source) : Sign false (some '+' :: rest) rest
  | minus (rest : Source) : Sign true (some '-' :: rest) rest
  | absent (rest : Source) : Sign false rest rest

/-- What may follow the fraction. -/
inductive Exponent : Option (Bool × List Char) → Source → Source → Prop
  | absent {rest : Source} (hlower : rest.head? ≠ some (some 'e')) (hupper : rest.head? ≠ some (some 'E')) :
      Exponent none rest rest
  | written {letter : Char} {negative : Bool} {ds : List Char} {source mid rest : Source}
      (hletter : letter = 'e' ∨ letter = 'E') (hsign : Sign negative source mid) (hne : ds ≠ [])
      (h : Digits ds mid rest) : Exponent (some (negative, ds)) (some letter :: source) rest

theorem scanExponentDigits_eq_some_iff {negative : Bool} {exponent : Option (Bool × List Char)}
    {source rest : Source} : scanExponentDigits negative source = some (exponent, rest) ↔
      ∃ ds, exponent = some (negative, ds) ∧ ds ≠ [] ∧ Digits ds source rest := by
  rcases hspan : spanDigits source with ⟨ds, rest'⟩
  simp only [scanExponentDigits, hspan, ← spanDigits_eq_iff]
  cases ds with
  | nil =>
      constructor
      · intro h
        cases h
      · rintro ⟨_, _, hne, h⟩
        cases h
        exact absurd rfl hne
  | cons d ds =>
      constructor
      · intro h
        cases h
        exact ⟨_, rfl, List.cons_ne_nil d ds, rfl⟩
      · rintro ⟨_, rfl, _, h⟩
        cases h
        rfl

/-- Digits do not begin with anything else. -/
theorem Digits.head?_ne {ds : List Char} {source rest : Source} (h : Digits ds source rest) (hne : ds ≠ []) {c : Char}
    (hc : c.isDigit = false) : source.head? ≠ some (some c) := by
  obtain ⟨d, ds, rfl⟩ := List.exists_cons_of_ne_nil hne
  have hd : d.isDigit = true := h.digits d (.head _)
  rw [h.source_eq]
  rintro hhead
  cases hhead
  rw [hd] at hc
  cases hc

/-- After its letter an exponent is read by its sign, which no digit is. -/
theorem scanExponent_letter_iff {letter : Char} (hletter : letter = 'e' ∨ letter = 'E')
    {exponent : Option (Bool × List Char)} {source rest : Source} :
    scanExponent (some letter :: source) = some (exponent, rest) ↔
      ∃ negative mid ds, exponent = some (negative, ds) ∧ Sign negative source mid ∧ ds ≠ [] ∧ Digits ds mid rest := by
  have hletter : scanExponent (some letter :: source) = scanExponent (some 'e' :: source) := by
    rcases hletter with rfl | rfl
    · rfl
    · rfl
  rw [hletter]
  constructor
  · intro h
    have hread : ∃ negative mid, Sign negative source mid ∧
        scanExponentDigits negative mid = some (exponent, rest) := by
      simp only [scanExponent] at h
      split at h
      · exact ⟨false, _, .plus _, h⟩
      · exact ⟨true, _, .minus _, h⟩
      · exact ⟨false, _, .absent _, h⟩
    obtain ⟨negative, mid, hsign, hread⟩ := hread
    obtain ⟨ds, rfl, hne, hds⟩ := scanExponentDigits_eq_some_iff.1 hread
    exact ⟨negative, mid, ds, rfl, hsign, hne, hds⟩
  · rintro ⟨negative, mid, ds, rfl, hsign, hne, hds⟩
    have hscan := scanExponentDigits_eq_some_iff.2 ⟨ds, @rfl _ (some (negative, ds)), hne, hds⟩
    cases hsign with
    | plus => exact hscan
    | minus => exact hscan
    | absent =>
        -- Without a sign the digits come first, and no digit is taken for a sign.
        simp only [scanExponent]
        split
        · exact absurd rfl (hds.head?_ne hne (c := '+') (by decide))
        · exact absurd rfl (hds.head?_ne hne (c := '-') (by decide))
        · exact hscan

theorem scanExponent_eq_some_iff {exponent : Option (Bool × List Char)} {source rest : Source} :
    scanExponent source = some (exponent, rest) ↔ Exponent exponent source rest := by
  constructor
  · intro h
    by_cases hletter : ∃ letter tail, source = some letter :: tail ∧ (letter = 'e' ∨ letter = 'E')
    · obtain ⟨letter, tail, rfl, hletter⟩ := hletter
      obtain ⟨negative, mid, ds, rfl, hsign, hne, hds⟩ := (scanExponent_letter_iff hletter).1 h
      exact .written hletter hsign hne hds
    · have hhead {letter : Char} (hletter' : letter = 'e' ∨ letter = 'E') : source.head? ≠ some (some letter) := by
        intro hhead
        obtain ⟨tail, rfl⟩ := List.head?_eq_some_iff.1 hhead
        exact hletter ⟨letter, tail, rfl, hletter'⟩
      unfold scanExponent at h
      split at h
      · exact absurd rfl (hhead (.inl rfl))
      · exact absurd rfl (hhead (.inr rfl))
      · cases h
        exact .absent (hhead (.inl rfl)) (hhead (.inr rfl))
  · intro h
    cases h with
    | absent hlower hupper =>
        unfold scanExponent
        split
        · exact absurd rfl hlower
        · exact absurd rfl hupper
        · rfl
    | written hletter hsign hne hds => exact (scanExponent_letter_iff hletter).2 ⟨_, _, _, rfl, hsign, hne, hds⟩

/-- How a number is written after its sign. A zero does not lead other digits. -/
structure Numeral.Unsigned (n : Numeral) (source rest : Source) : Prop where
  whole_ne : n.whole ≠ []
  no_leading_zero : n.whole.head? = some '0' → n.whole.length = 1
  parts : ∃ afterWhole afterFraction, Digits n.whole source afterWhole ∧ Fraction n.fraction afterWhole afterFraction ∧
    Exponent n.exponent afterFraction rest

theorem scanNumeral_eq_some_iff {negative : Bool} {n : Numeral} {source rest : Source} :
    scanNumeral negative source = some (n, rest) ↔ n.negative = negative ∧ n.Unsigned source rest := by
  rcases hspan : spanDigits source with ⟨whole, afterWhole⟩
  simp only [scanNumeral, hspan]
  constructor
  · intro h
    split at h
    · cases h
    · rename_i hlead
      obtain ⟨⟨fraction, afterFraction⟩, hfraction, h⟩ := Option.bind_eq_some_iff.1 h
      obtain ⟨⟨exponent, rest'⟩, hexponent, h⟩ := Option.bind_eq_some_iff.1 h
      cases h
      obtain ⟨hne, hzero⟩ : whole ≠ [] ∧ (whole.head? = some '0' → whole.length = 1) := by simpa using hlead
      exact ⟨rfl, hne, hzero, afterWhole, afterFraction, spanDigits_eq_iff.1 hspan,
        scanFraction_eq_some_iff.1 hfraction, scanExponent_eq_some_iff.1 hexponent⟩
  · rintro ⟨hnegative, hne, hzero, _, afterFraction, hwhole, hfraction, hexponent⟩
    obtain ⟨rfl, rfl⟩ := Prod.mk.inj (hspan.symm.trans (spanDigits_eq_iff.2 hwhole))
    rw [if_neg (by simpa using ⟨hne, hzero⟩), scanFraction_eq_some_iff.2 hfraction]
    simp only [bind, Option.bind, scanExponent_eq_some_iff.2 hexponent, ← hnegative]

/-! ## Tokens -/

/-- How a token is written. -/
inductive Token.Leads : Token → Source → Source → Prop
  | openArray (rest : Source) : Leads .openArray (some '[' :: rest) rest
  | closeArray (rest : Source) : Leads .closeArray (some ']' :: rest) rest
  | openObject (rest : Source) : Leads .openObject (some '\x7b' :: rest) rest
  | closeObject (rest : Source) : Leads .closeObject (some '\x7d' :: rest) rest
  | comma (rest : Source) : Leads .comma (some ',' :: rest) rest
  | colon (rest : Source) : Leads .colon (some ':' :: rest) rest
  | null (rest : Source) : Leads .null (['n', 'u', 'l', 'l'].map some ++ rest) rest
  | trueWord (rest : Source) : Leads (.boolean true) (['t', 'r', 'u', 'e'].map some ++ rest) rest
  | falseWord (rest : Source) : Leads (.boolean false) (['f', 'a', 'l', 's', 'e'].map some ++ rest) rest
  | text {pieces : List Piece} {source rest : Source} (h : Quoted pieces source rest) :
      Leads (.ofPieces pieces) (some '"' :: source) rest
  | negative {n : Numeral} {source rest : Source} (hsign : n.negative = true) (h : n.Unsigned source rest) :
      Leads (.number n) (some '-' :: source) rest
  | positive {n : Numeral} {source rest : Source} (hsign : n.negative = false) (h : n.Unsigned source rest) :
      Leads (.number n) source rest

/-- How a token is written after white space. -/
def Token.Follows (t : Token) (source rest : Source) : Prop :=
  ∃ (space : List Char) (lead : Source),
    source = space.map some ++ lead ∧ (∀ c ∈ space, isSpace c = true) ∧ t.Leads lead rest

theorem after?_eq_some_iff {cs : List Char} {source rest : Source} :
    after? cs source = some rest ↔ source = cs.map some ++ rest := by
  fun_induction after? cs source with
  | case1 => simp
  | case2 c cs source ih => simp [ih]
  | case3 c cs d source hne => simp [Ne.symm hne]
  | case4 c cs source hnone =>
      constructor
      · intro h
        cases h
      · rintro rfl
        exact (hnone _ _ rfl).elim

theorem Numeral.Unsigned.head {n : Numeral} {source rest : Source} (h : n.Unsigned source rest) :
    ∃ c tail, source = some c :: tail ∧ c.isDigit = true := by
  obtain ⟨afterWhole, _, hwhole, _⟩ := h.parts
  obtain ⟨d, ds, hds⟩ := List.exists_cons_of_ne_nil h.whole_ne
  rw [hds] at hwhole
  exact ⟨d, _, hwhole.source_eq, hwhole.digits d (.head _)⟩

theorem Token.leads_of_start {t : Token} {c : Char} {source rest : Source}
    (h : Token.start c source = some (t, rest)) : t.Leads (some c :: source) rest := by
  unfold Token.start at h
  split at h
  case h_7 =>
    obtain ⟨⟨pieces, rest'⟩, hscan, h⟩ := Option.map_eq_some_iff.1 h
    cases h
    exact .text (scanText_eq_some_iff.1 hscan)
  case h_8 =>
    obtain ⟨⟨n, rest'⟩, hscan, h⟩ := Option.map_eq_some_iff.1 h
    cases h
    obtain ⟨hsign, hn⟩ := scanNumeral_eq_some_iff.1 hscan
    exact .negative hsign hn
  case h_12 =>
    split at h
    · obtain ⟨⟨n, rest'⟩, hscan, h⟩ := Option.map_eq_some_iff.1 h
      cases h
      obtain ⟨hsign, hn⟩ := scanNumeral_eq_some_iff.1 hscan
      exact .positive hsign hn
    · cases h
  case h_9 | h_10 | h_11 =>
    obtain ⟨rest', hafter, h⟩ := Option.map_eq_some_iff.1 h
    cases h
    rw [after?_eq_some_iff.1 hafter]
    constructor
  all_goals
    cases h
    constructor

/-- A token begins with a character, and that is none of white space. -/
theorem Token.start_of_leads {t : Token} {source rest : Source} (h : t.Leads source rest) :
    ∃ c tail, source = some c :: tail ∧ isSpace c = false ∧ Token.start c tail = some (t, rest) := by
  cases h with
  | openArray => exact ⟨_, _, rfl, by decide, rfl⟩
  | closeArray => exact ⟨_, _, rfl, by decide, rfl⟩
  | openObject => exact ⟨_, _, rfl, by decide, rfl⟩
  | closeObject => exact ⟨_, _, rfl, by decide, rfl⟩
  | comma => exact ⟨_, _, rfl, by decide, rfl⟩
  | colon => exact ⟨_, _, rfl, by decide, rfl⟩
  | null => exact ⟨_, _, rfl, by decide, rfl⟩
  | trueWord => exact ⟨_, _, rfl, by decide, rfl⟩
  | falseWord => exact ⟨_, _, rfl, by decide, rfl⟩
  | text h => exact ⟨_, _, rfl, by decide, by simp [Token.start, scanText_eq_some_iff.2 h]⟩
  | negative hsign h =>
      exact ⟨_, _, rfl, by decide, by simp [Token.start, scanNumeral_eq_some_iff.2 ⟨hsign, h⟩]⟩
  | positive hsign h =>
      obtain ⟨c, tail, rfl, hc⟩ := h.head
      refine ⟨c, tail, rfl, isSpace_of_isDigit hc, ?_⟩
      rw [Token.start_digit hc, scanNumeral_eq_some_iff.2 ⟨hsign, h⟩]
      rfl

theorem skipSpace_append {space : List Char} {source : Source} (h : ∀ c ∈ space, isSpace c = true) :
    skipSpace (space.map some ++ source) = skipSpace source := by
  induction space with
  | nil => rfl
  | cons c space ih =>
      obtain ⟨hc, hspace⟩ := List.forall_mem_cons.1 h
      simp [skipSpace, hc, ih hspace]

/-- What is skipped is white space. -/
theorem exists_of_skipSpace (source : Source) : ∃ space : List Char,
    source = space.map some ++ skipSpace source ∧ ∀ c ∈ space, isSpace c = true := by
  fun_induction skipSpace source with
  | case1 c rest hc ih =>
      obtain ⟨space, hsource, hspace⟩ := ih
      exact ⟨c :: space, congrArg (some c :: ·) hsource, List.forall_mem_cons.2 ⟨hc, hspace⟩⟩
  | case2 => exact ⟨[], rfl, List.forall_mem_nil _⟩
  | case3 => exact ⟨[], rfl, List.forall_mem_nil _⟩

/-- The tokens found are those that are written, but for what is no token. -/
theorem Token.next_eq_some_iff {t : Token} (ht : t ≠ .bad) {source rest : Source} :
    Token.next source = some (t, rest) ↔ t.Follows source rest := by
  constructor
  · intro h
    obtain ⟨space, hsource, hspace⟩ := exists_of_skipSpace source
    refine ⟨space, _, hsource, hspace, ?_⟩
    unfold Token.next at h
    split at h
    · cases h
    · cases h
      exact absurd rfl ht
    · rename_i c tail hskip
      rw [hskip]
      cases hstart : Token.start c tail with
      | none =>
          rw [hstart] at h
          cases h
          exact absurd rfl ht
      | some found =>
          rw [hstart] at h
          cases h
          exact Token.leads_of_start hstart
  · rintro ⟨space, lead, rfl, hspace, hlead⟩
    obtain ⟨c, tail, rfl, hc, hstart⟩ := Token.start_of_leads hlead
    have hskip : skipSpace (space.map some ++ some c :: tail) = some c :: tail := by
      rw [skipSpace_append hspace]
      simp [skipSpace, hc]
    simp [Token.next, hskip, hstart]

theorem Token.ofPieces_ne_bad (pieces : List Piece) : Token.ofPieces pieces ≠ .bad := by
  unfold Token.ofPieces
  split <;> nofun

theorem Token.Follows.ne_bad {t : Token} {source rest : Source} (h : t.Follows source rest) : t ≠ .bad := by
  obtain ⟨_, _, _, _, hlead⟩ := h
  cases hlead with
  | text _ => exact Token.ofPieces_ne_bad _
  | _ => nofun

theorem Token.next_of_follows {t : Token} {source rest : Source} (h : t.Follows source rest) :
    Token.next source = some (t, rest) :=
  (Token.next_eq_some_iff h.ne_bad).2 h

end TokenAuthority.Json
