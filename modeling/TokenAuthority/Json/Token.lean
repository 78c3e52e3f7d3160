import TokenAuthority.Json.Numeral
import TokenAuthority.Text.Hexadecimal

/-!
# JSON tokens

The lexical elements of a JSON text. A text is read from characters among which bytes that begin no character
stand as `none`; these, and surrogate escapes without their partner, may stand inside a quoted text only, and
leave it without a value. A reader that wants the value stands behind the closing quote when it notices, but
for an escape without partner before the end, at which it stops. The first character that fits nowhere becomes
the last token.
-/

namespace TokenAuthority.Json

/-- The characters of a text to be read; `none` is a byte that begins no character. -/
abbrev Source := List (Option Char)

/-- The source of a text. -/
def Source.ofString (s : String) : Source :=
  s.toList.map some

/-- A lexical element. -/
inductive Token
  | openArray
  | closeArray
  | openObject
  | closeObject
  | comma
  | colon
  | null
  | boolean (value : Bool)
  | number (value : Numeral)
  /-- A quoted text, without value when it holds a stray byte or ends in the first half of a surrogate pair. -/
  | text (value : Option String)
  /-- A quoted text in which a surrogate escape stands without its partner before the end. -/
  | torn
  /-- Something that is no element. -/
  | bad
  deriving DecidableEq, Repr

/-! ## Quoted texts -/

/-- One element inside quotes. -/
inductive Piece
  | char (c : Char)
  /-- A 16-bit unit written as an escape of four digits. -/
  | unit (n : Nat)
  /-- A byte that begins no character. -/
  | stray
  deriving DecidableEq, Repr

namespace Piece

/-- Whether a unit is the first half of a surrogate pair. -/
def isHigh (n : Nat) : Bool := 0xD800 ≤ n && n < 0xDC00

/-- Whether a unit is the second half of a surrogate pair. -/
def isLow (n : Nat) : Bool := 0xDC00 ≤ n && n < 0xE000

/-- Joins pieces to characters after those already `found`, which are listed last first. -/
def joinOnto (found : List Char) : List Piece → Option (List Char)
  | [] => some found.reverse
  | .char c :: rest => joinOnto (c :: found) rest
  | .stray :: _ => none
  | .unit n :: rest =>
      if isHigh n then
        match rest with
        | .unit m :: rest =>
            if isLow m then joinOnto (Char.ofNat (0x10000 + (n - 0xD800) * 0x400 + (m - 0xDC00)) :: found) rest
            else none
        | _ => none
      else if isLow n then none
      else joinOnto (Char.ofNat n :: found) rest

/-- The text of some pieces, when all of them join to characters. -/
def join (pieces : List Piece) : Option String :=
  (joinOnto [] pieces).map String.ofList

/-- Whether a surrogate escape stands without its partner among some pieces. A first half at their very end does
not count: the closing quote is taken where its partner is looked for. -/
def areTorn : List Piece → Bool
  | [] => false
  | .unit n :: rest =>
      if isHigh n then
        match rest with
        | [] => false
        | .unit m :: rest => !isLow m || areTorn rest
        | _ => true
      else isLow n || areTorn rest
  | _ :: rest => areTorn rest

end Piece

/-- The character of an escape of one letter. -/
def shortEscape? (c : Char) : Option Char :=
  match c with
  | '"' => some '"'
  | '\\' => some '\\'
  | '/' => some '/'
  | 'b' => some '\x08'
  | 'f' => some '\x0c'
  | 'n' => some '\n'
  | 'r' => some '\r'
  | 't' => some '\t'
  | _ => none

/-- The unit of four hexadecimal digits. -/
def unit? (a b c d : Option Char) : Option Nat := do
  let a ← a.bind Text.hexValue?
  let b ← b.bind Text.hexValue?
  let c ← c.bind Text.hexValue?
  let d ← d.bind Text.hexValue?
  some (((a * 16 + b) * 16 + c) * 16 + d)

/-- The pieces up to the closing quote, after those already `found`, and the source after it. -/
def scanText (found : List Piece) : Source → Option (List Piece × Source)
  | [] => none
  | none :: rest => scanText (.stray :: found) rest
  | some '"' :: rest => some (found.reverse, rest)
  | some '\\' :: some 'u' :: a :: b :: c :: d :: rest =>
      match unit? a b c d with
      | some n => scanText (.unit n :: found) rest
      | none => none
  | some '\\' :: some e :: rest =>
      match shortEscape? e with
      | some c => scanText (.char c :: found) rest
      | none => none
  | some c :: rest =>
      if c = '\\' ∨ c.toNat < 0x20 then none else scanText (.char c :: found) rest

/-! ## Numbers -/

/-- The decimal digits at the head of a source and the source after them. -/
def spanDigits : Source → List Char × Source
  | some c :: rest =>
      if c.isDigit then
        let (ds, rest) := spanDigits rest
        (c :: ds, rest)
      else ([], some c :: rest)
  | rest => ([], rest)

/-- The fraction after a point, when there is a point. -/
def scanFraction : Source → Option (Option (List Char) × Source)
  | some '.' :: rest =>
      let (ds, rest) := spanDigits rest
      if ds.isEmpty then none else some (some ds, rest)
  | rest => some (none, rest)

/-- The digits of an exponent after its sign. -/
def scanExponentDigits (negative : Bool) (source : Source) : Option (Option (Bool × List Char) × Source) :=
  let (ds, rest) := spanDigits source
  if ds.isEmpty then none else some (some (negative, ds), rest)

/-- The exponent after its letter and sign, when there is one. -/
def scanExponent : Source → Option (Option (Bool × List Char) × Source)
  | some 'e' :: rest | some 'E' :: rest =>
      match rest with
      | some '+' :: rest => scanExponentDigits false rest
      | some '-' :: rest => scanExponentDigits true rest
      | rest => scanExponentDigits false rest
  | rest => some (none, rest)

/-- A number after its sign. A zero that leads other digits is no number. -/
def scanNumeral (negative : Bool) (source : Source) : Option (Numeral × Source) :=
  let (whole, rest) := spanDigits source
  if whole.isEmpty || (whole.head? == some '0' && whole.length != 1) then none
  else do
    let (fraction, rest) ← scanFraction rest
    let (exponent, rest) ← scanExponent rest
    some (⟨negative, whole, fraction, exponent⟩, rest)

/-! ## Tokens -/

/-- The source after the given characters. -/
def after? : List Char → Source → Option Source
  | [], source => some source
  | c :: cs, some d :: source => if c = d then after? cs source else none
  | _ :: _, _ => none

/-- Whether a character is white space between tokens. -/
def isSpace (c : Char) : Bool :=
  c == ' ' || c == '\t' || c == '\n' || c == '\r'

/-- The source after leading white space. -/
def skipSpace : Source → Source
  | some c :: rest => if isSpace c then skipSpace rest else some c :: rest
  | rest => rest

/-- The token of a quoted text of some pieces. -/
def Token.ofPieces (pieces : List Piece) : Token :=
  if Piece.areTorn pieces then .torn else .text (Piece.join pieces)

/-- The token that begins with a character, read from what follows that character. -/
def Token.start (c : Char) (rest : Source) : Option (Token × Source) :=
  match c with
  | '[' => some (.openArray, rest)
  | ']' => some (.closeArray, rest)
  | '\x7b' => some (.openObject, rest)
  | '\x7d' => some (.closeObject, rest)
  | ',' => some (.comma, rest)
  | ':' => some (.colon, rest)
  | '"' => (scanText [] rest).map fun (pieces, rest) => (.ofPieces pieces, rest)
  | '-' => (scanNumeral true rest).map fun (n, rest) => (.number n, rest)
  | 'n' => (after? ['u', 'l', 'l'] rest).map fun rest => (.null, rest)
  | 't' => (after? ['r', 'u', 'e'] rest).map fun rest => (.boolean true, rest)
  | 'f' => (after? ['a', 'l', 's', 'e'] rest).map fun rest => (.boolean false, rest)
  | _ =>
      if c.isDigit then (scanNumeral false (some c :: rest)).map fun (n, rest) => (.number n, rest) else none

/-- The first token after white space; none at the end of the source. -/
def Token.next (source : Source) : Option (Token × Source) :=
  match skipSpace source with
  | [] => none
  | none :: _ => some (.bad, [])
  | some c :: rest => some ((Token.start c rest).getD (.bad, []))

/-! ## Tokens take characters -/

theorem scanText_length {found : List Piece} {source rest : Source} {pieces : List Piece}
    (h : scanText found source = some (pieces, rest)) : rest.length < source.length := by
  fun_induction scanText found source with
  | case1 => simp at h
  | case2 found rest ih => have := ih h; simp; omega
  | case3 => simp at h; simp [h.2]
  | case4 _ _ _ _ _ _ _ _ ih => have := ih h; simp; omega
  | case5 => simp at h
  | case6 _ _ _ _ _ _ ih => have := ih h; simp; omega
  | case7 => simp at h
  | case8 => simp at h
  | case9 _ _ _ _ _ _ _ ih => have := ih h; simp; omega

theorem spanDigits_length (source : Source) :
    (spanDigits source).2.length + (spanDigits source).1.length = source.length := by
  fun_induction spanDigits source with
  | case1 c rest hc ds rest' hr ih => simp [hr] at ih; simp; omega
  | case2 => simp
  | case3 => simp

theorem scanFraction_length {source rest : Source} {f : Option (List Char)}
    (h : scanFraction source = some (f, rest)) : rest.length ≤ source.length := by
  unfold scanFraction at h
  split at h
  · rename_i tail
    have := spanDigits_length tail
    grind
  · grind

theorem scanExponentDigits_length {negative : Bool} {source rest : Source} {e : Option (Bool × List Char)}
    (h : scanExponentDigits negative source = some (e, rest)) : rest.length ≤ source.length := by
  have := spanDigits_length source
  grind [scanExponentDigits]

theorem scanExponent_length {source rest : Source} {e : Option (Bool × List Char)}
    (h : scanExponent source = some (e, rest)) : rest.length ≤ source.length := by
  unfold scanExponent at h
  split at h
  · split at h <;> exact Nat.le_trans (scanExponentDigits_length h) (by simp; try omega)
  · split at h <;> exact Nat.le_trans (scanExponentDigits_length h) (by simp; try omega)
  · grind

theorem scanNumeral_length {negative : Bool} {source rest : Source} {n : Numeral}
    (h : scanNumeral negative source = some (n, rest)) : rest.length < source.length := by
  have hd := spanDigits_length source
  simp only [scanNumeral] at h
  split at h
  · simp at h
  · rename_i hw
    have : (spanDigits source).1.length ≠ 0 := by
      intro h0
      simp [List.length_eq_zero_iff.1 h0] at hw
    obtain ⟨⟨f, r₁⟩, hf, h⟩ := Option.bind_eq_some_iff.1 h
    obtain ⟨⟨e, r₂⟩, he, h⟩ := Option.bind_eq_some_iff.1 h
    have : r₂.length ≤ r₁.length := scanExponent_length he
    have := scanFraction_length hf
    simp only [Option.some.injEq, Prod.mk.injEq] at h
    rw [← h.2]
    omega

theorem after?_length {cs : List Char} {source rest : Source} (h : after? cs source = some rest) :
    rest.length ≤ source.length := by
  fun_induction after? cs source with
  | case1 => grind
  | case2 c cs source ih => have := ih h; simp; omega
  | case3 => simp at h
  | case4 => simp at h

theorem skipSpace_length (source : Source) : (skipSpace source).length ≤ source.length := by
  fun_induction skipSpace source <;> grind

/-- A token takes at least one character. -/
theorem Token.next_length {source rest : Source} {t : Token} (h : Token.next source = some (t, rest)) :
    rest.length < source.length := by
  unfold Token.next at h
  have hs := skipSpace_length source
  split at h
  · simp at h
  · rename_i hk
    simp only [Option.some.injEq, Prod.mk.injEq] at h
    simp [hk] at hs
    simp [← h.2]
    omega
  · rename_i c tail hk
    simp [hk] at hs
    have hl : ∀ p, Token.start c tail = some p → p.2.length ≤ tail.length := by
      intro p hp
      unfold Token.start at hp
      split at hp
      case h_7 =>
        obtain ⟨⟨ps, r⟩, h₁, rfl⟩ := Option.map_eq_some_iff.1 hp
        exact Nat.le_of_lt (scanText_length h₁)
      case h_8 =>
        obtain ⟨⟨n, r⟩, h₁, rfl⟩ := Option.map_eq_some_iff.1 hp
        exact Nat.le_of_lt (scanNumeral_length h₁)
      case h_9 | h_10 | h_11 =>
        obtain ⟨r, h₁, rfl⟩ := Option.map_eq_some_iff.1 hp
        exact after?_length h₁
      case h_12 =>
        split at hp
        · obtain ⟨⟨n, r⟩, h₁, rfl⟩ := Option.map_eq_some_iff.1 hp
          have := scanNumeral_length h₁
          simp at this ⊢
          omega
        · simp at hp
      all_goals (simp only [Option.some.injEq] at hp; simp [← hp])
    simp only [Option.some.injEq] at h
    cases hp : Token.start c tail with
    | none =>
      simp only [hp, Option.getD_none, Prod.mk.injEq] at h
      rw [← h.2]
      exact Nat.lt_of_lt_of_le (by simp) hs
    | some p => have := hl p hp; simp [hp] at h; subst h; simp at this; omega

end TokenAuthority.Json
