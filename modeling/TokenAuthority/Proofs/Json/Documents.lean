import TokenAuthority.Json.Decoding
import TokenAuthority.Json.Document

/-!
# Written documents read back

Reading the characters of a document gives the value of that document and stops right after it. Main statement:
`Value.read_chars`; a decoder of a whole text sees exactly the value of the document that was written.
-/

namespace TokenAuthority.Json

/-- The source of some characters. -/
abbrev Source.ofChars (cs : List Char) : Source := cs.map some

/-! ## Quoted texts -/

/-- The piece that an escaped character is scanned as: control characters without a short escape are units. -/
def Piece.ofChar (c : Char) : Piece :=
  if (escape c).length ≤ 2 then .char c else .unit c.toNat

/-- The digits of a code point below 32 make up the unit of that code point. -/
theorem unit?_hexDigits : ∀ n : Fin 32,
    ∃ a b c d, Text.hexDigits 4 n.val = [a, b, c, d] ∧ unit? (some a) (some b) (some c) (some d) = some n.val := by
  intro n
  refine ⟨_, _, _, _, rfl, ?_⟩
  revert n
  decide

/-- A character is escaped by one letter, or as a unit if it is a control character, or stands for itself. -/
theorem escape_cases (c : Char) :
    (∃ e, escape c = ['\\', e] ∧ e ≠ 'u' ∧ shortEscape? e = some c) ∨
    (c.toNat < 0x20 ∧ escape c = '\\' :: 'u' :: Text.hexDigits 4 c.toNat) ∨
    (c ≠ '"' ∧ c ≠ '\\' ∧ 0x20 ≤ c.toNat ∧ escape c = [c]) := by
  by_cases hshort : c = '"' ∨ c = '\\' ∨ c = '\x08' ∨ c = '\x0c' ∨ c = '\n' ∨ c = '\r' ∨ c = '\t'
  · rcases hshort with rfl | rfl | rfl | rfl | rfl | rfl | rfl
    all_goals exact .inl ⟨_, rfl, by decide, rfl⟩
  · simp only [not_or] at hshort
    obtain ⟨hquote, hslash, hb, hf, hn, hr, ht⟩ := hshort
    by_cases hcontrol : c.toNat < 0x20
    · exact .inr (.inl ⟨hcontrol, by simp [escape, hquote, hslash, hb, hf, hn, hr, ht, hcontrol]⟩)
    · exact .inr (.inr ⟨hquote, hslash, by omega,
        by simp [escape, hquote, hslash, hb, hf, hn, hr, ht, hcontrol]⟩)

theorem scanText_escape (found : List Piece) (c : Char) (rest : Source) :
    scanText found (Source.ofChars (escape c) ++ rest) = scanText (Piece.ofChar c :: found) rest := by
  rcases escape_cases c with ⟨e, hesc, hu, he⟩ | ⟨hcontrol, hesc⟩ | ⟨hquote, hslash, hlarge, hesc⟩
  · simp [Piece.ofChar, hesc, scanText, hu, he]
  · obtain ⟨w, x, y, z, hdigits, hunit⟩ := unit?_hexDigits ⟨c.toNat, hcontrol⟩
    simp [Piece.ofChar, hesc, hdigits, scanText, hunit]
  · have hpiece : Piece.ofChar c = .char c := by simp [Piece.ofChar, hesc]
    have hplain : ¬ (c = '\\' ∨ c.toNat < 0x20) := by
      rintro (h | h)
      · exact hslash h
      · omega
    have hsource : Source.ofChars [c] ++ rest = some c :: rest := rfl
    rw [hesc, hpiece, hsource, scanText.eq_def]
    split
    case h_6 => simp_all only [List.cons.injEq, Option.some.injEq, if_false]
    all_goals simp_all

theorem scanText_escapes (found : List Piece) (cs : List Char) (rest : Source) :
    scanText found (Source.ofChars (cs.flatMap escape ++ ['"']) ++ rest) =
      some (found.reverse ++ cs.map Piece.ofChar, rest) := by
  induction cs generalizing found with
  | nil => simp [scanText]
  | cons c cs ih =>
      have hcons : Source.ofChars ((c :: cs).flatMap escape ++ ['"']) ++ rest =
          Source.ofChars (escape c) ++ (Source.ofChars (cs.flatMap escape ++ ['"']) ++ rest) := by simp
      rw [hcons, scanText_escape, ih]
      simp

/-- A piece that is written for a character holds it, or is a unit outside of the surrogates. -/
theorem Piece.ofChar_cases (c : Char) : Piece.ofChar c = .char c ∨
    (Piece.ofChar c = .unit c.toNat ∧ Piece.isHigh c.toNat = false ∧ Piece.isLow c.toNat = false) := by
  rcases escape_cases c with ⟨e, hesc, _⟩ | ⟨hcontrol, hesc⟩ | ⟨_, _, _, hesc⟩
  · exact .inl (by simp [Piece.ofChar, hesc])
  · have hhigh : Piece.isHigh c.toNat = false := by simp [Piece.isHigh]; omega
    have hlow : Piece.isLow c.toNat = false := by simp [Piece.isLow]; omega
    exact .inr ⟨by simp [Piece.ofChar, hesc, Text.hexDigits], hhigh, hlow⟩
  · exact .inl (by simp [Piece.ofChar, hesc])

theorem joinOnto_ofChar (found : List Char) (c : Char) (pieces : List Piece) :
    Piece.joinOnto found (Piece.ofChar c :: pieces) = Piece.joinOnto (c :: found) pieces := by
  rcases Piece.ofChar_cases c with hpiece | ⟨hpiece, hhigh, hlow⟩
  · rw [hpiece, Piece.joinOnto]
  · rw [hpiece, Piece.joinOnto.eq_def]
    simp [hhigh, hlow, Char.ofNat_toNat]

theorem joinOnto_map_ofChar (found cs : List Char) :
    Piece.joinOnto found (cs.map Piece.ofChar) = some (found.reverse ++ cs) := by
  induction cs generalizing found with
  | nil => simp [Piece.joinOnto]
  | cons c cs ih => rw [List.map_cons, joinOnto_ofChar, ih]; simp

theorem join_map_ofChar (s : String) : Piece.join (s.toList.map Piece.ofChar) = some s := by
  simp [Piece.join, joinOnto_map_ofChar]

/-- What is written for characters is never torn. -/
theorem areTorn_map_ofChar (cs : List Char) : Piece.areTorn (cs.map Piece.ofChar) = false := by
  induction cs with
  | nil => rfl
  | cons c cs ih =>
      rw [List.map_cons]
      rcases Piece.ofChar_cases c with hpiece | ⟨hpiece, hhigh, hlow⟩
      · rw [hpiece, Piece.areTorn, ih]
        nofun
      · rw [hpiece, Piece.areTorn.eq_def]
        simp [hhigh, hlow, ih]

theorem Token.ofPieces_map_ofChar (s : String) : Token.ofPieces (s.toList.map Piece.ofChar) = .text (some s) := by
  rw [Token.ofPieces, areTorn_map_ofChar, join_map_ofChar, if_neg Bool.false_ne_true]

/-! ## Numbers -/

/-- Whether a source cannot carry on a number that stands before it. -/
def Source.EndsNumber (rest : Source) : Prop :=
  ∀ c, rest.head? = some (some c) → c.isDigit = false ∧ c ≠ '.' ∧ c ≠ 'e' ∧ c ≠ 'E'

theorem Source.endsNumber_cons {c : Char} {rest : Source}
    (h : c.isDigit = false ∧ c ≠ '.' ∧ c ≠ 'e' ∧ c ≠ 'E') : Source.EndsNumber (some c :: rest) := by
  intro d hd
  cases hd
  exact h

theorem Source.endsNumber_nil : Source.EndsNumber [] := by
  intro c hc
  cases hc

theorem spanDigits_append {ds : List Char} {rest : Source} (hds : ∀ d ∈ ds, d.isDigit = true)
    (hrest : rest.EndsNumber) : spanDigits (Source.ofChars ds ++ rest) = (ds, rest) := by
  induction ds with
  | nil =>
      cases rest with
      | nil => rfl
      | cons o rest =>
          cases o with
          | none => rfl
          | some c => simp [spanDigits, (hrest c rfl).1]
  | cons d ds ih =>
      have hd := hds d (by simp)
      have hrec := ih fun e he => hds e (by simp [he])
      simp [spanDigits, hd, hrec]

theorem scanFraction_of_endsNumber {rest : Source} (h : rest.EndsNumber) :
    scanFraction rest = some (none, rest) := by
  unfold scanFraction
  split
  · exact absurd rfl (h '.' rfl).2.1
  · rfl

theorem scanExponent_of_endsNumber {rest : Source} (h : rest.EndsNumber) :
    scanExponent rest = some (none, rest) := by
  unfold scanExponent
  split
  · exact absurd rfl (h 'e' rfl).2.2.1
  · exact absurd rfl (h 'E' rfl).2.2.2
  · rfl

/-- Only zero is written with a leading zero. -/
theorem head?_toDigits_ne_zero {n : Nat} (hn : n ≠ 0) : (Nat.toDigits 10 n).head? ≠ some '0' := by
  induction n using Nat.strongRecOn with
  | ind n ih =>
      by_cases hsmall : n < 10
      · rw [Nat.toDigits_of_lt_base hsmall]
        have : ∀ m : Fin 10, m.val ≠ 0 → Nat.digitChar m.val ≠ '0' := by decide
        simpa using this ⟨n, hsmall⟩ hn
      · have hlead := ih (n / 10) (by omega) (by omega)
        rw [Nat.toDigits_of_base_le (by decide) (by omega), List.head?_append]
        cases hhead : (Nat.toDigits 10 (n / 10)).head? with
        | none => exact absurd (List.head?_eq_none_iff.mp hhead) Nat.toDigits_ne_nil
        | some c => rwa [hhead] at hlead

theorem scanNumeral_toDigits (negative : Bool) (n : Nat) {rest : Source} (hrest : rest.EndsNumber) :
    scanNumeral negative (Source.ofChars (Nat.toDigits 10 n) ++ rest) =
      some (⟨negative, Nat.toDigits 10 n, none, none⟩, rest) := by
  have hdigits : ∀ d ∈ Nat.toDigits 10 n, d.isDigit = true := fun d hd =>
    Nat.isDigit_of_mem_toDigits (by decide) (by decide) hd
  have hlead : ((Nat.toDigits 10 n).isEmpty || ((Nat.toDigits 10 n).head? == some '0' &&
      (Nat.toDigits 10 n).length != 1)) = false := by
    by_cases hn : n = 0
    · subst hn; decide
    · simp [Nat.toDigits_ne_nil, head?_toDigits_ne_zero hn]
  simp only [scanNumeral, spanDigits_append hdigits hrest, hlead]
  simp [scanFraction_of_endsNumber hrest, scanExponent_of_endsNumber hrest]

/-! ## Tokens -/

/-- A token is found at its first character, if that is no white space. -/
theorem Token.next_of_start {c : Char} {source rest : Source} {t : Token} (hc : isSpace c = false)
    (h : Token.start c source = some (t, rest)) : Token.next (some c :: source) = some (t, rest) := by
  have hskip : skipSpace (some c :: source) = some c :: source := by simp [skipSpace, hc]
  simp only [Token.next, hskip, h, Option.getD_some]

theorem Token.next_quoted (s : String) (rest : Source) :
    Token.next (Source.ofChars (quoted s) ++ rest) = some (.text (some s), rest) := by
  have hscan := scanText_escapes [] s.toList rest
  have hstart : Token.start '"' (Source.ofChars (s.toList.flatMap escape ++ ['"']) ++ rest) =
      some (.text (some s), rest) := by
    simp only [Token.start, hscan, List.reverse_nil, List.nil_append, Option.map_some, Token.ofPieces_map_ofChar]
  exact Token.next_of_start (by decide) hstart

theorem Token.start_digit {c : Char} (hc : c.isDigit = true) (rest : Source) :
    Token.start c rest = (scanNumeral false (some c :: rest)).map fun (n, rest) => (.number n, rest) := by
  unfold Token.start
  split
  case h_12 => rw [if_pos hc]
  all_goals exact absurd hc (by decide)

theorem isSpace_of_isDigit {c : Char} (hc : c.isDigit = true) : isSpace c = false := by
  refine Bool.eq_false_iff.mpr fun hspace => ?_
  simp only [isSpace, Bool.or_eq_true, beq_iff_eq] at hspace
  rcases hspace with ((rfl | rfl) | rfl) | rfl
  all_goals exact absurd hc (by decide)

theorem Token.next_integer (n : Int) {rest : Source} (hrest : rest.EndsNumber) :
    Token.next (Source.ofChars (integerChars n) ++ rest) = some (.number (.ofInt n), rest) := by
  by_cases hn : n < 0
  · have hchars : Source.ofChars (integerChars n) ++ rest =
        some '-' :: (Source.ofChars (Nat.toDigits 10 n.natAbs) ++ rest) := by
      simp [integerChars, hn]
    have hstart : Token.start '-' (Source.ofChars (Nat.toDigits 10 n.natAbs) ++ rest) =
        some (.number (.ofInt n), rest) := by
      simp [Token.start, scanNumeral_toDigits true n.natAbs hrest, Numeral.ofInt, hn]
    rw [hchars]
    exact Token.next_of_start (by decide) hstart
  · have hscan := scanNumeral_toDigits false n.natAbs hrest
    cases hdigits : Nat.toDigits 10 n.natAbs with
    | nil => exact absurd hdigits Nat.toDigits_ne_nil
    | cons d ds =>
        have hd : d.isDigit = true :=
          Nat.isDigit_of_mem_toDigits (by decide) (by decide) (hdigits ▸ List.mem_cons_self)
        have hchars : Source.ofChars (integerChars n) ++ rest = some d :: (Source.ofChars ds ++ rest) := by
          simp [integerChars, hn, hdigits]
        rw [hdigits] at hscan
        change scanNumeral false (some d :: (Source.ofChars ds ++ rest)) = _ at hscan
        have hstart : Token.start d (Source.ofChars ds ++ rest) = some (.number (.ofInt n), rest) := by
          rw [Token.start_digit hd, hscan]
          simp [Numeral.ofInt, hn, hdigits]
        rw [hchars]
        exact Token.next_of_start (isSpace_of_isDigit hd) hstart

/-! ## The reader -/

namespace Reader

/-- What reading gives after a step, with the source that is left. -/
def Step.resume (source : Source) : Step → Value × Source
  | .go stack expected => run stack expected source
  | .done value => (value, source)

theorem run_of_next {stack : List Frame} {expected : Expected} {source rest : Source} {t : Token}
    (h : Token.next source = some (t, rest)) : run stack expected source = (step stack expected t).resume rest := by
  rw [run.eq_def]
  split
  · rename_i hnone
    rw [h] at hnone
    cases hnone
  · rename_i hsome
    rw [h] at hsome
    cases hsome
    cases step stack expected t <;> rfl

/-- A mark of punctuation is read whatever follows it. -/
theorem run_mark (c : Char) {t : Token} (hc : isSpace c = false)
    (h : ∀ source, Token.start c source = some (t, source)) (stack : List Frame) (expected : Expected)
    (source : Source) : run stack expected (some c :: source) = (step stack expected t).resume source :=
  run_of_next (Token.next_of_start hc (h source))

/-- What begins with a token other than the end of an array is read as the first item of one. -/
theorem run_item {stack : List Frame} {source rest : Source} {t : Token} (h : Token.next source = some (t, rest))
    (ht : t ≠ .closeArray) : run stack .item source = run (.array [] :: stack) .value source := by
  rw [run_of_next h, run_of_next h]
  cases t <;> first | rfl | exact absurd rfl ht

theorem run_key (stack : List Frame) (read : List (Key × Value)) (first : Bool) (name : String) (source : Source) :
    run stack (.key read first) (Source.ofChars (quoted name) ++ some ':' :: source) =
      run (.object read (.name name) :: stack) .value source := by
  rw [run_of_next (Token.next_quoted name _)]
  exact run_mark ':' (by decide) (fun _ => rfl) stack (.colon read (.name name)) source

theorem itemChars_endsNumber (items : List Document) (rest : Source) :
    Source.EndsNumber (Source.ofChars (Document.itemChars items) ++ rest) := by
  cases items <;> exact Source.endsNumber_cons (by decide)

theorem fieldChars_endsNumber (fields : List (String × Document)) (rest : Source) :
    Source.EndsNumber (Source.ofChars (Document.fieldChars fields) ++ rest) := by
  cases fields <;> exact Source.endsNumber_cons (by decide)

/-- No document begins with the end of an array. -/
theorem exists_next_chars (d : Document) {rest : Source} (hrest : rest.EndsNumber) :
    ∃ t source, Token.next (Source.ofChars d.chars ++ rest) = some (t, source) ∧ t ≠ .closeArray := by
  cases d with
  | null => exact ⟨_, _, Token.next_of_start (c := 'n') (by decide) rfl, by simp⟩
  | boolean b =>
      cases b with
      | true => exact ⟨_, _, Token.next_of_start (c := 't') (by decide) rfl, by simp⟩
      | false => exact ⟨_, _, Token.next_of_start (c := 'f') (by decide) rfl, by simp⟩
  | integer n => exact ⟨_, _, Token.next_integer n hrest, by simp⟩
  | text s => exact ⟨_, _, Token.next_quoted s rest, by simp⟩
  | array items => cases items <;> exact ⟨_, _, Token.next_of_start (c := '[') (by decide) rfl, by simp⟩
  | object fields => cases fields <;> exact ⟨_, _, Token.next_of_start (c := '\x7b') (by decide) rfl, by simp⟩

mutual

/-- Reading the characters of a document finishes its value. Only an integer depends on what follows it. -/
theorem run_chars (stack : List Frame) {rest : Source} (hrest : rest.EndsNumber) :
    (d : Document) → run stack .value (Source.ofChars d.chars ++ rest) = (finish d.toValue stack).resume rest
  | .null => by
      have hnext : Token.next (Source.ofChars Document.null.chars ++ rest) = some (.null, rest) :=
        Token.next_of_start (c := 'n') (by decide) rfl
      exact run_of_next hnext
  | .boolean b => by
      have hnext : Token.next (Source.ofChars (Document.boolean b).chars ++ rest) = some (.boolean b, rest) := by
        cases b with
        | true => exact Token.next_of_start (c := 't') (by decide) rfl
        | false => exact Token.next_of_start (c := 'f') (by decide) rfl
      exact run_of_next hnext
  | .integer n => run_of_next (Token.next_integer n hrest)
  | .text s => run_of_next (Token.next_quoted s rest)
  | .array [] => by
      rw [show Source.ofChars (Document.array []).chars ++ rest = some '[' :: some ']' :: rest from rfl,
        run_mark '[' (by decide) (fun _ => rfl)]
      exact run_mark ']' (by decide) (fun _ => rfl) stack .item rest
  | .array (item :: items) => by
      obtain ⟨t, source, hnext, ht⟩ := exists_next_chars item (itemChars_endsNumber items rest)
      have hitem := run_chars (.array [] :: stack) (itemChars_endsNumber items rest) item
      have hitems := run_itemChars stack [item.toValue] rest items
      have hsource : Source.ofChars (Document.array (item :: items)).chars ++ rest = some '[' ::
          (Source.ofChars item.chars ++ (Source.ofChars (Document.itemChars items) ++ rest)) := by
        simp [Document.chars]
      rw [hsource, run_mark '[' (by decide) (fun _ => rfl)]
      -- After the bracket the array may end at once, but no item begins with its end.
      exact (run_item hnext ht).trans (hitem.trans hitems)
  | .object [] => by
      rw [show Source.ofChars (Document.object []).chars ++ rest = some '\x7b' :: some '\x7d' :: rest from rfl,
        run_mark '\x7b' (by decide) (fun _ => rfl)]
      exact run_mark '\x7d' (by decide) (fun _ => rfl) stack (.key [] true) rest
  | .object ((name, value) :: fields) => by
      have hvalue := run_chars (.object [] (.name name) :: stack) (fieldChars_endsNumber fields rest) value
      have hfields := run_fieldChars stack [(.name name, value.toValue)] rest fields
      have hsource : Source.ofChars (Document.object ((name, value) :: fields)).chars ++ rest = some '\x7b' ::
          (Source.ofChars (quoted name) ++ some ':' ::
            (Source.ofChars value.chars ++ (Source.ofChars (Document.fieldChars fields) ++ rest))) := by
        simp [Document.chars]
      rw [hsource, run_mark '\x7b' (by decide) (fun _ => rfl)]
      exact (run_key stack [] true name _).trans (hvalue.trans hfields)

theorem run_itemChars (stack : List Frame) (read : List Value) (rest : Source) :
    (items : List Document) → run stack (.moreItems read) (Source.ofChars (Document.itemChars items) ++ rest) =
      (finish (.array (read.reverse ++ Document.itemValues items) true) stack).resume rest
  | [] => by
      rw [Document.itemValues, List.append_nil]
      exact run_mark ']' (by decide) (fun _ => rfl) stack (.moreItems read) rest
  | item :: items => by
      have hitem := run_chars (.array read :: stack) (itemChars_endsNumber items rest) item
      have hitems := run_itemChars stack (item.toValue :: read) rest items
      have hsource : Source.ofChars (Document.itemChars (item :: items)) ++ rest = some ',' ::
          (Source.ofChars item.chars ++ (Source.ofChars (Document.itemChars items) ++ rest)) := by
        simp [Document.itemChars]
      rw [hsource, run_mark ',' (by decide) (fun _ => rfl)]
      rw [List.reverse_cons, List.append_assoc] at hitems
      exact hitem.trans hitems

theorem run_fieldChars (stack : List Frame) (read : List (Key × Value)) (rest : Source) :
    (fields : List (String × Document)) →
    run stack (.moreFields read) (Source.ofChars (Document.fieldChars fields) ++ rest) =
      (finish (.object (read.reverse ++ Document.fieldValues fields) true) stack).resume rest
  | [] => by
      rw [Document.fieldValues, List.append_nil]
      exact run_mark '\x7d' (by decide) (fun _ => rfl) stack (.moreFields read) rest
  | (name, value) :: fields => by
      have hvalue := run_chars (.object read (.name name) :: stack) (fieldChars_endsNumber fields rest) value
      have hfields := run_fieldChars stack ((.name name, value.toValue) :: read) rest fields
      have hsource : Source.ofChars (Document.fieldChars ((name, value) :: fields)) ++ rest = some ',' ::
          (Source.ofChars (quoted name) ++ some ':' ::
            (Source.ofChars value.chars ++ (Source.ofChars (Document.fieldChars fields) ++ rest))) := by
        simp [Document.fieldChars]
      rw [hsource, run_mark ',' (by decide) (fun _ => rfl)]
      rw [List.reverse_cons, List.append_assoc] at hfields
      exact (run_key stack read false name _).trans (hvalue.trans hfields)

end

end Reader

/-! ## Whole texts -/

theorem Document.fieldValues_eq_map (fields : List (String × Document)) :
    fieldValues fields = fields.map fun field => (.name field.1, field.2.toValue) := by
  induction fields with
  | nil => rfl
  | cons field fields ih =>
      obtain ⟨name, value⟩ := field
      rw [fieldValues, ih, List.map_cons]

/-- A document reads back as its value, up to its end. -/
theorem Value.read_chars (d : Document) : Value.read (Source.ofChars d.chars) = (d.toValue, []) := by
  have h := Reader.run_chars [] Source.endsNumber_nil d
  rw [List.append_nil] at h
  exact h

theorem decodeWhole_chars {α : Type} (decode : Decoder α) (d : Document) :
    decodeWhole decode (Source.ofChars d.chars) = decode d.toValue := by
  rw [decodeWhole, Value.read_chars]
  cases hvalue : decode d.toValue <;> simp [hvalue, bind, Except.bind, skipSpace]

end TokenAuthority.Json
