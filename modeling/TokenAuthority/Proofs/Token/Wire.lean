import TokenAuthority.Proofs.Encoding.RoundTrip
import TokenAuthority.Proofs.Identity.UserIdText
import TokenAuthority.Proofs.Json.Documents
import TokenAuthority.Token.Authority

/-!
# Tokens as they are sent

The three segments of a token come apart where they were joined, and the header and the claims written into them
read back. Times lose what lies beyond their whole second. Main statements: `Segments.ofText?_eq_some_iff`,
`Authority.readHeader_issued`, `Authority.readClaims_written`.
-/

namespace TokenAuthority

/-! ## Segments -/

namespace Segments

theorem split_of_dot_notMem {cs : List Char} (h : '.' ∉ cs) : split cs = [cs] := by
  induction cs with
  | nil => rfl
  | cons c cs ih =>
      have hc : c ≠ '.' := fun hc => h (by simp [hc])
      have hcs : '.' ∉ cs := fun hcs => h (by simp [hcs])
      rw [split, if_neg hc, ih hcs]

theorem split_append_dot {cs : List Char} (h : '.' ∉ cs) (rest : List Char) :
    split (cs ++ '.' :: rest) = cs :: split rest := by
  induction cs with
  | nil => simp [split]
  | cons c cs ih =>
      have hc : c ≠ '.' := fun hc => h (by simp [hc])
      have hcs : '.' ∉ cs := fun hcs => h (by simp [hcs])
      rw [List.cons_append, split, if_neg hc, ih hcs]

theorem split_ne_nil (cs : List Char) : split cs ≠ [] := by
  cases cs with
  | nil => simp [split]
  | cons c cs =>
      unfold split
      split
      · simp
      · split <;> simp

/-- The first part ends at the first dot or at the end of the text, and the other parts are those after it. -/
theorem eq_of_split_eq_cons {cs first : List Char} {others : List (List Char)} (h : split cs = first :: others) :
    '.' ∉ first ∧ ((others = [] ∧ cs = first) ∨ ∃ rest, cs = first ++ '.' :: rest ∧ split rest = others) := by
  induction cs generalizing first with
  | nil =>
      simp only [split, List.cons.injEq] at h
      obtain ⟨rfl, rfl⟩ := h
      exact ⟨by simp, .inl ⟨rfl, rfl⟩⟩
  | cons c cs ih =>
      by_cases hc : c = '.'
      · rw [split, if_pos hc, List.cons.injEq] at h
        obtain ⟨rfl, rfl⟩ := h
        exact ⟨by simp, .inr ⟨cs, by simp [hc], rfl⟩⟩
      · cases hsplit : split cs with
        | nil => exact absurd hsplit (split_ne_nil cs)
        | cons part parts =>
            rw [split, if_neg hc, hsplit, List.cons.injEq] at h
            obtain ⟨rfl, rfl⟩ := h
            obtain ⟨hdot, hrest⟩ := ih hsplit
            refine ⟨by simp [hdot, Ne.symm hc], ?_⟩
            rcases hrest with ⟨hnil, rfl⟩ | ⟨rest, rfl, hparts⟩
            · exact .inl ⟨hnil, rfl⟩
            · exact .inr ⟨rest, rfl, hparts⟩

/-- A text is a token when it is three dot-free segments joined by dots. -/
def Compose (token : String) (s : Segments) : Prop :=
  token.toList = s.header ++ '.' :: (s.payload ++ '.' :: s.signature) ∧
    '.' ∉ s.header ∧ '.' ∉ s.payload ∧ '.' ∉ s.signature

theorem ofText?_of_compose {token : String} {s : Segments} (h : s.Compose token) : ofText? token = some s := by
  obtain ⟨htext, hheader, hpayload, hsignature⟩ := h
  rw [ofText?, htext, split_append_dot hheader, split_append_dot hpayload, split_of_dot_notMem hsignature]

theorem compose_of_ofText? {token : String} {s : Segments} (h : ofText? token = some s) : s.Compose token := by
  unfold ofText? at h
  split at h
  · rename_i header payload signature hsplit
    cases h
    obtain ⟨hheader, ⟨hnil, _⟩ | ⟨rest₁, htext, hrest₁⟩⟩ := eq_of_split_eq_cons hsplit
    · cases hnil
    obtain ⟨hpayload, ⟨hnil, _⟩ | ⟨rest₂, rfl, hrest₂⟩⟩ := eq_of_split_eq_cons hrest₁
    · cases hnil
    obtain ⟨hsignature, ⟨_, rfl⟩ | ⟨rest₃, _, hrest₃⟩⟩ := eq_of_split_eq_cons hrest₂
    · exact ⟨htext, hheader, hpayload, hsignature⟩
    · exact absurd hrest₃ (split_ne_nil rest₃)
  · cases h

/-- No other segments compose the same text. -/
theorem Compose.eq {token : String} {s s' : Segments} (h : s.Compose token) (h' : s'.Compose token) : s = s' := by
  have hsame := ofText?_of_compose h
  rw [ofText?_of_compose h'] at hsame
  exact (Option.some.inj hsame).symm

theorem ofText?_eq_some_iff {token : String} {s : Segments} : ofText? token = some s ↔ s.Compose token :=
  ⟨compose_of_ofText?, ofText?_of_compose⟩

theorem source?_ofDocument (d : Json.Document) : source? (ofDocument d) = some (Json.Source.ofChars d.chars) := by
  rw [source?, ofDocument, Base64.decode?_encode Base64.url_faithful, Option.map_some, Text.Utf8.decode_encode]

end Segments

/-! ## Headers -/

/-- The header of an issued token names the algorithm and the key it was issued with. -/
theorem TokenHeader.decoder_issued (kid : String) :
    TokenHeader.decoder (TokenHeader.issued KeyPair.algorithm kid).toValue = .ok ⟨KeyPair.algorithm, some kid⟩ := by
  rfl

/-! ## Claims -/

/-- The start of a second. -/
def Instant.atSecond (seconds : Int) (hfirst : firstSecond ≤ seconds) (hlast : seconds ≤ lastSecond) : Instant where
  seconds := seconds
  nanoseconds := 0
  first_le := hfirst
  le_last := hlast
  nanoseconds_lt := by decide
  leap_at_end := fun h => absurd h (by decide)

/-- The start of the second an instant lies in, leap seconds counting as the second before them. -/
def Instant.wholeSecond (t : Instant) : Instant := atSecond t.seconds t.first_le t.le_last

theorem Instant.ofSeconds?_seconds (t : Instant) : ofSeconds? t.seconds = some t.wholeSecond := by
  have hrep : Representable t.seconds 0 := ⟨t.first_le, t.le_last, by decide, fun h => absurd h (by decide)⟩
  simp [ofSeconds?, ofParts?, hrep, wholeSecond, atSecond]

theorem Instant.wholeSecond_of_nanoseconds {t : Instant} (h : t.nanoseconds = 0) : t.wholeSecond = t := by
  obtain ⟨seconds, nanoseconds, _, _, _, _⟩ := t
  cases h
  rfl

namespace Claims

/-- The claims as they are sent: their times are whole seconds. -/
def onWire (claims : Claims) : Claims :=
  { claims with issuedAt := claims.issuedAt.wholeSecond, expiresAt := claims.expiresAt.wholeSecond }

theorem onWire_of_nanoseconds {claims : Claims} (hissued : claims.issuedAt.nanoseconds = 0)
    (hexpires : claims.expiresAt.nanoseconds = 0) : claims.onWire = claims := by
  rw [onWire, Instant.wholeSecond_of_nanoseconds hissued, Instant.wholeSecond_of_nanoseconds hexpires]

end Claims

open Json in
theorem UserId.decoder_toDocument (id : UserId) : UserId.decoder id.toDocument.toValue = .ok id := by
  simp [UserId.decoder, UserId.toDocument, Document.toValue, Decoder.parsed, Decoder.text, bind, Except.bind,
    Except.toOption]

open Json in
theorem RoleSet.decoder_toDocument (roles : RoleSet) : RoleSet.decoder roles.toDocument.toValue = .ok roles := by
  obtain ⟨admin, user⟩ := roles
  cases admin <;> cases user <;> rfl

namespace Json

theorem Numeral.toInt?_ofInt (n : Int) : (Numeral.ofInt n).toInt? = some n := by
  have hmagnitude : Nat.ofDigitChars 10 (Nat.toDigits 10 n.natAbs) 0 = n.natAbs := Nat.ofDigitChars_ten_toDigits
  by_cases hn : n < 0
  · have hne : n.natAbs ≠ 0 := by omega
    simp only [Numeral.toInt?, Numeral.ofInt, Option.isSome_none, Bool.or_self, Bool.false_eq_true, if_false,
      hmagnitude, hn, decide_true, if_true, hne, Option.some.injEq]
    omega
  · simp only [Numeral.toInt?, Numeral.ofInt, Option.isSome_none, Bool.or_self, Bool.false_eq_true, if_false,
      hmagnitude, hn, decide_false, Option.some.injEq]
    omega

theorem Decoder.integer_ofInt {n : Int} (hlower : -(Nat.pow 2 63 : Nat) ≤ n) (hupper : n < (Nat.pow 2 64 : Nat)) :
    Decoder.integer (.number (.ofInt n)) = .ok n := by
  simp only [Decoder.integer, Numeral.toInt?_ofInt]
  rw [if_pos ⟨hlower, hupper⟩]

end Json

namespace Claims

open Json

theorem secondsDecoder_seconds (t : Instant) :
    secondsDecoder (.number (.ofInt t.seconds)) = .ok t.wholeSecond := by
  have hlower : -(Nat.pow 2 63 : Nat) ≤ t.seconds := Int.le_trans (by decide) t.first_le
  have hupper : t.seconds < (Nat.pow 2 64 : Nat) := Int.lt_of_le_of_lt t.le_last (by decide)
  simp [secondsDecoder, Decoder.integer_ofInt hlower hupper, Instant.ofSeconds?_seconds, bind, Except.bind]

/-- Written claims read back as they are sent. -/
theorem decoder_toDocument (claims : Claims) : decoder claims.toDocument.toValue = .ok claims.onWire := by
  have hsubject := UserId.decoder_toDocument claims.subject
  have hroles := RoleSet.decoder_toDocument claims.roles
  have hissued := secondsDecoder_seconds claims.issuedAt
  have hexpires := secondsDecoder_seconds claims.expiresAt
  simp [decoder, toDocument, Document.toValue, Document.fieldValues, Record.read, slots, Record.field, Slot.of,
    Draft.blank, Draft.complete, Record.required, Decoder.text, hsubject, hroles, hissued, hexpires, bind,
    Except.bind, pure, Except.pure, Except.map, onWire]

end Claims

theorem Payload.decoder_toDocument (claims : Claims) :
    Payload.decoder claims.toDocument.toValue = .ok claims.onWire := by
  have hfit : Payload.registeredFit claims.toDocument.toValue = true := by
    simp [Payload.registeredFit, Claims.toDocument, Json.Document.toValue, Json.Document.fieldValues,
      Payload.onceFitting]
  simp [Payload.decoder, Claims.decoder_toDocument, hfit, bind, Except.bind]

/-! ## Issued tokens -/

namespace Authority

open Segments

theorem readHeader_issued {s : Segments} {kid : String}
    (h : s.header = ofDocument (TokenHeader.issued KeyPair.algorithm kid)) :
    readHeader s = .ok ⟨KeyPair.algorithm, some kid⟩ := by
  simp only [readHeader, h, source?_ofDocument, Json.decodeWhole_chars, TokenHeader.decoder_issued]

theorem readClaims_written {s : Segments} {claims : Claims} (h : s.payload = ofDocument claims.toDocument) :
    readClaims s = .ok claims.onWire := by
  simp only [readClaims, h, source?_ofDocument, Json.decodeWhole_chars, Payload.decoder_toDocument]

/-- The segments of a token: the header of the pair that signed it, the written claims, and a signature by the
pair's key of the two before. -/
structure Issued (pair : KeyPair) (claims : Claims) (s : Segments) : Prop where
  header : s.header = ofDocument (TokenHeader.issued KeyPair.algorithm pair.kid)
  payload : s.payload = ofDocument claims.toDocument
  signature : ∃ bytes, s.signature = Base64.encode Base64.url bytes ∧ pair.key.sign s.message = .ok bytes

/-- A signed token is composed of issued segments. -/
theorem exists_issued_of_signWith {pair : KeyPair} {claims : Claims} {token : String}
    (h : signWith pair claims = .ok token) : ∃ s, s.Compose token ∧ Issued pair claims s := by
  unfold signWith at h
  simp only at h
  split at h
  · rename_i bytes hsign
    rw [Except.ok.injEq] at h
    subst h
    refine ⟨⟨ofDocument (TokenHeader.issued KeyPair.algorithm pair.kid), ofDocument claims.toDocument,
      Base64.encode Base64.url bytes⟩, ?_, rfl, rfl, bytes, rfl, hsign⟩
    refine ⟨by rw [toText, String.toList_ofList], ?_, ?_, ?_⟩
    all_goals exact Base64.dot_notMem_encode _
  · cases h

end Authority

end TokenAuthority
