import TokenAuthority.Proofs.Json.Records
import TokenAuthority.Proofs.Rsa.Signature
import TokenAuthority.Proofs.Token.Wire

/-!
# What verification accepts

Each check of the verification as the condition it stands for, and all of them together. Of a header only the
two members that name the algorithm and the key have a say, so the key comes from the registry and from nowhere
else. Main statement: `Authority.verify_eq_ok_iff`.
-/

namespace TokenAuthority

open Json

/-! ## Headers -/

namespace TokenHeader

/-- Reads the name of a known signature algorithm. -/
def algorithmDecoder : Decoder String :=
  .named fun s => if EmbeddedKey.signatureAlgorithms.contains s then some s else none

/-- The algorithm that the member of a header chooses. -/
def algorithm? (v : Value) : Option String :=
  (Record.member? slots "alg" v).bind fun w => (algorithmDecoder w).toOption

/-- The key id that the member of a header names. -/
def kid? (v : Value) : Option String :=
  ((Record.member? slots "kid" v).bind fun w => (Decoder.optional Decoder.text w).toOption).join

theorem nodup_slots : (slots.map Slot.name).Nodup := by decide

theorem keeps_checked {α β : Type} {slots : List (Slot Draft)} {name other : String} {get : Draft → Option α}
    {decode : Decoder α} {decode' : Decoder β} (h : Slot.Keeps slots name get decode) (hname : other ≠ name)
    (hseen : ∀ d seen, get { d with seen := seen } = get d) :
    Slot.Keeps (checked other decode' :: slots) name get decode := by
  refine h.cons hname fun v d d' hread => ?_
  obtain ⟨_, _, rfl⟩ := Outcome.map_eq_ok.1 hread
  exact hseen d _

theorem keeps_algorithm : Slot.Keeps slots "alg" Draft.algorithm algorithmDecoder := by
  refine keeps_checked ?_ (by decide) fun _ _ => rfl
  refine .cons_of ?_ fun _ _ => rfl
  iterate 3 refine keeps_checked ?_ (by decide) fun _ _ => rfl
  refine .cons_of_ne ?_ (by decide) fun _ _ => rfl
  iterate 4 refine keeps_checked ?_ (by decide) fun _ _ => rfl
  exact .nil

theorem keeps_kid : Slot.Keeps slots "kid" Draft.kid (.optional .text) := by
  refine keeps_checked ?_ (by decide) fun _ _ => rfl
  refine .cons_of_ne ?_ (by decide) fun _ _ => rfl
  iterate 3 refine keeps_checked ?_ (by decide) fun _ _ => rfl
  refine .cons_of ?_ fun _ _ => rfl
  iterate 4 refine keeps_checked ?_ (by decide) fun _ _ => rfl
  exact .nil

/-- What is read of a header is what two of its members say. -/
theorem members_of_decoder {v : Value} {header : TokenHeader} (h : decoder v = .ok header) :
    algorithm? v = some header.algorithm ∧ kid? v = header.kid := by
  obtain ⟨draft, hread, h⟩ := Outcome.bind_eq_ok.1 h
  obtain ⟨algorithm, hrequired, h⟩ := Outcome.bind_eq_ok.1 h
  cases h
  have halgorithm := Record.get_of_read keeps_algorithm nodup_slots (by simp [slots, Slot.of]) rfl hread
  have hkid := Record.get_of_read keeps_kid nodup_slots (by simp [slots, Slot.of]) rfl hread
  refine ⟨?_, ?_⟩
  · rw [algorithm?, ← halgorithm]
    cases hdraft : draft.algorithm with
    | none => rw [hdraft] at hrequired; cases hrequired
    | some a => rw [hdraft] at hrequired; cases hrequired; rfl
  · rw [kid?, ← hkid]

end TokenHeader

/-! ## Keys -/

theorem KeySet.find?_eq_some_iff {keys : KeySet} {kid : String} {pair : KeyPair} :
    keys.find? kid = some pair ↔ pair ∈ keys.pairs ∧ pair.kid = kid :=
  Keyed.find?_eq_some_iff keys.distinct

theorem Registry.checkingPair_eq_ok_iff {registry : Registry} {kid : String} {pair : KeyPair} :
    registry.checkingPair kid = .ok pair ↔ pair ∈ registry.keys.pairs ∧ pair.kid = kid := by
  rw [← KeySet.find?_eq_some_iff, checkingPair]
  cases registry.keys.find? kid with
  | none => simp
  | some found => simp

/-! ## Segments -/

namespace Segments

/-- A segment that holds one JSON value. -/
def Holds (segment : List Char) (v : Value) : Prop :=
  ∃ bytes, Base64.decode? Base64.url segment = some bytes ∧ Source.Holds (Text.Utf8.decode bytes) v

/-- A header that reads as one and whose own members choose the signature algorithm and name a key. -/
def NamesKey (s : Segments) (kid : String) : Prop :=
  ∃ v, Holds s.header v ∧ (∃ header, TokenHeader.decoder v = .ok header) ∧
    TokenHeader.algorithm? v = some KeyPair.algorithm ∧ TokenHeader.kid? v = some kid

/-- A signature of the header, a dot and the payload that a public key verifies. -/
def SignedUnder (s : Segments) (key : Rsa.PublicKey) : Prop :=
  ∃ signature, Base64.decode? Base64.url s.signature = some signature ∧ key.Verifies s.message signature

/-- A payload that reads as claims and that the second reader takes. -/
def Says (s : Segments) (claims : Claims) : Prop :=
  ∃ v, Holds s.payload v ∧ Claims.decoder v = .ok claims ∧ Payload.registeredFit v = true

theorem source?_eq_some_iff {segment : List Char} {source : Source} :
    source? segment = some source ↔
      ∃ bytes, Base64.decode? Base64.url segment = some bytes ∧ Text.Utf8.decode bytes = source := by
  rw [source?, Option.map_eq_some_iff]

end Segments

theorem Payload.decoder_eq_ok_iff {v : Value} {claims : Claims} :
    Payload.decoder v = .ok claims ↔ Claims.decoder v = .ok claims ∧ Payload.registeredFit v = true := by
  rw [Payload.decoder, Outcome.bind_eq_ok]
  constructor
  · rintro ⟨read, hread, h⟩
    split at h
    · rename_i hfit
      cases h
      exact ⟨hread, hfit⟩
    · cases h
  · rintro ⟨hread, hfit⟩
    exact ⟨claims, hread, by rw [if_pos hfit]⟩

/-! ## The checks -/

namespace Authority

open Segments

theorem readHeader_eq_ok_iff {s : Segments} {header : TokenHeader} :
    readHeader s = .ok header ↔ ∃ v, Holds s.header v ∧ TokenHeader.decoder v = .ok header := by
  constructor
  · intro h
    unfold readHeader at h
    split at h
    · cases h
    · rename_i source hsource
      split at h
      · rename_i hdecode
        cases h
        obtain ⟨bytes, hbytes, rfl⟩ := source?_eq_some_iff.1 hsource
        obtain ⟨v, hv, hheader⟩ := decodeWhole_eq_ok_iff.1 hdecode
        exact ⟨v, ⟨bytes, hbytes, hv⟩, hheader⟩
      · cases h
  · rintro ⟨v, ⟨bytes, hbytes, hv⟩, hheader⟩
    have hsource : source? s.header = some (Text.Utf8.decode bytes) := source?_eq_some_iff.2 ⟨bytes, hbytes, rfl⟩
    simp only [readHeader, hsource, decodeWhole_eq_ok_iff.2 ⟨v, hv, hheader⟩]

theorem readClaims_eq_ok_iff {s : Segments} {claims : Claims} : readClaims s = .ok claims ↔ s.Says claims := by
  constructor
  · intro h
    unfold readClaims at h
    split at h
    · cases h
    · rename_i source hsource
      split at h
      · rename_i hdecode
        cases h
        obtain ⟨bytes, hbytes, rfl⟩ := source?_eq_some_iff.1 hsource
        obtain ⟨v, hv, hclaims⟩ := decodeWhole_eq_ok_iff.1 hdecode
        exact ⟨v, ⟨bytes, hbytes, hv⟩, Payload.decoder_eq_ok_iff.1 hclaims⟩
      · cases h
  · rintro ⟨v, ⟨bytes, hbytes, hv⟩, hclaims⟩
    have hsource : source? s.payload = some (Text.Utf8.decode bytes) := source?_eq_some_iff.2 ⟨bytes, hbytes, rfl⟩
    simp only [readClaims, hsource, decodeWhole_eq_ok_iff.2 ⟨v, hv, Payload.decoder_eq_ok_iff.2 hclaims⟩]

theorem namedKid_eq_ok_iff_readHeader {s : Segments} {kid : String} :
    namedKid s = .ok kid ↔ readHeader s = .ok ⟨KeyPair.algorithm, some kid⟩ := by
  rw [namedKid, Outcome.bind_eq_ok]
  constructor
  · rintro ⟨⟨algorithm, named⟩, hread, h⟩
    by_cases halgorithm : algorithm = KeyPair.algorithm
    · subst halgorithm
      cases named with
      | none => simp [throw, throwThe, MonadExceptOf.throw] at h
      | some kid' =>
          simp only [ne_eq, not_true_eq_false, if_false, Except.ok.injEq] at h
          rw [hread, h]
    · rw [if_pos halgorithm] at h
      cases h
  · intro h
    exact ⟨_, h, by simp⟩

theorem namedKid_eq_ok_iff {s : Segments} {kid : String} : namedKid s = .ok kid ↔ s.NamesKey kid := by
  rw [namedKid_eq_ok_iff_readHeader, readHeader_eq_ok_iff]
  constructor
  · rintro ⟨v, hv, hheader⟩
    exact ⟨v, hv, ⟨_, hheader⟩, TokenHeader.members_of_decoder hheader⟩
  · rintro ⟨v, hv, ⟨⟨algorithm, named⟩, hheader⟩, halgorithm, hkid⟩
    obtain ⟨halgorithm', hkid'⟩ := TokenHeader.members_of_decoder hheader
    rw [halgorithm, Option.some.injEq] at halgorithm'
    rw [hkid] at hkid'
    simp only at halgorithm' hkid'
    exact ⟨v, hv, by rw [hheader, halgorithm', hkid']⟩

theorem checkSignature_eq_ok_iff {key : Rsa.PublicKey} {s : Segments} :
    checkSignature key s = .ok () ↔ s.SignedUnder key := by
  unfold checkSignature
  split
  · rename_i hnone
    simp [SignedUnder, hnone]
  · rename_i signature hsome
    simp [SignedUnder, hsome, Rsa.PublicKey.accepts_iff]

theorem checkWindow_eq_ok_iff {claims : Claims} {now : Instant} :
    checkWindow claims now = .ok () ↔ claims.issuedAt < claims.expiresAt ∧ now < claims.expiresAt := by
  have hle (a b : Instant) : a ≤ b ↔ ¬ b < a := Iff.rfl
  by_cases hwindow : claims.issuedAt < claims.expiresAt
  · by_cases hcurrent : now < claims.expiresAt
    · simp [checkWindow, Claims.checkWindow, hle, hwindow, hcurrent]
    · simp [checkWindow, Claims.checkWindow, hle, hwindow, hcurrent]
  · simp [checkWindow, Claims.checkWindow, hle, hwindow]

/-! ## All checks -/

/-- Everything a token that is accepted has to satisfy: its three segments, the key it names among the registered
pairs, the signature by that pair, the claims, their time window and their issuer. -/
structure Accepted (authority : Authority) (registry : Registry) (token : String) (now : Instant) (claims : Claims)
    (s : Segments) (pair : KeyPair) : Prop where
  composed : s.Compose token
  named : s.NamesKey pair.kid
  registered : pair ∈ registry.keys.pairs
  signed : s.SignedUnder pair.publicKey
  said : s.Says claims
  window : claims.issuedAt < claims.expiresAt
  current : now < claims.expiresAt
  issued : claims.issuer = authority.issuer

variable {authority : Authority} {registry : Registry} {token : String} {now : Instant} {claims : Claims}

theorem accepted_of_verify (h : authority.verify registry token now = .ok claims) :
    ∃ s pair, Accepted authority registry token now claims s pair := by
  unfold verify at h
  split at h
  · rename_i s hs
    obtain ⟨kid, hkid, h⟩ := Outcome.bind_eq_ok.1 h
    cases hpair : registry.checkingPair kid with
    | error cause =>
        rw [hpair] at h
        cases h
    | ok pair =>
        simp only [hpair, pure_bind] at h
        obtain ⟨_, hsigned, h⟩ := Outcome.bind_eq_ok.1 h
        obtain ⟨read, hread, h⟩ := Outcome.bind_eq_ok.1 h
        obtain ⟨_, hwindow, h⟩ := Outcome.bind_eq_ok.1 h
        split at h
        · rename_i hissuer
          cases h
          obtain ⟨hregistered, rfl⟩ := Registry.checkingPair_eq_ok_iff.1 hpair
          obtain ⟨hopen, hcurrent⟩ := checkWindow_eq_ok_iff.1 hwindow
          exact ⟨s, pair, Segments.compose_of_ofText? hs, namedKid_eq_ok_iff.1 hkid, hregistered,
            checkSignature_eq_ok_iff.1 hsigned, readClaims_eq_ok_iff.1 hread, hopen, hcurrent, hissuer⟩
        · cases h
  · cases h

theorem verify_of_accepted {s : Segments} {pair : KeyPair} (h : Accepted authority registry token now claims s pair) :
    authority.verify registry token now = .ok claims := by
  have hsegments := Segments.ofText?_of_compose h.composed
  have hkid := namedKid_eq_ok_iff.2 h.named
  have hpair := Registry.checkingPair_eq_ok_iff.2 ⟨h.registered, rfl⟩
  have hsigned := checkSignature_eq_ok_iff.2 h.signed
  have hread := readClaims_eq_ok_iff.2 h.said
  have hwindow := checkWindow_eq_ok_iff.2 ⟨h.window, h.current⟩
  simp [verify, hsegments, hkid, hpair, hsigned, hread, hwindow, h.issued, bind, Except.bind, pure, Except.pure]

/-- Verification accepts the tokens that satisfy every condition, and only those. The key is the registered one
that the header names: another header over the same payload that names it too, whatever else it holds, makes a
token that is accepted exactly when it is itself signed under that key. -/
theorem verify_eq_ok_iff (authority : Authority) (registry : Registry) (token : String) (now : Instant)
    (claims : Claims) :
    (authority.verify registry token now = .ok claims ↔
      ∃ s pair, Accepted authority registry token now claims s pair) ∧
    ∀ s pair, Accepted authority registry token now claims s pair →
      ∀ token' s', Segments.Compose token' s' → s'.payload = s.payload → s'.NamesKey pair.kid →
        (authority.verify registry token' now = .ok claims ↔ s'.SignedUnder pair.publicKey) := by
  refine ⟨⟨accepted_of_verify, fun ⟨_, _, h⟩ => verify_of_accepted h⟩, ?_⟩
  intro s pair h token' s' hcomposed hpayload hnamed
  constructor
  · intro hverify
    obtain ⟨t, pair', h'⟩ := accepted_of_verify hverify
    have ht : t = s' := Segments.Compose.eq h'.composed hcomposed
    subst ht
    -- The key ids of registered pairs are distinct, so a header that names this one leaves no other pair.
    have hkid : pair'.kid = pair.kid := Except.ok.inj
      ((namedKid_eq_ok_iff.2 h'.named).symm.trans (namedKid_eq_ok_iff.2 hnamed))
    have hpair : pair' = pair := List.inj_on_of_nodup_map registry.keys.distinct h'.registered h.registered hkid
    exact hpair ▸ h'.signed
  · intro hsigned
    have hsaid : s'.Says claims := by
      obtain ⟨v, hv, hread⟩ := h.said
      exact ⟨v, hpayload ▸ hv, hread⟩
    exact verify_of_accepted
      ⟨hcomposed, hnamed, h.registered, hsigned, hsaid, h.window, h.current, h.issued⟩

end Authority

end TokenAuthority
