import TokenAuthority.Proofs.Token.Verification

/-!
# Issued tokens are accepted

A token that is issued comes from the active pair, satisfies every condition of verification until it expires, and
gives back the claims it was issued for. Main statement: `Authority.verify_issue`.
-/

namespace TokenAuthority.Authority

variable {authority : Authority} {registry : Registry} {pair : KeyPair} {claims : Claims} {token : String}

/-- Issuing signs with the registered pair whose key id is active. -/
theorem exists_pair_of_issue (h : issue registry claims = .ok token) :
    ∃ pair ∈ registry.keys.pairs, pair.kid = registry.activeKid ∧ signWith pair claims = .ok token := by
  unfold issue Registry.signingPair at h
  cases hfind : registry.keys.find? registry.activeKid with
  | none => simp [hfind] at h
  | some pair =>
      obtain ⟨hmem, hkid⟩ := KeySet.find?_eq_some_iff.1 hfind
      exact ⟨pair, hmem, hkid, by simpa [hfind] using h⟩

section

variable {s : Segments} (h : Issued pair claims s)
include h

theorem Issued.named : s.NamesKey pair.kid :=
  namedKid_eq_ok_iff.1 (namedKid_eq_ok_iff_readHeader.2 (readHeader_issued h.header))

theorem Issued.said : s.Says claims.onWire :=
  readClaims_eq_ok_iff.1 (readClaims_written h.payload)

theorem Issued.signed : s.SignedUnder pair.publicKey := by
  obtain ⟨bytes, hsignature, hsign⟩ := h.signature
  exact ⟨bytes, by rw [hsignature, Base64.decode?_encode Base64.url_faithful], Rsa.PrivateKey.verifies_of_sign hsign⟩

/-- Issued segments satisfy the conditions of verification for the claims as they are sent. -/
theorem Issued.accepted {now : Instant} (hregistered : pair ∈ registry.keys.pairs) (hcomposed : s.Compose token)
    (hwindow : claims.onWire.issuedAt < claims.onWire.expiresAt) (hcurrent : now < claims.onWire.expiresAt)
    (hissuer : claims.issuer = authority.issuer) : Accepted authority registry token now claims.onWire s pair :=
  ⟨hcomposed, h.named, hregistered, h.signed, h.said, hwindow, hcurrent, hissuer⟩

end

theorem accepted_of_issue {now : Instant} (hissued : claims.issuedAt.nanoseconds = 0)
    (hexpires : claims.expiresAt.nanoseconds = 0) (hissuer : claims.issuer = authority.issuer)
    (hwindow : claims.issuedAt < claims.expiresAt) (hissue : issue registry claims = .ok token)
    (hcurrent : now < claims.expiresAt) : ∃ s pair, Accepted authority registry token now claims s pair := by
  obtain ⟨pair, hregistered, _, hsign⟩ := exists_pair_of_issue hissue
  obtain ⟨s, hcomposed, hsegments⟩ := exists_issued_of_signWith hsign
  have hwire : claims.onWire = claims := Claims.onWire_of_nanoseconds hissued hexpires
  refine ⟨s, pair, ?_⟩
  rw [← hwire] at hwindow hcurrent ⊢
  exact hsegments.accepted hregistered hcomposed hwindow hcurrent hissuer

/-- An issued token is a text of visible ASCII characters. -/
theorem visible_of_issue (hissue : issue registry claims = .ok token) :
    token ≠ "" ∧ ∀ c ∈ token.toList, 33 ≤ c.toNat ∧ c.toNat < 127 := by
  obtain ⟨pair, _, _, hsign⟩ := exists_pair_of_issue hissue
  obtain ⟨s, ⟨htext, _⟩, hsegments⟩ := exists_issued_of_signWith hsign
  obtain ⟨bytes, hsignature, _⟩ := hsegments.signature
  refine ⟨fun hempty => by simp [hempty] at htext, fun c hc => ?_⟩
  have hdot : 33 ≤ '.'.toNat ∧ '.'.toNat < 127 := by decide
  rw [htext, hsegments.header, hsegments.payload, hsignature] at hc
  simp only [List.mem_append, List.mem_cons] at hc
  rcases hc with hc | rfl | hc | rfl | hc
  · exact Base64.visible_of_mem_encode hc
  · exact hdot
  · exact Base64.visible_of_mem_encode hc
  · exact hdot
  · exact Base64.visible_of_mem_encode hc

/-- Claims with whole-second times that are issued come back unchanged from verification until they expire. -/
theorem verify_issue (hissued : claims.issuedAt.nanoseconds = 0) (hexpires : claims.expiresAt.nanoseconds = 0)
    (hissuer : claims.issuer = authority.issuer) (hwindow : claims.issuedAt < claims.expiresAt)
    (hissue : issue registry claims = .ok token) (now : Instant) (hcurrent : now < claims.expiresAt) :
    authority.verify registry token now = .ok claims := by
  obtain ⟨s, pair, haccepted⟩ := accepted_of_issue hissued hexpires hissuer hwindow hissue hcurrent
  exact verify_of_accepted haccepted

/-! ## A sample -/

/-- Odd numbers just below the 1024th power of two. -/
def sampleFactor (distance : Nat) : Nat := Nat.pow 2 1024 - distance

/-- A key of 2048 bits. -/
def sampleKey : Rsa.PrivateKey where
  modulus := sampleFactor 105 * sampleFactor 179
  publicExponent := 65537
  privateExponent := (54058 * ((sampleFactor 105 - 1) * (sampleFactor 179 - 1)) + 1) / 65537
  factor1 := sampleFactor 105
  factor2 := sampleFactor 179
  consistent := by decide +kernel

theorem sampleKey_coprime : Nat.Coprime sampleKey.factor1 sampleKey.factor2 := by decide +kernel

/-- The sample key under an id. -/
def samplePair (kid : String) : KeyPair := ⟨kid, sampleKey, sampleKey_coprime⟩

/-- A registry of the sample key alone, which is active. -/
def sampleRegistry (kid : String) : Registry := ⟨⟨[samplePair kid], by simp⟩, kid⟩

/-- A key id that needs every kind of escape. -/
def sampleKid : String := "k\"\\\n\x01é"

/-- Claims from before 1970 to shortly after its start. -/
def sampleClaims : Claims where
  subject := ⟨7⟩
  roles := ⟨true, false⟩
  issuer := "the \"issuer\""
  issuedAt := .atSecond (-60) (by decide) (by decide)
  expiresAt := .atSecond 60 (by decide) (by decide)

/-- The authority that issues the sample claims. -/
def sampleAuthority : Authority := ⟨sampleClaims.issuer, .max⟩

theorem exists_issue_sample : ∃ token, issue (sampleRegistry sampleKid) sampleClaims = .ok token :=
  Outcome.exists_of_isSome (by decide +kernel)

theorem verify_issue_sample : ∃ token, issue (sampleRegistry sampleKid) sampleClaims = .ok token ∧
    sampleAuthority.verify (sampleRegistry sampleKid) token ⟨-61, 5, by decide, by decide, by decide, by decide⟩ =
      .ok sampleClaims := by
  obtain ⟨token, hissue⟩ := exists_issue_sample
  exact ⟨token, hissue, verify_issue rfl rfl rfl (by decide) hissue _ (by decide)⟩

end TokenAuthority.Authority
