import TokenAuthority.Proofs.Rsa.Uniqueness
import TokenAuthority.Proofs.Token.Precedence

/-!
# Signatures cannot be varied

A token that is accepted is so with one signature segment only: under keys with prime factors a message has one
signature, and bytes have one base64. Main statement: `Authority.verify_signature_unique`.
-/

namespace TokenAuthority

namespace Segments

variable {s s' : Segments} {header payload signature signature' : List Char} {pair : KeyPair}

/-- The text of segments is composed of no others, even if they have dots in them: a token has two dots in all. -/
theorem Compose.eq_of_toText (h : s'.Compose s.toText) : s' = s := by
  obtain ⟨htext, hheader, hpayload, hsignature⟩ := h
  have hcount := congrArg (List.count '.') htext
  rw [toText, String.toList_ofList] at hcount
  simp only [List.count_append, List.count_cons_self, List.count_eq_zero.2 hheader, List.count_eq_zero.2 hpayload,
    List.count_eq_zero.2 hsignature] at hcount
  have hheader' : '.' ∉ s.header := List.count_eq_zero.1 (by omega)
  have hpayload' : '.' ∉ s.payload := List.count_eq_zero.1 (by omega)
  have hsignature' : '.' ∉ s.signature := List.count_eq_zero.1 (by omega)
  exact Compose.eq ⟨htext, hheader, hpayload, hsignature⟩ (compose_toText hheader' hpayload' hsignature')

/-- With prime factors one segment at most signs a header and a payload. -/
theorem SignedUnder.signature_eq (h1 : pair.key.factor1.Prime) (h2 : pair.key.factor2.Prime)
    (h : SignedUnder ⟨header, payload, signature⟩ pair.publicKey)
    (h' : SignedUnder ⟨header, payload, signature'⟩ pair.publicKey) : signature' = signature := by
  obtain ⟨bytes, hbytes, hverifies⟩ := h
  obtain ⟨bytes', hbytes', hverifies'⟩ := h'
  have hsame : bytes' = bytes := hverifies'.unique h1 h2 pair.coprime hverifies
  rw [Base64.decode?_eq_some_iff Base64.url_faithful] at hbytes hbytes'
  calc
    signature' = Base64.encode Base64.url bytes' := hbytes'
    _ = Base64.encode Base64.url bytes := by rw [hsame]
    _ = signature := hbytes.symm

end Segments

namespace Authority

variable {authority : Authority} {registry : Registry} {pair : KeyPair} {now : Instant} {claims : Claims}
  {header payload signature signature' : List Char}

/-- What a token is refused with for its signature segment: that it signs something else, that it has a dot in it, or
that it is no base64. -/
inductive SignatureRefusal : TokenError → Prop
  | mismatch : SignatureRefusal .signatureMismatch
  | segments : SignatureRefusal (.malformed .segments)
  | encoding : SignatureRefusal (.malformed .encoding)

/-- A signature segment that signs nothing is what a token is refused for once its key is found. -/
theorem verify_of_not_signedUnder (hheader : '.' ∉ header) (hpayload : '.' ∉ payload)
    (hmem : pair ∈ registry.keys.pairs) (hnamed : Segments.NamesKey ⟨header, payload, signature⟩ pair.kid)
    (hunsigned : ¬ Segments.SignedUnder ⟨header, payload, signature⟩ pair.publicKey) :
    ∃ error, authority.verify registry (Segments.toText ⟨header, payload, signature⟩) now = .error error ∧
      SignatureRefusal error := by
  by_cases hdot : '.' ∈ signature
  · refine ⟨_, verify_of_not_compose fun s hcomposed => ?_, .segments⟩
    obtain rfl := hcomposed.eq_of_toText
    exact hcomposed.2.2.2 hdot
  · have hcomposed := Segments.compose_toText (s := ⟨header, payload, signature⟩) hheader hpayload hdot
    rw [verify_of_pair hcomposed hmem hnamed]
    cases hbytes : Base64.decode? Base64.url signature with
    | none => exact ⟨_, checkUnder_of_checkSignature_error (checkSignature_of_none hbytes), .encoding⟩
    | some bytes =>
        exact ⟨_, checkUnder_of_checkSignature_error (checkSignature_of_not_signed hbytes hunsigned), .mismatch⟩

/-- Where the factors of all registered keys are prime, the signature segment of a token that is accepted at some
instant is the only one with which that header and that payload are accepted at any instant. With every other, be it
changed, padded or the encoding of another number, they are refused for the signature segment, whatever the time. -/
theorem verify_signature_unique
    (hprimes : ∀ pair ∈ registry.keys.pairs, pair.key.factor1.Prime ∧ pair.key.factor2.Prime)
    (haccepted : authority.verify registry (Segments.toText ⟨header, payload, signature⟩) now = .ok claims) :
    (∀ signature' now' claims',
      authority.verify registry (Segments.toText ⟨header, payload, signature'⟩) now' = .ok claims' →
        signature' = signature) ∧
    ∀ signature', signature' ≠ signature → ∀ now', ∃ error,
      authority.verify registry (Segments.toText ⟨header, payload, signature'⟩) now' = .error error ∧
        SignatureRefusal error := by
  have hrefused (signature' : List Char) (hne : signature' ≠ signature) (now' : Instant) : ∃ error,
      authority.verify registry (Segments.toText ⟨header, payload, signature'⟩) now' = .error error ∧
        SignatureRefusal error := by
    obtain ⟨s, pair, h⟩ := accepted_of_verify haccepted
    obtain rfl := h.composed.eq_of_toText
    obtain ⟨h1, h2⟩ := hprimes pair h.registered
    -- The key that is named does not depend on the signature segment.
    exact verify_of_not_signedUnder h.composed.2.1 h.composed.2.2.1 h.registered h.named
      fun hsigned => hne (h.signed.signature_eq h1 h2 hsigned)
  refine ⟨fun signature' now' claims' haccepted' => ?_, hrefused⟩
  by_contra hne
  obtain ⟨error, herror, _⟩ := hrefused signature' hne now'
  rw [haccepted'] at herror
  cases herror

/-! ## A sample -/

/-- A registry of one key, which has prime factors. -/
def primeRegistry : Registry := ⟨⟨[⟨"k", Rsa.primeKey, Rsa.primeKey_coprime⟩], by simp⟩, "k"⟩

theorem primes_primeRegistry :
    ∀ pair ∈ primeRegistry.keys.pairs, pair.key.factor1.Prime ∧ pair.key.factor2.Prime := by
  intro pair hpair
  obtain rfl := List.mem_singleton.1 hpair
  exact ⟨Rsa.prime_prothNumber1, Rsa.prime_prothNumber2⟩

theorem exists_issue_prime : ∃ token, issue primeRegistry sampleClaims = .ok token :=
  Outcome.exists_of_isSome (by decide +kernel)

/-- A token that is issued with a prime key is accepted, and refused once its signature segment is padded. -/
theorem verify_signature_unique_padded : ∃ header payload signature,
    issue primeRegistry sampleClaims = .ok (Segments.toText ⟨header, payload, signature⟩) ∧
    sampleAuthority.verify primeRegistry (Segments.toText ⟨header, payload, signature⟩) sampleClaims.issuedAt =
      .ok sampleClaims ∧
    ∀ now, ∃ error, sampleAuthority.verify primeRegistry
      (Segments.toText ⟨header, payload, signature ++ ['=']⟩) now = .error error ∧ SignatureRefusal error := by
  obtain ⟨token, hissue⟩ := exists_issue_prime
  obtain ⟨s, pair, h⟩ : ∃ s pair,
      Accepted sampleAuthority primeRegistry token sampleClaims.issuedAt sampleClaims s pair :=
    accepted_of_issue rfl rfl rfl (by decide) hissue (by decide)
  have htext : s.toText = token := String.toList_injective (by rw [Segments.toText, String.toList_ofList, h.composed.1])
  subst htext
  have haccepted := verify_of_accepted h
  obtain ⟨_, hrefused⟩ := verify_signature_unique primes_primeRegistry haccepted
  exact ⟨_, _, _, hissue, haccepted, hrefused _ (by simp)⟩

end Authority

end TokenAuthority
