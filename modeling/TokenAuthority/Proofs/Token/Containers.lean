import TokenAuthority.Proofs.Keys.Views
import TokenAuthority.Proofs.Rsa.Containers
import TokenAuthority.Proofs.Startup
import TokenAuthority.Proofs.Token.Malleability

/-!
# Pairs are keys, not their containers

What a pair publishes is the public half of the numbers that its text holds, and those who read it back confirm the
signatures that verification accepts. Texts that hold the same numbers are the same pair. Main statement:
`KeyPair.determined_by_numbers`.
-/

namespace TokenAuthority

/-- A consumer that reads a published key finds that it confirms the signature of a token. -/
def PublishedKey.Confirms (shown : PublishedKey) (s : Segments) : Prop :=
  ∃ key signature, Rsa.PublicKey.ofPem? shown.pem = some key ∧
    Base64.decode? Base64.url s.signature = some signature ∧ key.accepts s.message signature = true

namespace KeyPair

variable {entry : KeyEntry} {pair : KeyPair}

theorem ofPem?_of_ofEntry (h : ofEntry entry = .ok pair) : Rsa.PrivateKey.ofPem? entry.pem = some pair.key := by
  unfold ofEntry at h
  split at h
  · cases h
  · rename_i key hkey
    split_ifs at h with hcoprime
    cases h
    exact hkey

/-- A text that is accepted holds the numbers of the pair's key and no others. -/
theorem heldBy_iff_of_ofEntry (h : ofEntry entry = .ok pair) {c : Rsa.Components} :
    c.HeldBy entry.pem ↔ c = pair.key.toComponents := by
  have hheld := Rsa.PrivateKey.heldBy_of_ofPem? (ofPem?_of_ofEntry h)
  refine ⟨fun hc => hc.unique hheld, ?_⟩
  rintro rfl
  exact hheld

/-- Texts that hold the same numbers are the same pair under a key id. -/
theorem eq_of_heldBy {entry' : KeyEntry} {pair' : KeyPair} {c : Rsa.Components} (h : ofEntry entry = .ok pair)
    (h' : ofEntry entry' = .ok pair') (hkid : entry.kid = entry'.kid) (hheld : c.HeldBy entry.pem)
    (hheld' : c.HeldBy entry'.pem) : pair = pair' := by
  have hsame : pair.key.toComponents = pair'.key.toComponents :=
    ((heldBy_iff_of_ofEntry h).1 hheld).symm.trans ((heldBy_iff_of_ofEntry h').1 hheld')
  have hkids : pair.kid = pair'.kid := by
    rw [kid_of_ofEntry h, kid_of_ofEntry h', hkid]
  obtain ⟨kid, ⟨numbers, hconsistent⟩, hcoprime⟩ := pair
  obtain ⟨kid', ⟨numbers', hconsistent'⟩, hcoprime'⟩ := pair'
  cases hsame
  cases hkids
  rfl

/-- What is published of a pair reads back as its public half. -/
theorem ofPem?_publicPem (h : ofEntry entry = .ok pair) :
    Rsa.PublicKey.ofPem? pair.publicPem = some pair.publicKey :=
  Rsa.PrivateKey.ofPem?_toPem (ofPem?_of_ofEntry h)

end KeyPair

namespace PublishedKey

variable {entry : KeyEntry} {pair : KeyPair} {registry : Registry} {shown : PublishedKey} {s : Segments}

/-- The published key of a registered pair's key id is that of the pair. -/
theorem pem_eq_of_kid (hmem : pair ∈ registry.keys.pairs) (hshown : shown ∈ registry.publicKeys)
    (hkid : shown.kid = pair.kid) : shown.pem = pair.publicPem := by
  obtain ⟨other, hother, rfl⟩ := Registry.mem_publicKeys_iff.1 hshown
  rw [List.inj_on_of_nodup_map registry.keys.distinct hother hmem hkid]

theorem confirms_iff (h : KeyPair.ofEntry entry = .ok pair) (hpem : shown.pem = pair.publicPem) :
    shown.Confirms s ↔ s.SignedUnder pair.publicKey := by
  have hread := KeyPair.ofPem?_publicPem h
  simp only [Confirms, hpem, hread, Option.some.injEq, Segments.SignedUnder, Rsa.PublicKey.accepts_iff]
  constructor
  · rintro ⟨_, signature, rfl, hdecode, hverifies⟩
    exact ⟨signature, hdecode, hverifies⟩
  · rintro ⟨signature, hdecode, hverifies⟩
    exact ⟨_, signature, rfl, hdecode, hverifies⟩

end PublishedKey

namespace Authority

variable {authority : Authority} {registry : Registry} {pair : KeyPair} {token : String} {s : Segments}
  {now : Instant}

/-- Of the tokens that name a registered pair those are accepted that its public half signs and whose claims hold. -/
theorem verify_eq_ok_iff_signedUnder (hcomposed : s.Compose token) (hmem : pair ∈ registry.keys.pairs)
    (hnamed : s.NamesKey pair.kid) {claims : Claims} : authority.verify registry token now = .ok claims ↔
      s.SignedUnder pair.publicKey ∧ s.Says claims ∧ claims.issuedAt < claims.expiresAt ∧ now < claims.expiresAt ∧
        claims.issuer = authority.issuer := by
  constructor
  · intro hverify
    obtain ⟨s', pair', h⟩ := accepted_of_verify hverify
    obtain rfl := h.composed.eq hcomposed
    have hkid : pair'.kid = pair.kid := Names.eq ⟨_, hcomposed, h.named⟩ ⟨_, hcomposed, hnamed⟩
    obtain rfl := List.inj_on_of_nodup_map registry.keys.distinct h.registered hmem hkid
    exact ⟨h.signed, h.said, h.window, h.current, h.issued⟩
  · rintro ⟨hsigned, hsaid, hwindow, hcurrent, hissued⟩
    exact verify_of_accepted ⟨hcomposed, hnamed, hmem, hsigned, hsaid, hwindow, hcurrent, hissued⟩

theorem exists_refusal_of_unsigned (hcomposed : s.Compose token) (hmem : pair ∈ registry.keys.pairs)
    (hnamed : s.NamesKey pair.kid) (hunsigned : ¬ s.SignedUnder pair.publicKey) :
    ∃ error, authority.verify registry token now = .error error ∧ SignatureRefusal error := by
  have htext : s.toText = token :=
    String.toList_injective (by rw [Segments.toText, String.toList_ofList, hcomposed.1])
  subst htext
  exact verify_of_not_signedUnder hcomposed.2.1 hcomposed.2.2.1 hmem hnamed hunsigned

end Authority

namespace KeyPair

/-- A pair is its key, not the container that the key came in. -/
theorem determined_by_numbers :
    (∀ entry pair, ofEntry entry = .ok pair →
      (∀ c : Rsa.Components, c.HeldBy entry.pem ↔ c = pair.key.toComponents) ∧
      Rsa.PublicKey.ofPem? pair.publicPem = some ⟨pair.key.modulus, pair.key.publicExponent⟩ ∧
      ∀ (registry : Registry) (shown : PublishedKey), pair ∈ registry.keys.pairs → shown ∈ registry.publicKeys →
        shown.kid = pair.kid → ∀ (authority : Authority) token s now, Segments.Compose token s → s.NamesKey shown.kid →
          (∀ claims, authority.verify registry token now = .ok claims ↔ shown.Confirms s ∧ s.Says claims ∧
            claims.issuedAt < claims.expiresAt ∧ now < claims.expiresAt ∧ claims.issuer = authority.issuer) ∧
          (¬ shown.Confirms s → ∃ error, authority.verify registry token now = .error error ∧
            Authority.SignatureRefusal error)) ∧
    ∀ (c : Rsa.Components) entry entry' pair pair', ofEntry entry = .ok pair → ofEntry entry' = .ok pair' →
      entry.kid = entry'.kid → c.HeldBy entry.pem → c.HeldBy entry'.pem →
        pair.publicPem = pair'.publicPem ∧
        ∀ registry registry' : Registry, registry.signingPair = .ok pair → registry'.signingPair = .ok pair' →
          ∀ claims, Authority.issue registry claims = Authority.issue registry' claims := by
  refine ⟨fun entry pair h => ⟨fun c => heldBy_iff_of_ofEntry h, ofPem?_publicPem h, ?verification⟩, ?containers⟩
  case verification =>
    intro registry shown hmem hshown hkid authority token s now hcomposed hnamed
    rw [PublishedKey.confirms_iff h (PublishedKey.pem_eq_of_kid hmem hshown hkid)]
    rw [hkid] at hnamed
    exact ⟨fun claims => Authority.verify_eq_ok_iff_signedUnder hcomposed hmem hnamed,
      Authority.exists_refusal_of_unsigned hcomposed hmem hnamed⟩
  case containers =>
    intro c entry entry' pair pair' h h' hkid hheld hheld'
    obtain rfl := eq_of_heldBy h h' hkid hheld hheld'
    refine ⟨rfl, fun registry registry' hpair hpair' claims => ?_⟩
    rw [Authority.issue, Authority.issue, hpair, hpair']

/-! ## A sample -/

open Authority (sampleAuthority sampleRegistry sampleKid sampleClaims sampleKey samplePair)

/-- The sample key with other numbers after it, wrapped, after a line of text and in lines that end in other ways. -/
def wrappedBytes : List UInt8 :=
  Der.element Der.sequenceTag (Der.integer 0 ++ (Der.element Der.sequenceTag Rsa.algorithmContents ++
    Der.element Der.octetStringTag (Der.element Der.sequenceTag ([0, sampleKey.modulus, sampleKey.publicExponent,
      sampleKey.privateExponent, sampleKey.factor1, sampleKey.factor2, 1, 2, 3].flatMap Der.integer))))

/-- The text of those bytes. -/
def wrappedPem : String :=
  String.ofList (("a key".toList ++ ['\n']) ++ (Pem.beginLine "PRIVATE KEY" ++ (['\r', '\n'] ++
    (Pem.lines (Base64.encodePadded Base64.standard wrappedBytes) ++ ['\r'] ++ Pem.endLine "PRIVATE KEY" ++ []))))

theorem armours_wrappedPem : Pem.Armours "PRIVATE KEY" wrappedBytes wrappedPem where
  ne_nil := List.cons_ne_nil _ _
  written := ⟨_, _, _, _, _, .line (by decide) (by decide) .nil, .crlf, Pem.wraps_of_unwrap? (Pem.unwrap?_lines _), .cr,
    .inl rfl, String.toList_ofList⟩

theorem ofPem?_wrappedPem : Rsa.PrivateKey.ofPem? wrappedPem = some sampleKey := by
  obtain ⟨inner, hunwrap, hbare⟩ : ∃ inner, Rsa.unwrap? wrappedBytes = some inner ∧
      Rsa.Components.ofBytes? inner = some sampleKey.toComponents :=
    Option.bind_eq_some_iff.1 (by decide +kernel)
  exact Rsa.PrivateKey.ofPem?_eq_some_iff.2
    (.inl ⟨_, inner, armours_wrappedPem, hunwrap, Rsa.Components.ofBytes?_eq_some_iff.1 hbare⟩)

theorem samplePem_ne_wrappedPem : Startup.samplePem ≠ wrappedPem := by
  intro h
  have hblock : Pem.Armours "RSA PRIVATE KEY" Startup.sampleBytes Startup.samplePem :=
    Pem.armours_of_read? (Pem.read?_write _ (List.cons_ne_nil _ _))
  exact Rsa.not_bare_of_wrapped armours_wrappedPem (h ▸ hblock)

/-- Two texts that hold the sample key make the same pair, and those who read what it publishes confirm a token that is
issued with it. -/
theorem determined_by_numbers_sample : ∃ pair pair', ofEntry ⟨sampleKid, Startup.samplePem⟩ = .ok pair ∧
    ofEntry ⟨sampleKid, wrappedPem⟩ = .ok pair' ∧ Startup.samplePem ≠ wrappedPem ∧
    sampleKey.toComponents.HeldBy Startup.samplePem ∧ sampleKey.toComponents.HeldBy wrappedPem ∧
    pair.publicPem = pair'.publicPem ∧
    ∃ token s shown, Authority.issue (sampleRegistry sampleKid) sampleClaims = .ok token ∧ Segments.Compose token s ∧
      shown ∈ (sampleRegistry sampleKid).publicKeys ∧ shown.Confirms s := by
  have hbare : ofEntry ⟨sampleKid, Startup.samplePem⟩ = .ok (samplePair sampleKid) :=
    ofEntry_of_ofPem? Startup.ofPem?_samplePem Authority.sampleKey_coprime
  have hwrapped : ofEntry ⟨sampleKid, wrappedPem⟩ = .ok (samplePair sampleKid) :=
    ofEntry_of_ofPem? ofPem?_wrappedPem Authority.sampleKey_coprime
  obtain ⟨hkey, hcontainers⟩ := determined_by_numbers
  obtain ⟨hheld, -, hverify⟩ := hkey _ _ hbare
  obtain ⟨hheld', -⟩ := hkey _ _ hwrapped
  have hpublic := hcontainers _ _ _ _ _ hbare hwrapped rfl ((hheld _).2 rfl) ((hheld' _).2 rfl)
  refine ⟨_, _, hbare, hwrapped, samplePem_ne_wrappedPem, (hheld _).2 rfl, (hheld' _).2 rfl, hpublic.1, ?_⟩
  obtain ⟨token, hissue⟩ := Authority.exists_issue_sample
  obtain ⟨s, pair, haccepted⟩ : ∃ s pair, Authority.Accepted sampleAuthority (sampleRegistry sampleKid) token
      sampleClaims.issuedAt sampleClaims s pair :=
    Authority.accepted_of_issue rfl rfl rfl (by decide) hissue (by decide)
  obtain rfl := List.mem_singleton.1 haccepted.registered
  have hshown := Registry.mem_publicKeys_iff.2 ⟨samplePair sampleKid, haccepted.registered, rfl⟩
  have hchecks := hverify _ _ haccepted.registered hshown rfl sampleAuthority token s sampleClaims.issuedAt
    haccepted.composed haccepted.named
  have hconfirms := (hchecks.1 sampleClaims).1 (Authority.verify_of_accepted haccepted)
  exact ⟨token, s, _, hissue, haccepted.composed, hshown, hconfirms.1⟩

end KeyPair

end TokenAuthority
