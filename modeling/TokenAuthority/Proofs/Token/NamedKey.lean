import TokenAuthority.Proofs.Token.Verification

/-!
# Verification and the registry

Of a registry verification reads one thing: the public key under the key id that the token names. Main statements:
`Authority.verify_of_registered`, `Authority.verify_congr`.
-/

namespace TokenAuthority

/-- The public key that is registered under a key id. -/
def Registry.publicKey? (registry : Registry) (kid : String) : Option Rsa.PublicKey :=
  (registry.keys.find? kid).map KeyPair.publicKey

theorem Registry.publicKey?_of_mem {registry : Registry} {pair : KeyPair} (h : pair ∈ registry.keys.pairs) :
    registry.publicKey? pair.kid = some pair.publicKey := by
  rw [publicKey?, KeySet.find?_eq_some_iff.2 ⟨h, rfl⟩]
  rfl

theorem Registry.publicKey?_eq_none_iff {registry : Registry} {kid : String} :
    registry.publicKey? kid = none ↔ ∀ pair ∈ registry.keys.pairs, pair.kid ≠ kid := by
  rw [publicKey?, Option.map_eq_none_iff, KeySet.find?, List.find?_eq_none]
  simp

namespace Authority

/-- A token of three segments whose header is of the signature algorithm and names a key. -/
def Names (token kid : String) : Prop :=
  ∃ s, Segments.Compose token s ∧ s.NamesKey kid

/-- The checks of verification that come after the key is found. -/
def checkUnder (authority : Authority) (key : Rsa.PublicKey) (s : Segments) (now : Instant) :
    Except TokenError Claims := do
  checkSignature key s
  let claims ← readClaims s
  checkWindow claims now
  if claims.issuer = authority.issuer then .ok claims
  else .error (.wrongIssuer authority.issuer claims.issuer)

variable {authority : Authority} {registry registry' : Registry} {token kid : String} {s : Segments} {now : Instant}

theorem Names.eq {kid' : String} (h : Names token kid) (h' : Names token kid') : kid = kid' := by
  obtain ⟨s, hcomposed, hnamed⟩ := h
  obtain ⟨s', hcomposed', hnamed'⟩ := h'
  have hsame : s = s' := hcomposed.eq hcomposed'
  subst hsame
  exact Except.ok.inj ((namedKid_eq_ok_iff.2 hnamed).symm.trans (namedKid_eq_ok_iff.2 hnamed'))

/-- Without a key under the key id that is named, nothing else of the token is looked at. -/
theorem verify_of_unregistered (hcomposed : s.Compose token) (hnamed : s.NamesKey kid)
    (hkey : registry.publicKey? kid = none) :
    authority.verify registry token now = .error (.keyNotFound (.unknown kid)) := by
  have hsegments := Segments.ofText?_of_compose hcomposed
  have hkid := namedKid_eq_ok_iff.2 hnamed
  have hfind : registry.keys.find? kid = none := by simpa [Registry.publicKey?] using hkey
  have hpair : registry.checkingPair kid = .error (.unknown kid) := by rw [Registry.checkingPair, hfind]
  simp [verify, hsegments, hkid, hpair, bind, Except.bind, throw, throwThe, MonadExceptOf.throw]

theorem verify_of_registered {key : Rsa.PublicKey} (hcomposed : s.Compose token) (hnamed : s.NamesKey kid)
    (hkey : registry.publicKey? kid = some key) :
    authority.verify registry token now = authority.checkUnder key s now := by
  have hsegments := Segments.ofText?_of_compose hcomposed
  have hkid := namedKid_eq_ok_iff.2 hnamed
  obtain ⟨pair, hfind, rfl⟩ := Option.map_eq_some_iff.1 hkey
  have hpair : registry.checkingPair kid = .ok pair := by rw [Registry.checkingPair, hfind]
  simp [verify, hsegments, hkid, hpair, checkUnder, bind, Except.bind, pure, Except.pure, throw, throwThe,
    MonadExceptOf.throw]

/-- A token that names no key fails in the same way whatever is registered. -/
theorem verify_of_not_names (h : ∀ kid, ¬ Names token kid) (authority' : Authority) (now' : Instant) :
    authority.verify registry token now = authority'.verify registry' token now' := by
  cases hsegments : Segments.ofText? token with
  | none => simp only [verify, hsegments]
  | some s =>
      cases hkid : namedKid s with
      | error error => simp [verify, hsegments, hkid, bind, Except.bind]
      | ok kid => exact absurd ⟨s, Segments.compose_of_ofText? hsegments, namedKid_eq_ok_iff.1 hkid⟩ (h kid)

/-- Registries that have the same public key, or none, under the key id that a token names verify it alike. -/
theorem verify_congr (h : ∀ kid, Names token kid → registry.publicKey? kid = registry'.publicKey? kid) :
    authority.verify registry token now = authority.verify registry' token now := by
  by_cases hnames : ∃ kid, Names token kid
  · obtain ⟨kid, s, hcomposed, hnamed⟩ := hnames
    have hsame := h kid ⟨s, hcomposed, hnamed⟩
    cases hkey : registry.publicKey? kid with
    | none =>
        rw [verify_of_unregistered hcomposed hnamed hkey]
        rw [hkey] at hsame
        exact (verify_of_unregistered hcomposed hnamed hsame.symm).symm
    | some key =>
        rw [verify_of_registered hcomposed hnamed hkey]
        rw [hkey] at hsame
        exact (verify_of_registered hcomposed hnamed hsame.symm).symm
  · exact verify_of_not_names (fun kid hkid => hnames ⟨kid, hkid⟩) authority now

end Authority

end TokenAuthority
