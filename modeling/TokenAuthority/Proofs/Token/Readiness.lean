import TokenAuthority.Proofs.Rsa.Recovery
import TokenAuthority.Proofs.Startup
import TokenAuthority.Proofs.Token.Minting

/-!
# What a started server mints

A start looks the active key up and does not ask more of it, so a server that has started never lacks the key to sign
with. Whether that key signs is settled by the lengths of its numbers, which a start looks at only where it mints a
token itself, for a first administrator. Main statement: `Startup.mint_of_start`.
-/

namespace TokenAuthority

/-! ## Minting with a registered key -/

namespace Authority

variable {authority : Authority} {registry : Registry} {pair : KeyPair} {claims : Claims} {user : UserId}
  {roles : RoleSet} {now : Instant}

/-- What is signed for claims. -/
def signedMessage (pair : KeyPair) (claims : Claims) : List UInt8 :=
  Segments.message ⟨Segments.ofDocument (TokenHeader.issued KeyPair.algorithm pair.kid),
    Segments.ofDocument claims.toDocument, []⟩

theorem signWith_of_ok {signature : List UInt8} (h : pair.key.sign (signedMessage pair claims) = .ok signature) :
    ∃ token, signWith pair claims = .ok token := by
  rw [signedMessage] at h
  simp only [signWith, h]
  exact ⟨_, rfl⟩

theorem signWith_of_error {fault : Rsa.SigningFault}
    (h : pair.key.sign (signedMessage pair claims) = .error fault) :
    signWith pair claims = .error (.signing fault) := by
  rw [signedMessage] at h
  simp only [signWith, h]

section

variable (hpair : registry.signingPair = .ok pair)
include hpair

/-- With a pair to sign with and an instant to expire at, whether a token is minted is up to the signature. -/
theorem mint_of_signingPair (authority : Authority) (user : UserId) (roles : RoleSet)
    (hexpires : (now.startOfSecond.add? authority.lifetime).isSome = true) :
    ∃ message, (∀ signature, pair.key.sign message = .ok signature →
        ∃ minted, authority.mint registry user roles now = .ok minted) ∧
      ∀ fault, pair.key.sign message = .error fault →
        authority.mint registry user roles now = .error (.signing fault) := by
  obtain ⟨expiresAt, hadd⟩ := Option.isSome_iff_exists.1 hexpires
  have hmint : authority.mint registry user roles now =
      (signWith pair ⟨user, roles, authority.issuer, now.startOfSecond, expiresAt⟩).map fun token =>
        (token, ⟨user, roles, authority.issuer, now.startOfSecond, expiresAt⟩) := by
    rw [mint, Claims.stamp?, hadd]
    simp only [Option.map_some, issue, hpair]
  refine ⟨signedMessage pair ⟨user, roles, authority.issuer, now.startOfSecond, expiresAt⟩,
    fun signature hsign => ?_, fun fault hsign => ?_⟩
  · obtain ⟨token, htoken⟩ := signWith_of_ok hsign
    rw [hmint, htoken]
    exact ⟨_, rfl⟩
  · rw [hmint, signWith_of_error hsign]
    rfl

/-- Minting fails for the signature alone. -/
theorem mint_ok_or_signing (hexpires : (now.startOfSecond.add? authority.lifetime).isSome = true) :
    (∃ minted, authority.mint registry user roles now = .ok minted) ∨
      ∃ fault, authority.mint registry user roles now = .error (.signing fault) := by
  obtain ⟨message, hsucceeds, hfails⟩ := mint_of_signingPair hpair authority user roles hexpires
  cases hsign : pair.key.sign message with
  | ok signature => exact .inl (hsucceeds signature hsign)
  | error fault => exact .inr ⟨fault, hfails fault hsign⟩

theorem exists_mint_of_fits (h1 : pair.key.factor1.Prime) (h2 : pair.key.factor2.Prime) (hfits : pair.key.Fits)
    (hexpires : (now.startOfSecond.add? authority.lifetime).isSome = true) :
    ∃ minted, authority.mint registry user roles now = .ok minted := by
  obtain ⟨message, hsucceeds, _⟩ := mint_of_signingPair hpair authority user roles hexpires
  obtain ⟨signature, hsign⟩ := (Rsa.PrivateKey.exists_sign_iff h1 h2 pair.coprime message).2 hfits
  exact hsucceeds signature hsign

theorem fits_of_mint {minted : String × Claims} (h : authority.mint registry user roles now = .ok minted) :
    pair.key.Fits := by
  have hissue := (stamp?_of_mint h).2
  rw [issue, hpair] at hissue
  cases hsign : pair.key.sign (signedMessage pair minted.2) with
  | ok signature => exact Rsa.PrivateKey.fits_of_sign hsign
  | error fault =>
      have hfails := (signWith_of_error hsign).symm.trans hissue
      cases hfails

end

end Authority

/-! ## Started servers -/

namespace Startup

variable {world : Surroundings} {settings : Settings} {registry : Registry} {ready : Ready}

/-- The registry and the settings are put in place as they are, and with an e-mail address comes a token. -/
theorem ready_of_prepareUsers (h : (prepareUsers world settings registry).result = .ok ready) :
    ready.settings = settings ∧ ready.service.registry = registry ∧
      (settings.bootstrapEmail ≠ none → ready.token ≠ none) := by
  unfold prepareUsers at h
  simp only at h
  split at h
  · rename_i hemail
    cases h
    exact ⟨rfl, rfl, fun hset => absurd hemail hset⟩
  · split at h
    · cases h
    · cases h
      exact ⟨rfl, rfl, fun _ => Option.some_ne_none _⟩

theorem signingPair_of_start (h : (start world).result = .ok ready) :
    (∃ pair, ready.service.registry.signingPair = .ok pair) ∧
      (ready.settings.bootstrapEmail ≠ none → ready.token ≠ none) := by
  unfold start at h
  split at h
  · cases h
  · unfold startWith at h
    split at h
    · cases h
    · simp only at h
      split at h
      · cases h
      · rename_i registry _ pair hpair
        obtain ⟨rfl, rfl, htoken⟩ := ready_of_prepareUsers h
        exact ⟨⟨pair, hpair⟩, htoken⟩

/-- A server that has started has a pair to sign with, so that what fails to be minted fails for its signature. A token
is minted only with a key of the lengths that signing asks for, and is minted always if the factors of such a key are
prime. A start has made sure of the lengths only if it has minted a token for a first administrator. -/
theorem mint_of_start (h : (start world).result = .ok ready) :
    ∃ pair, ready.service.registry.signingPair = .ok pair ∧
      (ready.settings.bootstrapEmail ≠ none → pair.key.Fits) ∧
      ∀ user roles now, (now.startOfSecond.add? ready.settings.lifetime).isSome = true →
        ((∃ minted, ready.service.authority.mint ready.service.registry user roles now = .ok minted) ∨
          ∃ fault, ready.service.authority.mint ready.service.registry user roles now = .error (.signing fault)) ∧
        ((∃ minted, ready.service.authority.mint ready.service.registry user roles now = .ok minted) →
          pair.key.Fits) ∧
        (pair.key.factor1.Prime → pair.key.factor2.Prime → pair.key.Fits →
          ∃ minted, ready.service.authority.mint ready.service.registry user roles now = .ok minted) := by
  obtain ⟨⟨pair, hpair⟩, htoken⟩ := signingPair_of_start h
  have hassembled := assembled_of_start h
  refine ⟨pair, hpair, fun hemail => ?_, fun user roles now hexpires => ?_⟩
  · rcases hassembled.users with ⟨hnone, _⟩ | ⟨_, _, _, _, _, hmint⟩
    · exact absurd hnone (htoken hemail)
    · exact Authority.fits_of_mint hpair hmint
  · have hlifetime : ready.service.authority.lifetime = ready.settings.lifetime := by rw [hassembled.authority]
    rw [← hlifetime] at hexpires
    refine ⟨Authority.mint_ok_or_signing hpair hexpires, ?_, fun h1 h2 hfits => ?_⟩
    · rintro ⟨minted, hmint⟩
      exact Authority.fits_of_mint hpair hmint
    · exact Authority.exists_mint_of_fits hpair h1 h2 hfits hexpires

/-! ## A sample -/

/-- Odd numbers just below the 512th power of two. -/
def shortFactor (distance : Nat) : Nat := Nat.pow 2 512 - distance

/-- A key of 1024 bits. -/
def shortKey : Rsa.PrivateKey where
  modulus := shortFactor 569 * shortFactor 629
  publicExponent := 65537
  privateExponent := (22004 * ((shortFactor 569 - 1) * (shortFactor 629 - 1)) + 1) / 65537
  factor1 := shortFactor 569
  factor2 := shortFactor 629
  consistent := by decide +kernel

theorem shortKey_coprime : Nat.Coprime shortKey.factor1 shortKey.factor2 := by decide +kernel

/-- The key file of the short key. -/
def shortPem : String :=
  Pem.write "RSA PRIVATE KEY" (Der.element Der.sequenceTag ([0, shortKey.modulus, shortKey.publicExponent,
    shortKey.privateExponent, shortKey.factor1, shortKey.factor2, 0, 0, 0].flatMap Der.integer))

theorem ofPem?_shortPem : Rsa.PrivateKey.ofPem? shortPem = some shortKey :=
  ofPem?_write (List.cons_ne_nil _ _) (by decide +kernel)

/-- Surroundings without an e-mail address for an administrator, and with a short key. -/
def shortWorld : Surroundings where
  variableValue name := if name = Settings.kidVariable then some "k" else none
  list _ := .ok [⟨"k.pem", some (Text.Utf8.bytes shortPem)⟩]
  creation := sampleTime
  issue := sampleTime
  freshId := ⟨7⟩

/-- The settings that are read there. -/
def shortSettings : Settings := { sampleSettings with bootstrapEmail := none }

/-- The short key under its id. -/
def shortPair : KeyPair := ⟨"k", shortKey, shortKey_coprime⟩

/-- A registry of the short key alone, which is active. -/
def shortRegistry : Registry := ⟨⟨[shortPair], by simp⟩, "k"⟩

/-- The server as it stands ready with the short key. -/
def shortReady : Ready :=
  ⟨shortSettings, ⟨⟨"medisync", shortSettings.lifetime⟩, shortRegistry, .memory .empty⟩, none⟩

theorem signingPair_short : shortRegistry.signingPair = .ok shortPair := by
  simp [Registry.signingPair, KeySet.find?, shortRegistry, shortPair]

/-- The start finds nothing wrong with the short key. -/
theorem start_short : (start shortWorld).result = .ok shortReady := by
  have hread : Settings.read shortWorld.variableValue = .ok shortSettings := by decide +kernel
  have hkeys : KeySet.load (Directory.read "keys" (.ok [⟨"k.pem", some (Text.Utf8.bytes shortPem)⟩])) =
      .ok shortRegistry.keys :=
    load_directory (by decide +kernel) ofPem?_shortPem shortKey_coprime
  have hload : Registry.load ((KeySource.directory "keys").read shortWorld.list) "k" = .ok shortRegistry := by
    rw [Registry.load, KeySource.read, shortWorld, hkeys]
    rfl
  exact start_eq_ok_of_emailless hread hload signingPair_short rfl

theorem byteLength_short : Unsigned.byteLength shortKey.modulus = 128 := by decide +kernel

theorem not_fits_short : ¬ shortKey.Fits := by
  intro h
  have hwide := h.wide
  rw [byteLength_short] at hwide
  exact absurd hwide (by decide)

theorem sign_short (message : List UInt8) : shortKey.sign message = .error .tooSmall := by
  have hsize : shortKey.checkSize = .error .tooSmall := by
    rw [Rsa.PrivateKey.checkSize, byteLength_short]
    rfl
  rw [Rsa.PrivateKey.sign, hsize]
  rfl

/-- A server has started with the short key, and never mints a token. -/
theorem mint_of_start_short : (start shortWorld).result = .ok shortReady ∧
    ∀ user roles now, (now.startOfSecond.add? shortSettings.lifetime).isSome = true →
      ∃ fault, shortReady.service.authority.mint shortRegistry user roles now = .error (.signing fault) := by
  refine ⟨start_short, fun user roles now hexpires => ?_⟩
  obtain ⟨pair, hpair, _, hmints⟩ := mint_of_start start_short
  obtain ⟨hcases, hfits, _⟩ := hmints user roles now hexpires
  have hsame : shortPair = pair := Except.ok.inj (signingPair_short.symm.trans hpair)
  subst hsame
  exact hcases.resolve_left fun hminted => not_fits_short (hfits hminted)

/-- The first token that is asked for is refused as the key is too small, which the start could have found. -/
theorem start_with_short_key : ∃ ready, (start shortWorld).result = .ok ready ∧ ready.settings.bootstrapEmail = none ∧
    (sampleTime.startOfSecond.add? ready.settings.lifetime).isSome = true ∧
    ready.service.authority.mint ready.service.registry ⟨7⟩ (.ofList [.user]) sampleTime =
      .error (.signing .tooSmall) := by
  have hadd : sampleTime.startOfSecond.add? shortSettings.lifetime = some sampleClaims.expiresAt := by decide +kernel
  have hexpires : (sampleTime.startOfSecond.add? shortSettings.lifetime).isSome = true := by
    rw [hadd, Option.isSome_some]
  obtain ⟨message, _, hfails⟩ :=
    Authority.mint_of_signingPair signingPair_short shortReady.service.authority ⟨7⟩ (.ofList [.user]) hexpires
  exact ⟨shortReady, start_short, rfl, hexpires, hfails _ (sign_short message)⟩

end Startup

end TokenAuthority
