import TokenAuthority.Proofs.Token.Minting
import TokenAuthority.Proofs.Token.NamedKey

/-!
# How long a minted token holds

A token minted under the settings of a server is accepted from the start and expires as many seconds after the start
of its second as the settings say, at that instant and not before. Main statement: `Authority.verify_mint`.
-/

namespace TokenAuthority

/-! ## Settings -/

theorem Settings.issuer_of_read {lookup : String → Option String} {settings : Settings}
    (h : read lookup = .ok settings) : settings.issuer = (value? lookup issuerVariable).getD "medisync" := by
  obtain ⟨_, _, h⟩ := Outcome.bind_eq_ok.1 h
  obtain ⟨_, _, h⟩ := Outcome.bind_eq_ok.1 h
  split at h
  · cases h
    rfl
  · cases h

namespace Authority

variable {authority : Authority} {registry : Registry} {token : String} {now : Instant} {claims : Claims}

/-! ## Accepted tokens in time -/

theorem checkWindow_of_expired (hwindow : claims.issuedAt < claims.expiresAt) (hexpired : claims.expiresAt ≤ now) :
    checkWindow claims now = .error .expired := by
  have hopen : ¬ claims.expiresAt ≤ claims.issuedAt := fun hle => hle hwindow
  rw [checkWindow, Claims.checkWindow, if_neg hopen, if_pos hexpired]

/-- A token that is accepted at one instant is accepted at each before its expiry and has expired at all others. -/
theorem Accepted.verify_eq {s : Segments} {pair : KeyPair} (h : Accepted authority registry token now claims s pair)
    (t : Instant) :
    authority.verify registry token t = if t < claims.expiresAt then .ok claims else .error .expired := by
  split
  · rename_i hcurrent
    exact verify_of_accepted { h with current := hcurrent }
  · rename_i hexpired
    have hsigned := checkSignature_eq_ok_iff.2 h.signed
    have hread := readClaims_eq_ok_iff.2 h.said
    have hwindow := checkWindow_of_expired h.window hexpired
    rw [verify_of_registered h.composed h.named (Registry.publicKey?_of_mem h.registered), checkUnder, hsigned]
    simp only [hread, hwindow, bind, Except.bind]

/-! ## Minted tokens -/

/-- The claims that are stamped for a lifetime of whole seconds, other than in a leap second. -/
theorem times_of_mint {settings : Settings} {user : UserId} {roles : RoleSet}
    (hlifetime : authority.lifetime = settings.lifetime) (hleap : now.isLeap = false)
    (hmint : authority.mint registry user roles now = .ok (token, claims)) :
    claims.issuedAt.seconds = now.seconds ∧ claims.issuedAt.nanoseconds = 0 ∧
      claims.expiresAt.seconds = now.seconds + settings.lifetimeSeconds ∧ claims.expiresAt.nanoseconds = 0 := by
  obtain ⟨expiresAt, hadd, rfl⟩ := Option.map_eq_some_iff.1 (stamp?_of_mint hmint).1
  rw [hlifetime] at hadd
  refine ⟨rfl, Instant.nanoseconds_startOfSecond hleap, ?_, ?_⟩
  · exact Instant.seconds_of_add? settings.lifetime_pos rfl hadd
  · exact Instant.nanoseconds_of_add? settings.lifetime_pos rfl hadd

theorem issuer_of_mint {user : UserId} {roles : RoleSet}
    (hmint : authority.mint registry user roles now = .ok (token, claims)) : claims.issuer = authority.issuer := by
  obtain ⟨expiresAt, _, rfl⟩ := Option.map_eq_some_iff.1 (stamp?_of_mint hmint).1
  rfl

/-- A token that is minted under the settings a server has read is accepted with the claims it was minted for until
the lifetime has passed since the start of its second, and has expired from then on. It holds at the instant it is
minted. Its claims are about the user it was minted for, with that user's roles, and from the issuer of the settings. -/
theorem verify_mint {lookup : String → Option String} {settings : Settings} {user : UserId} {roles : List Role}
    (hread : Settings.read lookup = .ok settings) (hleap : now.isLeap = false)
    (hmint : mint ⟨settings.issuer, settings.lifetime⟩ registry user (.ofList roles) now = .ok (token, claims)) :
    claims.expiresAt.seconds = now.seconds + settings.lifetimeSeconds ∧ claims.expiresAt.nanoseconds = 0 ∧
    now < claims.expiresAt ∧
    (∀ t, t < claims.expiresAt → verify ⟨settings.issuer, settings.lifetime⟩ registry token t = .ok claims) ∧
    (∀ t, claims.expiresAt ≤ t → verify ⟨settings.issuer, settings.lifetime⟩ registry token t = .error .expired) ∧
    claims.subject = user ∧ (∀ role, role ∈ claims.roles ↔ role ∈ roles) ∧
    claims.issuer = (Settings.value? lookup Settings.issuerVariable).getD "medisync" := by
  have hpos : (0 : Int) < settings.lifetimeSeconds := Int.natCast_pos.2 settings.lifetime_pos
  obtain ⟨hissuedSeconds, hissuedNanos, hseconds, hnanos⟩ := times_of_mint rfl hleap hmint
  have hcurrent : now < claims.expiresAt := Instant.lt_of_seconds_lt (by omega)
  have hwindow : claims.issuedAt < claims.expiresAt := Instant.lt_of_seconds_lt (by omega)
  obtain ⟨s, pair, haccepted⟩ := accepted_of_issue hissuedNanos hnanos (issuer_of_mint hmint) hwindow
    (stamp?_of_mint hmint).2 hcurrent
  obtain ⟨hsubject, hroles⟩ := subject_roles_of_mint hmint
  refine ⟨hseconds, hnanos, hcurrent, fun t ht => ?_, fun t ht => ?_, hsubject, fun role => ?_, ?_⟩
  · rw [haccepted.verify_eq, if_pos ht]
  · rw [haccepted.verify_eq, if_neg ht]
  · rw [hroles, RoleSet.mem_ofList]
  · rw [issuer_of_mint hmint]
    exact Settings.issuer_of_read hread

/-! ## A sample -/

/-- Settings with the shortest lifetime. -/
def shortLookup (name : String) : Option String :=
  if name = Settings.kidVariable then some "k" else if name = Settings.lifetimeVariable then some " 1 " else none

/-- The settings that this look-up gives. -/
def shortSettings : Settings where
  listenAddress := .v4 [0, 0, 0, 0] 3000
  keysDirectory := "keys"
  activeKid := "k"
  issuer := "medisync"
  lifetimeSeconds := 1
  bootstrapEmail := none
  lifetime_pos := by decide
  lifetime_le := by decide

theorem read_shortLookup : Settings.read shortLookup = .ok shortSettings := by decide +kernel

/-- The last nanosecond before 1970. -/
def beforeEpoch : Instant := ⟨-1, 999999999, by decide, by decide, by decide, by decide⟩

theorem exists_mint_short : ∃ minted, mint ⟨shortSettings.issuer, shortSettings.lifetime⟩ (sampleRegistry "k") ⟨7⟩
    (.ofList [.user, .user]) beforeEpoch = .ok minted :=
  Outcome.exists_of_isSome (by decide +kernel)

/-- Minted a nanosecond before it expires, a token holds that long. -/
theorem verify_mint_short : ∃ token claims,
    mint ⟨shortSettings.issuer, shortSettings.lifetime⟩ (sampleRegistry "k") ⟨7⟩ (.ofList [.user, .user]) beforeEpoch =
      .ok (token, claims) ∧
    verify ⟨shortSettings.issuer, shortSettings.lifetime⟩ (sampleRegistry "k") token beforeEpoch = .ok claims ∧
    verify ⟨shortSettings.issuer, shortSettings.lifetime⟩ (sampleRegistry "k") token
      (.atSecond 0 (by decide) (by decide)) = .error .expired := by
  obtain ⟨⟨token, claims⟩, hmint⟩ := exists_mint_short
  obtain ⟨hseconds, hnanos, hcurrent, hholds, hexpired, _⟩ := verify_mint read_shortLookup rfl hmint
  refine ⟨token, claims, hmint, hholds _ hcurrent, hexpired _ fun hlt => ?_⟩
  rw [Instant.lt_iff, hseconds, hnanos] at hlt
  revert hlt
  decide

end Authority

end TokenAuthority
