import TokenAuthority.Proofs.Keys.Views
import TokenAuthority.Proofs.Startup
import TokenAuthority.Proofs.Token.Precision
import TokenAuthority.Proofs.Users.Registration

/-!
# What a start depends on

A server starts if and only if its settings are accepted, its keys are loaded, its active key is among them, and, where
it is to have a first administrator, the address is one and a token can be minted. Otherwise it stops at the first of
these that fails, and prints no token. Main statement: `Startup.start_or_first_failure`.
-/

namespace TokenAuthority

/-- A token that is minted for as long as some settings say verifies until it expires, to its claims as they are sent.
This holds in leap seconds as well. -/
theorem Authority.verify_until_expiry {authority : Authority} {registry : Registry} {user : UserId} {roles : RoleSet}
    {now : Instant} {token : String} {claims : Claims} {settings : Settings}
    (hlifetime : authority.lifetime = settings.lifetime)
    (hmint : authority.mint registry user roles now = .ok (token, claims)) :
    now < claims.onWire.expiresAt ∧
      ∀ t, t < claims.onWire.expiresAt → authority.verify registry token t = .ok claims.onWire := by
  have hpos : (0 : Int) < settings.lifetimeSeconds := Int.natCast_pos.2 settings.lifetime_pos
  have hexpires : claims.onWire.expiresAt.seconds = now.seconds + settings.lifetimeSeconds := by
    obtain ⟨expiresAt, hadd, rfl⟩ := Option.map_eq_some_iff.1 (stamp?_of_mint hmint).1
    rw [hlifetime] at hadd
    show expiresAt.seconds = now.seconds + settings.lifetimeSeconds
    exact Instant.seconds_of_add? settings.lifetime_pos rfl hadd
  have hissued : claims.onWire.issuedAt.seconds = now.seconds := by
    obtain ⟨expiresAt, _, rfl⟩ := Option.map_eq_some_iff.1 (stamp?_of_mint hmint).1
    rfl
  have hwindow : claims.onWire.issuedAt < claims.onWire.expiresAt := Instant.lt_of_seconds_lt (by omega)
  refine ⟨Instant.lt_of_seconds_lt (by omega), fun t ht => ?_⟩
  rw [verify_of_issue (issuer_of_mint hmint) (stamp?_of_mint hmint).2, if_pos hwindow, if_pos ht]

namespace Startup

variable {world : Surroundings} {settings : Settings} {keys : KeySet} {failure : Failure}

/-! ## The conditions -/

/-- The request to register the first administrator. -/
def firstRequest (email : String) : NewUser := ⟨email, administratorName, [.admin, .user]⟩

/-- The first administrator's token, if it can be minted. -/
def mintFirst (world : Surroundings) (settings : Settings) (keys : KeySet) : Except TokenError (String × Claims) :=
  Authority.mint ⟨settings.issuer, settings.lifetime⟩ ⟨keys, settings.activeKid⟩ world.freshId
    (.ofList [.admin, .user]) world.issue

/-- Settings that are read, and keys that are loaded from the directory they name. -/
structure Provides (world : Surroundings) (settings : Settings) (keys : KeySet) : Prop where
  read : Settings.read world.variableValue = .ok settings
  load : KeySet.load (Directory.read settings.keysDirectory (world.list settings.keysDirectory)) = .ok keys

/-- The active key is among the keys. -/
def ActiveIn (settings : Settings) (keys : KeySet) : Prop := ∃ pair ∈ keys.pairs, pair.kid = settings.activeKid

/-- What a start needs: an administrator only where there is to be one. -/
structure Suffices (world : Surroundings) (settings : Settings) (keys : KeySet) : Prop where
  provided : Provides world settings keys
  active : ActiveIn settings keys
  addressed : ∀ email, settings.bootstrapEmail = some email → (firstRequest email).Addressed
  minted : settings.bootstrapEmail ≠ none → ∃ minted, mintFirst world settings keys = .ok minted

/-- The first condition that fails, as the failure that tells of it. -/
inductive Stops (world : Surroundings) : Failure → Prop
  | settings {error : Settings.Error} (h : Settings.read world.variableValue = .error error) :
      Stops world (.settings error)
  | keys {settings : Settings} {error : KeyError} (hread : Settings.read world.variableValue = .ok settings)
      (h : KeySet.load (Directory.read settings.keysDirectory (world.list settings.keysDirectory)) = .error error) :
      Stops world (.keys settings.keysDirectory error)
  | activeKey {settings : Settings} {keys : KeySet} (hprovided : Provides world settings keys)
      (h : ¬ ActiveIn settings keys) : Stops world (.activeKey (.notRegistered settings.activeKid))
  | administrator {settings : Settings} {keys : KeySet} {email : String} (hprovided : Provides world settings keys)
      (hactive : ActiveIn settings keys) (hemail : settings.bootstrapEmail = some email)
      (h : ¬ (firstRequest email).Addressed) : Stops world (.administrator (.invalid (.validation .email)))
  | token {settings : Settings} {keys : KeySet} {email : String} {error : TokenError}
      (hprovided : Provides world settings keys) (hactive : ActiveIn settings keys)
      (hemail : settings.bootstrapEmail = some email) (haddressed : (firstRequest email).Addressed)
      (h : mintFirst world settings keys = .error error) : Stops world (.token error)

theorem suffices_or_stops_of_active (hprovided : Provides world settings keys) (hactive : ActiveIn settings keys) :
    Suffices world settings keys ∨ ∃ failure, Stops world failure := by
  cases hemail : settings.bootstrapEmail with
  | none => exact .inl ⟨hprovided, hactive, by simp [hemail], fun hset => absurd hemail hset⟩
  | some email =>
      by_cases haddressed : (firstRequest email).Addressed
      · cases hmint : mintFirst world settings keys with
        | error error => exact .inr ⟨_, .token hprovided hactive hemail haddressed hmint⟩
        | ok minted =>
            refine .inl ⟨hprovided, hactive, fun other hother => ?_, fun _ => ⟨minted, hmint⟩⟩
            rw [hemail] at hother
            exact Option.some.inj hother ▸ haddressed
      · exact .inr ⟨_, .administrator hprovided hactive hemail haddressed⟩

theorem suffices_or_stops (world : Surroundings) :
    (∃ settings keys, Suffices world settings keys) ∨ ∃ failure, Stops world failure := by
  cases hread : Settings.read world.variableValue with
  | error error => exact .inr ⟨_, .settings hread⟩
  | ok settings =>
      cases hload : KeySet.load (Directory.read settings.keysDirectory (world.list settings.keysDirectory)) with
      | error error => exact .inr ⟨_, .keys hread hload⟩
      | ok keys =>
          by_cases hactive : ActiveIn settings keys
          · exact (suffices_or_stops_of_active ⟨hread, hload⟩ hactive).imp_left fun h => ⟨settings, keys, h⟩
          · exact .inr ⟨_, .activeKey ⟨hread, hload⟩ hactive⟩

/-! ## Steps -/

theorem signingPair_of_activeIn (h : ActiveIn settings keys) :
    ∃ pair, (⟨keys, settings.activeKid⟩ : Registry).signingPair = .ok pair :=
  Registry.signs_iff.2 h

theorem signingPair_of_not_activeIn (h : ¬ ActiveIn settings keys) :
    (⟨keys, settings.activeKid⟩ : Registry).signingPair = .error (.notRegistered settings.activeKid) := by
  cases hpair : (⟨keys, settings.activeKid⟩ : Registry).signingPair with
  | ok pair => exact absurd (Registry.signs_iff.1 ⟨pair, hpair⟩) h
  | error error =>
      unfold Registry.signingPair at hpair
      split at hpair
      · cases hpair
      · cases hpair
        rfl

theorem Provides.registry_load (h : Provides world settings keys) :
    Registry.load ((KeySource.directory settings.keysDirectory).read world.list) settings.activeKid =
      .ok ⟨keys, settings.activeKid⟩ := by
  rw [Registry.load, KeySource.read, h.load]
  rfl

theorem result_of_active (hprovided : Provides world settings keys) (hactive : ActiveIn settings keys) :
    (start world).result = (prepareUsers world settings ⟨keys, settings.activeKid⟩).result := by
  obtain ⟨pair, hpair⟩ := signingPair_of_activeIn hactive
  simp only [start, hprovided.read, startWith, hprovided.registry_load, hpair]

/-- The first administrator. -/
def firstAdministrator (world : Surroundings) (email : String) : User :=
  (firstRequest email).asUser world.freshId world.creation

theorem create_of_addressed {email : String} (h : (firstRequest email).Addressed) :
    UserTable.empty.create (firstRequest email) world.freshId world.creation =
      .ok (firstAdministrator world email, UserTable.empty.insert (firstAdministrator world email)) := by
  have hname : 'B' ∈ administratorName.toList := by decide
  have hfree : UserTable.empty.Free (NewUser.normalizeEmail (firstRequest email).email) := by
    simp [UserTable.Free, UserTable.empty]
  exact UserTable.create_of_acceptable ⟨h, ⟨'B', hname, by decide⟩, List.cons_ne_nil _ _⟩ hfree

theorem create_of_not_addressed {email : String} (h : ¬ (firstRequest email).Addressed) :
    UserTable.empty.create (firstRequest email) world.freshId world.creation = .error (.invalid (.validation .email)) :=
  UserTable.create_of_refuses (.invalid (.email h))

/-! ## Where a start stops -/

section

variable {email : String} (hemail : settings.bootstrapEmail = some email)
include hemail

theorem prepareUsers_of_not_addressed (h : ¬ (firstRequest email).Addressed) :
    (prepareUsers world settings ⟨keys, settings.activeKid⟩).result =
      .error (.administrator (.invalid (.validation .email))) := by
  have hcreate : UserTable.empty.create ⟨email, administratorName, [.admin, .user]⟩ world.freshId world.creation =
      .error (.invalid (.validation .email)) := create_of_not_addressed h
  simp only [prepareUsers, hemail, createAdministrator, hcreate]

theorem prepareUsers_of_mint_error {error : TokenError} (haddressed : (firstRequest email).Addressed)
    (h : mintFirst world settings keys = .error error) :
    (prepareUsers world settings ⟨keys, settings.activeKid⟩).result = .error (.token error) := by
  have hcreate : UserTable.empty.create ⟨email, administratorName, [.admin, .user]⟩ world.freshId world.creation =
      .ok (firstAdministrator world email, UserTable.empty.insert (firstAdministrator world email)) :=
    create_of_addressed haddressed
  have hmint : Authority.mint ⟨settings.issuer, settings.lifetime⟩ ⟨keys, settings.activeKid⟩
      (firstAdministrator world email).id (firstAdministrator world email).roles world.issue = .error error := h
  simp only [prepareUsers, hemail, createAdministrator, hcreate, hmint]

end

theorem result_of_stops (h : Stops world failure) : (start world).result = .error failure := by
  cases h with
  | settings hread => simp only [start, hread]
  | @keys settings error hread hload =>
      have hregistry : Registry.load ((KeySource.directory settings.keysDirectory).read world.list)
          settings.activeKid = .error error := by
        rw [Registry.load, KeySource.read, hload]
        rfl
      simp only [start, hread, startWith, hregistry]
  | activeKey hprovided hinactive =>
      simp only [start, hprovided.read, startWith, hprovided.registry_load, signingPair_of_not_activeIn hinactive]
  | administrator hprovided hactive hemail hinvalid =>
      rw [result_of_active hprovided hactive, prepareUsers_of_not_addressed hemail hinvalid]
  | token hprovided hactive hemail haddressed hmint =>
      rw [result_of_active hprovided hactive, prepareUsers_of_mint_error hemail haddressed hmint]

/-! ## What a start leads to -/

/-- The server that starts, with its users and the token of the first of them. -/
def readyWith (settings : Settings) (keys : KeySet) (users : UserTable) (token : Option String) : Ready :=
  ⟨settings, ⟨⟨settings.issuer, settings.lifetime⟩, ⟨keys, settings.activeKid⟩, .memory users⟩, token⟩

theorem result_of_suffices_emailless (h : Suffices world settings keys) (hemail : settings.bootstrapEmail = none) :
    (start world).result = .ok (readyWith settings keys .empty none) := by
  obtain ⟨pair, hpair⟩ := signingPair_of_activeIn h.active
  exact start_eq_ok_of_emailless h.provided.read h.provided.registry_load hpair hemail

theorem result_of_suffices {email token : String} {claims : Claims} (h : Suffices world settings keys)
    (hemail : settings.bootstrapEmail = some email) (hmint : mintFirst world settings keys = .ok (token, claims)) :
    (start world).result =
      .ok (readyWith settings keys (UserTable.empty.insert (firstAdministrator world email)) (some token)) := by
  obtain ⟨pair, hpair⟩ := signingPair_of_activeIn h.active
  exact start_eq_ok h.provided.read h.provided.registry_load hpair hemail
    (create_of_addressed (h.addressed email hemail)) hmint

/-- The users of a server are one administrator with an address, for whom a token speaks from its issue until it
expires. -/
structure Administers (world : Surroundings) (ready : Ready) (email token : String) (admin : User) (claims : Claims) :
    Prop where
  users : ∃ table : UserTable, ready.service.users = .memory table ∧ table.users = [admin]
  address : admin.email = NewUser.normalizeEmail email
  roles : admin.roles = .ofList [.admin, .user]
  subject : claims.subject = admin.id
  claimed : claims.roles = admin.roles
  issuer : claims.issuer = ready.settings.issuer
  current : world.issue < claims.expiresAt
  verifies : ∀ t, t < claims.expiresAt → ready.service.authority.verify ready.service.registry token t = .ok claims

theorem administers_of_mintFirst {email token : String} {claims : Claims}
    (hmint : mintFirst world settings keys = .ok (token, claims)) :
    Administers world
      (readyWith settings keys (UserTable.empty.insert (firstAdministrator world email)) (some token)) email token
      (firstAdministrator world email) claims.onWire := by
  obtain ⟨hcurrent, hverifies⟩ := Authority.verify_until_expiry rfl hmint
  obtain ⟨hsubject, hroles⟩ := Authority.subject_roles_of_mint hmint
  constructor
  case users => exact ⟨_, rfl, rfl⟩
  case address => rfl
  case roles => rfl
  case subject => exact hsubject
  case claimed => exact hroles
  case issuer => exact Authority.issuer_of_mint hmint
  case current => exact hcurrent
  case verifies => exact hverifies

/-- What a start that has what it needs leads to. -/
structure Started (world : Surroundings) (ready : Ready) (keys : KeySet) : Prop where
  suffices_keys : Suffices world ready.settings keys
  registry : ready.service.registry = ⟨keys, ready.settings.activeKid⟩
  emailless : ready.settings.bootstrapEmail = none →
    ready.service.users = .memory .empty ∧ (start world).printed = none
  administered : ∀ email, ready.settings.bootstrapEmail = some email →
    ∃ token admin claims, (start world).printed = some token ∧ Administers world ready email token admin claims

theorem printed_of_result {ready : Ready} (h : (start world).result = .ok ready) :
    (start world).printed = ready.token := by
  rw [Outcome.printed, h]

theorem exists_started (h : Suffices world settings keys) :
    ∃ ready, (start world).result = .ok ready ∧ Started world ready keys := by
  cases hemail : settings.bootstrapEmail with
  | none =>
      have hresult := result_of_suffices_emailless h hemail
      refine ⟨_, hresult, h, rfl, fun _ => ⟨rfl, printed_of_result hresult⟩, fun email hset => ?_⟩
      rw [readyWith, hemail] at hset
      cases hset
  | some email =>
      obtain ⟨⟨token, claims⟩, hmint⟩ := h.minted (by simp [hemail])
      have hresult := result_of_suffices h hemail hmint
      refine ⟨_, hresult, h, rfl, fun hnone => ?_, fun other hset => ?_⟩
      · rw [readyWith, hemail] at hnone
        cases hnone
      · rw [readyWith, hemail] at hset
        cases hset
        exact ⟨token, _, _, printed_of_result hresult, administers_of_mintFirst hmint⟩

/-- A server starts if and only if all that it needs is there. Its registry then has the keys of the directory, and it
has no users, or the first administrator alone, whose token is printed and verifies from its issue until it expires.
Otherwise the failure is that of the first condition that fails, and no token is printed. -/
theorem start_or_first_failure (world : Surroundings) :
    ((∃ ready, (start world).result = .ok ready) ↔ ∃ settings keys, Suffices world settings keys) ∧
    (∀ ready, (start world).result = .ok ready → ∃ keys, Started world ready keys) ∧
    (∀ failure, (start world).result = .error failure ↔ Stops world failure) ∧
    ∀ failure, Stops world failure → (start world).printed = none := by
  rcases suffices_or_stops world with ⟨settings, keys, hsuffices⟩ | ⟨first, hfirst⟩
  · obtain ⟨ready, hresult, hstarted⟩ := exists_started hsuffices
    have hnever (failure : Failure) (hstops : Stops world failure) : False := by
      have herror := result_of_stops hstops
      rw [hresult] at herror
      cases herror
    refine ⟨⟨fun _ => ⟨settings, keys, hsuffices⟩, fun _ => ⟨ready, hresult⟩⟩, fun other hother => ?_,
      fun failure => ⟨fun herror => ?_, fun hstops => (hnever failure hstops).elim⟩,
      fun failure hstops => (hnever failure hstops).elim⟩
    · rw [hresult] at hother
      cases hother
      exact ⟨keys, hstarted⟩
    · rw [hresult] at herror
      cases herror
  · have hresult := result_of_stops hfirst
    refine ⟨⟨?_, ?_⟩, fun ready hready => ?_, fun failure => ⟨fun herror => ?_, result_of_stops⟩, fun _ _ => ?_⟩
    · rintro ⟨ready, hready⟩
      rw [hresult] at hready
      cases hready
    · rintro ⟨settings, keys, hsuffices⟩
      obtain ⟨ready, hready, _⟩ := exists_started hsuffices
      rw [hresult] at hready
      cases hready
    · rw [hresult] at hready
      cases hready
    · rw [hresult] at herror
      exact Except.error.inj herror ▸ hfirst
    · rw [Outcome.printed, hresult]

/-- The sample surroundings with nothing in the key directory. -/
def emptiedWorld : Surroundings := { sampleWorld with list := fun _ => .ok [] }

/-- The sample surroundings have what a start needs. A start without keys prints no token. -/
theorem start_or_first_failure_sample : (∃ settings keys, Suffices sampleWorld settings keys) ∧
    Stops emptiedWorld (.keys "keys" .noKeys) ∧ (start emptiedWorld).printed = none := by
  obtain ⟨text, _, hresult⟩ := start_sample
  obtain ⟨hsuffices, _⟩ := start_or_first_failure sampleWorld
  obtain ⟨_, _, _, hprints⟩ := start_or_first_failure emptiedWorld
  have hread : Settings.read emptiedWorld.variableValue = .ok sampleSettings := read_sample
  have hload : KeySet.load (Directory.read sampleSettings.keysDirectory
      (emptiedWorld.list sampleSettings.keysDirectory)) = .error .noKeys := by
    simp [emptiedWorld, Directory.read, KeySet.load]
  have hstops : Stops emptiedWorld (.keys "keys" .noKeys) := .keys hread hload
  exact ⟨hsuffices.1 ⟨_, hresult⟩, hstops, hprints _ hstops⟩

end Startup

end TokenAuthority
