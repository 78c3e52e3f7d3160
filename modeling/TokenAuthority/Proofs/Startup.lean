import TokenAuthority.Proofs.Encoding.Armour
import TokenAuthority.Proofs.Keys.Loading
import TokenAuthority.Proofs.Token.Issuance
import TokenAuthority.Proofs.Users.Tables
import TokenAuthority.Startup

/-!
# Started servers

What a server that has started holds: no users and no token, or the first administrator alone and a token minted
for that user. Main statement: `Startup.assembled_of_start`.
-/

namespace TokenAuthority.Startup

variable {world : Surroundings} {settings : Settings} {authority : Authority} {registry : Registry} {ready : Ready}

/-- The administrator who is created and the token that is minted. -/
theorem createAdministrator_eq_ok {email text : String} {users : UserTable}
    (h : (createAdministrator world authority registry email).2 = .ok (users, text)) :
    ∃ admin claims, users = UserTable.empty.insert admin ∧ admin.id = world.freshId ∧
      authority.mint registry admin.id admin.roles world.issue = .ok (text, claims) := by
  unfold createAdministrator at h
  split at h
  · cases h
  · rename_i admin table hcreate
    obtain ⟨hid, htable⟩ := UserTable.of_create hcreate
    simp only at h
    split at h
    · cases h
    · rename_i token claims hmint
      cases h
      exact ⟨admin, claims, htable, hid, hmint⟩

/-- How a server is put together from its settings and its registry. -/
structure Assembled (world : Surroundings) (ready : Ready) : Prop where
  authority : ready.service.authority = ⟨ready.settings.issuer, ready.settings.lifetime⟩
  users : (ready.token = none ∧ ready.service.users = .memory .empty) ∨
    ∃ text admin claims, ready.token = some text ∧
      ready.service.users = .memory (UserTable.empty.insert admin) ∧
      ready.service.authority.mint ready.service.registry admin.id admin.roles world.issue = .ok (text, claims)

theorem assembled_of_prepareUsers (h : (prepareUsers world settings registry).result = .ok ready) :
    Assembled world ready := by
  unfold prepareUsers at h
  simp only at h
  split at h
  · cases h
    exact ⟨rfl, .inl ⟨rfl, rfl⟩⟩
  · split at h
    · cases h
    · rename_i log users text hcreate
      cases h
      obtain ⟨admin, claims, rfl, _, hmint⟩ := createAdministrator_eq_ok (congrArg Prod.snd hcreate)
      exact ⟨rfl, .inr ⟨text, admin, claims, rfl, rfl, hmint⟩⟩

/-- A server that starts is put together from settings and a registry. -/
theorem assembled_of_start (h : (start world).result = .ok ready) : Assembled world ready := by
  unfold start at h
  split at h
  · cases h
  · rename_i settings _
    unfold startWith at h
    split at h
    · cases h
    · simp only at h
      split at h
      · cases h
      · exact assembled_of_prepareUsers h

/-- A server with a first administrator starts when each step succeeds. -/
theorem start_eq_ok {pair : KeyPair} {email text : String} {admin : User} {users : UserTable} {claims : Claims}
    (hread : Settings.read world.variableValue = .ok settings)
    (hload : Registry.load ((KeySource.directory settings.keysDirectory).read world.list) settings.activeKid =
      .ok registry)
    (hpair : registry.signingPair = .ok pair) (hemail : settings.bootstrapEmail = some email)
    (hcreate : UserTable.empty.create ⟨email, administratorName, [.admin, .user]⟩ world.freshId world.creation =
      .ok (admin, users))
    (hmint : Authority.mint ⟨settings.issuer, settings.lifetime⟩ registry admin.id admin.roles world.issue =
      .ok (text, claims)) :
    (start world).result =
      .ok ⟨settings, ⟨⟨settings.issuer, settings.lifetime⟩, registry, .memory users⟩, some text⟩ := by
  simp only [start, hread, startWith, hload, hpair, prepareUsers, hemail, createAdministrator, hcreate, hmint]

/-- A server without an e-mail address for an administrator starts when the active key is found. -/
theorem start_eq_ok_of_emailless {pair : KeyPair} (hread : Settings.read world.variableValue = .ok settings)
    (hload : Registry.load ((KeySource.directory settings.keysDirectory).read world.list) settings.activeKid =
      .ok registry)
    (hpair : registry.signingPair = .ok pair) (hemail : settings.bootstrapEmail = none) :
    (start world).result = .ok ⟨settings, ⟨⟨settings.issuer, settings.lifetime⟩, registry, .memory .empty⟩, none⟩ := by
  simp only [start, hread, startWith, hload, hpair, prepareUsers, hemail]

/-! ## A sample -/

open Authority (sampleKey samplePair sampleRegistry)

theorem read?_wrapped_of_bare {bytes : List UInt8} (h : bytes ≠ []) :
    Pem.read? "PRIVATE KEY" (Pem.write "RSA PRIVATE KEY" bytes) = none := by
  rw [Pem.read?, Pem.toList_write (Base64.encodePadded_ne_nil h)]
  rfl

theorem ofPem?_write {bytes : List UInt8} {key : Rsa.PrivateKey} (hbytes : bytes ≠ [])
    (hkey : Rsa.Components.ofBytes? bytes = some key.toComponents) :
    Rsa.PrivateKey.ofPem? (Pem.write "RSA PRIVATE KEY" bytes) = some key := by
  have hof : Rsa.PrivateKey.ofComponents? key.toComponents = some key := dif_pos key.consistent
  rw [Rsa.PrivateKey.ofPem?, read?_wrapped_of_bare hbytes, Pem.read?_write _ hbytes]
  simp only [Option.bind_eq_bind, Option.bind_none, Option.bind_some, hkey, hof]
  rfl

theorem load_entry {kid pem : String} {key : Rsa.PrivateKey} (hkey : Rsa.PrivateKey.ofPem? pem = some key)
    (hcoprime : Nat.Coprime key.factor1 key.factor2) :
    KeySet.load (.ok [⟨kid, pem⟩]) = .ok ⟨[⟨kid, key, hcoprime⟩], by simp⟩ := by
  simp [KeySet.load, KeySet.addEntry, KeyPair.ofEntry_of_ofPem? hkey hcoprime, KeySet.insert?, KeySet.empty, bind,
    Except.bind, pure, Except.pure]

theorem load_directory {path name kid pem : String} {key : Rsa.PrivateKey} (hkid : Directory.kid? name = some kid)
    (hkey : Rsa.PrivateKey.ofPem? pem = some key) (hcoprime : Nat.Coprime key.factor1 key.factor2) :
    KeySet.load (Directory.read path (.ok [⟨name, some (Text.Utf8.bytes pem)⟩])) =
      .ok ⟨[⟨kid, key, hcoprime⟩], by simp⟩ := by
  have hread : Directory.read path (.ok [⟨name, some (Text.Utf8.bytes pem)⟩]) = .ok [⟨kid, pem⟩] := by
    simp [Directory.read, Directory.keyFile?, hkid, Directory.entry?, Text.Utf8.text?_bytes]
  rw [hread, load_entry hkey hcoprime]

/-- The sample key in DER, in the older of the two containers. -/
def sampleBytes : List UInt8 :=
  Der.element Der.sequenceTag ([0, sampleKey.modulus, sampleKey.publicExponent, sampleKey.privateExponent,
    sampleKey.factor1, sampleKey.factor2, 0, 0, 0].flatMap Der.integer)

/-- The key file of the sample key. -/
def samplePem : String := Pem.write "RSA PRIVATE KEY" sampleBytes

theorem ofPem?_samplePem : Rsa.PrivateKey.ofPem? samplePem = some sampleKey :=
  ofPem?_write (List.cons_ne_nil _ _) (by decide +kernel)

/-- The time at which the sample server starts. -/
def sampleTime : Instant := .atSecond 1000 (by decide) (by decide)

/-- Surroundings in which a server starts with one key and one administrator. -/
def sampleWorld : Surroundings where
  variableValue name :=
    if name = Settings.kidVariable then some " k "
    else if name = Settings.bootstrapVariable then some "Admin@Example.org" else none
  list _ := .ok [⟨"k.pem", some (Text.Utf8.bytes samplePem)⟩]
  creation := sampleTime
  issue := sampleTime
  freshId := ⟨7⟩

/-- The settings that are read there, with the defaults for all that is not set. -/
def sampleSettings : Settings where
  listenAddress := .v4 [0, 0, 0, 0] 3000
  keysDirectory := "keys"
  activeKid := "k"
  issuer := "medisync"
  lifetimeSeconds := 3600
  bootstrapEmail := some "Admin@Example.org"
  lifetime_pos := by decide
  lifetime_le := by decide

/-- The administrator that is created there. -/
def sampleAdmin : User := ⟨⟨7⟩, "admin@example.org", administratorName, ⟨true, true⟩, sampleTime⟩

/-- The claims of the first token, which last for an hour. -/
def sampleClaims : Claims where
  subject := ⟨7⟩
  roles := ⟨true, true⟩
  issuer := "medisync"
  issuedAt := sampleTime
  expiresAt := .atSecond 4600 (by decide) (by decide)

theorem read_sample : Settings.read sampleWorld.variableValue = .ok sampleSettings := by decide +kernel

theorem load_sample :
    Registry.load ((KeySource.directory "keys").read sampleWorld.list) "k" = .ok (sampleRegistry "k") := by
  have hload : KeySet.load (Directory.read "keys" (.ok [⟨"k.pem", some (Text.Utf8.bytes samplePem)⟩])) =
      .ok (sampleRegistry "k").keys :=
    load_directory (by decide +kernel) ofPem?_samplePem Authority.sampleKey_coprime
  rw [Registry.load, KeySource.read, sampleWorld, hload]
  rfl

theorem create_sample :
    UserTable.empty.create ⟨"Admin@Example.org", administratorName, [.admin, .user]⟩ sampleWorld.freshId
      sampleWorld.creation = .ok (sampleAdmin, UserTable.empty.insert sampleAdmin) := by
  have huser : NewUser.toUser ⟨"Admin@Example.org", administratorName, [.admin, .user]⟩ sampleWorld.freshId
      sampleWorld.creation = .ok sampleAdmin := by decide +kernel
  rw [UserTable.create, huser]
  rfl

/-- The server that starts in the sample surroundings, with its first token. -/
def sampleReady (text : String) : Ready :=
  ⟨sampleSettings, ⟨⟨"medisync", sampleSettings.lifetime⟩, sampleRegistry "k",
    .memory (UserTable.empty.insert sampleAdmin)⟩, some text⟩

theorem start_sample : ∃ text, Authority.issue (sampleRegistry "k") sampleClaims = .ok text ∧
    (start sampleWorld).result = .ok (sampleReady text) := by
  obtain ⟨text, hissue⟩ : ∃ text, Authority.issue (sampleRegistry "k") sampleClaims = .ok text :=
    Outcome.exists_of_isSome (by decide +kernel)
  have hpair : (sampleRegistry "k").signingPair = .ok (samplePair "k") := by
    simp [Registry.signingPair, KeySet.find?, sampleRegistry, samplePair]
  have hstamp : Claims.stamp? sampleAdmin.id sampleAdmin.roles "medisync" sampleWorld.issue sampleSettings.lifetime =
      some sampleClaims := by decide +kernel
  have hmint : Authority.mint ⟨"medisync", sampleSettings.lifetime⟩ (sampleRegistry "k") sampleAdmin.id
      sampleAdmin.roles sampleWorld.issue = .ok (text, sampleClaims) := by
    simp only [Authority.mint, hstamp, hissue, Except.map]
  exact ⟨text, hissue, start_eq_ok read_sample load_sample hpair rfl create_sample hmint⟩

end TokenAuthority.Startup
