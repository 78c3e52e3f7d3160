import TokenAuthority.Http.Endpoint
import TokenAuthority.Keys.Source
import TokenAuthority.Settings.Basic

/-!
# Starting the server

A server starts in steps, and the first that fails ends it: the settings are read, the keys are loaded from their
directory, the active key is looked up, and the first administrator is created if an e-mail address for one is
set. That administrator's token is printed, not logged. After the last step the server is ready to listen.
-/

namespace TokenAuthority

namespace Startup

/-- What a server meets when it starts. -/
structure Surroundings where
  /-- The value of a variable. -/
  variableValue : String → Option String
  /-- What a directory holds. -/
  list : String → Directory.Listing
  /-- The instant at which the administrator is created. -/
  creation : Instant
  /-- The instant at which the administrator's token is issued. -/
  issue : Instant
  /-- An id that nobody has. -/
  freshId : UserId

/-- The parts of the server that report events. -/
inductive Component
  | keys
  | users
  | server
  deriving DecidableEq, Repr

/-- The name of a component for filters. -/
def Component.name : Component → String
  | .keys => "medisync_auth::keystore"
  | .users => "medisync_auth::user"
  | .server => "medisync_api"

/-- Why a server does not start. -/
inductive Failure
  | settings (error : Settings.Error)
  | keys (directory : String) (error : KeyError)
  | activeKey (error : KeyError)
  | administrator (error : UserStoreError)
  | token (error : TokenError)
  /-- The address cannot be listened on, as the host says. -/
  | listening (address : SocketAddress) (reason : String)
  deriving DecidableEq, Repr

namespace Failure

/-- What was being done. -/
def message : Failure → String
  | .settings _ => "invalid configuration"
  | .keys directory _ => s!"loading signing keys from {directory}"
  | .activeKey _ => "active signing key"
  | .administrator _ => "creating bootstrap admin"
  | .token error => error.message
  | .listening address _ => s!"failed to bind {address.toText}"

/-- What went wrong, if that is not said yet. -/
def cause? : Failure → Option String
  | .settings error => some error.message
  | .keys _ error => some error.message
  | .activeKey error => some error.message
  | .administrator error => some error.message
  | .token (.noSigningKey error) => some error.message
  | .token (.keyNotFound error) => some error.message
  | .token _ => none
  | .listening _ reason => some reason

/-- Puts four spaces in front of every line. -/
def indent (text : String) : String :=
  "    " ++ "\n    ".intercalate (text.splitOn "\n")

/-- The report of a failure. -/
def report (failure : Failure) : String :=
  s!"Error: {failure.message}" ++ match failure.cause? with
    | some cause => s!"\n\nCaused by:\n{indent cause}"
    | none => ""

end Failure

/-- A server that is ready to listen. -/
structure Ready where
  settings : Settings
  service : Http.Service
  /-- The first administrator's token. -/
  token : Option String

/-- What comes of a start: the events, and a server or why there is none. -/
structure Outcome where
  log : List (Component × Log.Event)
  result : Except Failure Ready

/-- The token that is printed: the first administrator's, once the server is ready. -/
def Outcome.printed (outcome : Outcome) : Option String :=
  match outcome.result with
  | .ok ready => ready.token
  | .error _ => none

/-- The display name of the first administrator. -/
def administratorName : String := "Bootstrap Admin"

/-- The event of an administrator who was created. -/
def administratorEvent (admin : User) (claims : Claims) : Log.Event :=
  ⟨.info, "bootstrap admin created",
    [("user_id", admin.id.toText), ("email", admin.email), ("expires_at", Timestamp.write claims.expiresAt)]⟩

/-- Creates the first administrator and a token for that user. -/
def createAdministrator (world : Surroundings) (authority : Authority) (registry : Registry) (email : String) :
    List (Component × Log.Event) × Except Failure (UserTable × String) :=
  match UserTable.empty.create ⟨email, administratorName, [.admin, .user]⟩ world.freshId world.creation with
  | .error error => ([], .error (.administrator error))
  | .ok (admin, users) =>
      let created := (Component.users, UserTable.createdEvent admin)
      match authority.mint registry admin.id admin.roles world.issue with
      | .error error => ([created], .error (.token error))
      | .ok (token, claims) =>
          ([created, (.server, administratorEvent admin claims)], .ok (users, token))

/-- Puts the users in place, with an administrator if there is to be one. -/
def prepareUsers (world : Surroundings) (settings : Settings) (registry : Registry) : Outcome :=
  let authority : Authority := ⟨settings.issuer, settings.lifetime⟩
  match settings.bootstrapEmail with
  | none => ⟨[], .ok ⟨settings, ⟨authority, registry, .memory UserTable.empty⟩, none⟩⟩
  | some email => match createAdministrator world authority registry email with
    | (log, .error failure) => ⟨log, .error failure⟩
    | (log, .ok (users, token)) => ⟨log, .ok ⟨settings, ⟨authority, registry, .memory users⟩, some token⟩⟩

/-- Starts a server with settings that were read. -/
def startWith (world : Surroundings) (settings : Settings) : Outcome :=
  match Registry.load ((KeySource.directory settings.keysDirectory).read world.list) settings.activeKid with
  | .error error => ⟨[], .error (.keys settings.keysDirectory error)⟩
  | .ok registry =>
      let loaded := (Component.keys, registry.loadedEvent)
      match registry.signingPair with
      | .error error => ⟨[loaded], .error (.activeKey error)⟩
      | .ok _ =>
          let outcome := prepareUsers world settings registry
          ⟨loaded :: outcome.log, outcome.result⟩

/-- Starts a server. -/
def start (world : Surroundings) : Outcome :=
  match Settings.read world.variableValue with
  | .error error => ⟨[], .error (.settings error)⟩
  | .ok settings => startWith world settings

end Startup

end TokenAuthority
