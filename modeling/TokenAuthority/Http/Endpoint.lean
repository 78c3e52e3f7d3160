import TokenAuthority.Access.Decision
import TokenAuthority.Http.Reply
import TokenAuthority.Token.Authority
import TokenAuthority.Users.Store

/-!
# Endpoints

What the routes do once the guards have let a request through. An endpoint that consults the key registry more
than once names the registry of each time apart, since another request may change it in between.
-/

namespace TokenAuthority.Http

/-- What the server holds. -/
structure Service where
  authority : Authority
  registry : Registry
  users : UserStore

/-- What a request meets from outside: the time, an id that nobody has, and what the key source holds. -/
structure Moment where
  now : Instant
  freshId : UserId
  keySource : KeyReading

/-- What a route does for anyone. -/
inductive PublicEndpoint
  | health
  | keys
  | authorize
  | acknowledge
  deriving DecidableEq, Repr

/-- What a route does for a verified caller. -/
inductive CallerEndpoint
  | authenticate
  | refreshToken
  | reloadKeys
  | listUsers
  | createUser
  | showUser
  | mintToken
  | showIdentity
  deriving DecidableEq, Repr

/-- What a route does. -/
inductive Endpoint
  | anyone (endpoint : PublicEndpoint)
  | callers (endpoint : CallerEndpoint)
  deriving DecidableEq, Repr

namespace Endpoint

/-- The keys of a registry beside the active key id of a registry. -/
def keysReply (naming listing : Registry) : Reply :=
  .keys naming.activeKid listing.publicKeys

/-! ## Tokens -/

/-- A token for a user, signed by one registry and answered with the active key id of another. -/
def issueToken (authority : Authority) (signing naming : Registry) (user : User) (now : Instant) : Answer :=
  match authority.mint signing user.id user.roles now with
  | .ok (token, claims) =>
      ⟨.token token naming.activeKid claims.expiresAt,
        [⟨.info, "token issued", [("user_id", user.id.toText), ("kid", naming.activeKid)]⟩]⟩
  | .error error => .ofTokenError error

/-- A token for the caller, with the roles that the store has for that user now. -/
def refresh (authority : Authority) (signing naming : Registry) (users : UserStore) (identity : Identity)
    (now : Instant) : Answer :=
  match users.find identity.claims.subject with
  | .ok user => issueToken authority signing naming user now
  | .error error =>
      ⟨.unauthenticated, [⟨.warn, "token refresh for unknown caller",
        [("user_id", identity.claims.subject.toText), ("error", error.message)]⟩]⟩

/-- A token for the user the request is about. -/
def mint (authority : Authority) (signing naming : Registry) (identity : Identity) (now : Instant) : Answer :=
  match identity.subject with
  | none => ⟨.unauthenticated, []⟩
  | some user =>
      let answer := issueToken authority signing naming user now
      ⟨answer.reply, ⟨.info, "admin minting token",
        [("minted_by", identity.claims.subject.toText), ("subject", user.id.toText)]⟩ :: answer.log⟩

/-! ## Checks for other services -/

/-- Claims to be checked against a rule, with the user the check is about. -/
structure Check where
  claims : Claims
  subject : Option UserId
  rule : String

/-- A check of which some fields are read. -/
structure Check.Draft where
  claims : Option Claims
  subject : Option (Option UserId)
  rule : Option String

/-- The fields of a check, in the order of an array. -/
def Check.slots : List (Json.Slot Check.Draft) := [
  .of "claims" Check.Draft.claims (fun a d => { d with claims := some a }) Claims.decoder,
  { Json.Slot.of "user_id" Check.Draft.subject (fun a d => { d with subject := some a }) (.optional UserId.decoder)
    with mayEndBefore := true },
  .of "rule" Check.Draft.rule (fun a d => { d with rule := some a }) .text]

/-- Reads a check. -/
def Check.decoder : Json.Decoder Check := fun v => do
  let d ← Json.Record.read Check.slots ⟨none, none, none⟩ v
  .ok ⟨← Json.Record.required d.claims, d.subject.join, ← Json.Record.required d.rule⟩

/-- Decides on a check. Claims that do not hold now are answered like a denial. -/
def judge (check : Check) (now : Instant) : Answer :=
  match Rule.ofName? check.rule with
  | none => ⟨.unknownRule check.rule, []⟩
  | some rule => match Authority.checkWindow check.claims now with
    | .error error =>
        ⟨.unauthenticated, [⟨.warn, "authorize check on stale claims",
          [("user_id", check.claims.subject.toText), ("error", error.message)]⟩]⟩
    | .ok () =>
        if (rule.explain (.about check.claims check.subject)).granted then
          ⟨.granted, [⟨.debug, "authorize check granted", []⟩]⟩
        else ⟨.unauthenticated, [⟨.warn, "authorize check denied", []⟩]⟩

/-! ## Keys -/

/-- The request of a reload: the key id to make active, if any. -/
structure Reload where
  activeKid : Option String

/-- Reads the request of a reload. -/
def Reload.decoder : Json.Decoder Reload := fun v => do
  let slot : Json.Slot (Option (Option String)) :=
    { Json.Slot.of "active_kid" id (fun a _ => some a) (.optional .text) with mayEndBefore := true }
  let kid ← Json.Record.read [slot] none v
  .ok ⟨kid.join⟩

/-- The key id that a request asks to make active; a body that cannot be read asks for none. -/
def requestedKid (request : Request) : Option String :=
  match request.decodeBody Reload.decoder with
  | .ok reload => reload.activeKid
  | .error _ => none

/-- Publishes the keys of the source. -/
def reload (service : Service) (moment : Moment) (request : Request) (identity : Identity) : Service × Answer :=
  match service.registry.reload moment.keySource (requestedKid request) with
  | .error error => (service, .ofKeyError error)
  | .ok registry =>
      ({ service with registry := registry },
        ⟨keysReply registry registry, [registry.reloadedEvent,
          ⟨.info, "key registry reloaded via api",
            [("by", identity.claims.subject.toText), ("active_kid", registry.activeKid)]⟩]⟩)

/-! ## Users -/

/-- All users. -/
def list (users : UserStore) : Answer :=
  match users.all with
  | .ok listed => ⟨.users listed, []⟩
  | .error error => .ofStoreError error

/-- Creates the user of the body. -/
def create (service : Service) (moment : Moment) (request : Request) (identity : Identity) : Service × Answer :=
  match request.decodeBody NewUser.decoder with
  | .error fault => (service, ⟨.badBody fault, []⟩)
  | .ok newUser => match service.users.create newUser moment.freshId moment.now with
    | .error error => (service, .ofStoreError error)
    | .ok (user, users) =>
        ({ service with users := users },
          ⟨.created user, [UserTable.createdEvent user, ⟨.info, "user registered by admin",
            [("created_by", identity.claims.subject.toText), ("user_id", user.id.toText)]⟩]⟩)

/-- The user the request is about. -/
def showSubject (identity : Identity) : Answer :=
  match identity.subject with
  | some user => ⟨.user user, []⟩
  | none => ⟨.unauthenticated, []⟩

end Endpoint

open Endpoint

/-- Runs an endpoint for anyone. -/
def PublicEndpoint.run (endpoint : PublicEndpoint) (service : Service) (moment : Moment) (request : Request) :
    Answer :=
  match endpoint with
  | .health => ⟨.healthy, []⟩
  | .keys => ⟨keysReply service.registry service.registry, []⟩
  | .authorize => match request.decodeBody Check.decoder with
    | .ok check => judge check moment.now
    | .error fault => ⟨.badBody fault, []⟩
  | .acknowledge => ⟨.acknowledged, []⟩

/-- Runs an endpoint for a verified caller. -/
def CallerEndpoint.run (endpoint : CallerEndpoint) (service : Service) (moment : Moment) (request : Request)
    (identity : Identity) : Service × Answer :=
  match endpoint with
  | .authenticate => (service, ⟨.caller identity.claims, []⟩)
  | .refreshToken =>
      (service, refresh service.authority service.registry service.registry service.users identity moment.now)
  | .reloadKeys => reload service moment request identity
  | .listUsers => (service, list service.users)
  | .createUser => create service moment request identity
  | .showUser => (service, showSubject identity)
  | .mintToken => (service, mint service.authority service.registry service.registry identity moment.now)
  | .showIdentity => (service, ⟨.identity identity, []⟩)

/-- Runs an endpoint. One for callers keeps out whoever is not verified. -/
def Endpoint.run (endpoint : Endpoint) (service : Service) (moment : Moment) (request : Request)
    (identity : Option Identity) : Service × Answer :=
  match endpoint, identity with
  | .anyone endpoint, _ => (service, endpoint.run service moment request)
  | .callers endpoint, some identity => endpoint.run service moment request identity
  | .callers _, none => (service, ⟨.unauthenticated, []⟩)

end TokenAuthority.Http
