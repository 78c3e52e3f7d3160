import TokenAuthority.Http.Credentials
import TokenAuthority.Http.Endpoint

/-!
# Guards

What stands in front of an endpoint. Authentication turns the token of a request into the identity of a verified
caller; a guard then lets the caller through by its rule, about the user named in the path if the guard looks for
one. Whoever is kept out gets the same answer; only the log tells why.
-/

namespace TokenAuthority.Http

/-- How a request leaves a stage: with what the stage has found, or stopped for what an event tells. -/
inductive Passage (α : Type)
  | pass (found : α) (log : List Log.Event)
  | stop (event : Log.Event)

/-- Verifies the token of a request. -/
def authenticate (service : Service) (now : Instant) (request : Request) : Passage Identity :=
  match request.bearerToken with
  | .error fault =>
      .stop ⟨.debug, "missing or malformed credentials", [("error", fault.toTokenError.message)]⟩
  | .ok token => match service.authority.verify service.registry token now with
    | .error error => .stop ⟨.warn, "token rejected", [("error", error.message)]⟩
    | .ok claims => .pass ⟨claims, none⟩ [⟨.debug, "caller authenticated", [("user_id", claims.subject.toText)]⟩]

/-- What a guard asks of a caller. -/
inductive Guard
  /-- A rule, about no user. -/
  | plain (rule : Rule)
  /-- A rule, about the user whose id is the path parameter `user_id`, if there is one. -/
  | subject (rule : Rule)
  deriving DecidableEq, Repr

namespace Guard

/-- Why the user of a path is not loaded. -/
inductive LoadFault
  | invalidId (fault : UserId.Fault)
  | store (id : UserId) (error : UserStoreError)
  | timedOut (id : UserId)
  deriving DecidableEq, Repr

/-- The wording of a fault. -/
def LoadFault.message : LoadFault → String
  | .invalidId fault => (DomainError.ofIdFault fault).message
  | .store _ (.notFound id) => (UserStoreError.notFound id).message
  | .store id error => s!"querybyid: user_id[{id.toText}]: {error.message}"
  | .timedOut id => s!"querybyid: user_id[{id.toText}]: timed out"

/-- Loads the user of a path. -/
def loadSubject (users : UserStore) (raw : String) : Except LoadFault User :=
  match UserId.ofText raw with
  | .error fault => .error (.invalidId fault)
  | .ok id => match users.findInTime id with
    | .found user => .ok user
    | .failed error => .error (.store id error)
    | .timedOut => .error (.timedOut id)

/-- Lets a caller through if a rule grants the request. -/
def enforce (rule : Rule) (identity : Identity) (request : AccessRequest) : Passage Identity :=
  match rule.evaluate request with
  | .ok () => .pass identity []
  | .error denial =>
      .stop ⟨.warn, "request denied",
        [("user_id", identity.claims.subject.toText), ("error", denial.message)]⟩

/-- The event of a guard that no verified caller has reached. -/
def withoutIdentity : Log.Event :=
  ⟨.warn, "authorize stage reached without an identity", []⟩

/-- The path parameter that names a user, when the parameters can be read and it is among them. -/
def subjectParameter? (parameters : Option (List (String × String))) : Option String :=
  parameters.bind fun found => found.lookup "user_id"

/-- Lets a verified caller through or not. -/
def check (guard : Guard) (users : UserStore) (parameters : Option (List (String × String)))
    (identity : Identity) : Passage Identity :=
  match guard with
  | .plain rule => enforce rule identity (.withoutSubject identity.claims)
  | .subject rule => match subjectParameter? parameters with
    | none => enforce rule identity (.about identity.claims (identity.subject.map User.id))
    | some raw => match loadSubject users raw with
      | .error fault =>
          .stop ⟨.warn, "request denied",
            [("user_id", identity.claims.subject.toText), ("requested", raw), ("reason", fault.message)]⟩
      | .ok user => enforce rule ⟨identity.claims, some user⟩ (.about identity.claims (some user.id))

end Guard

end TokenAuthority.Http
