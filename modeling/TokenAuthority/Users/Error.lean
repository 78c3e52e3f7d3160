import TokenAuthority.Users.User

/-!
# User errors

Why a value of the domain is refused, and why a store of users does not do what it is asked.
-/

namespace TokenAuthority

/-- Why a value of the domain is refused. -/
inductive DomainError
  | validation (fault : NewUser.Fault)
  | invalidId (reason : String)
  deriving DecidableEq, Repr

namespace DomainError

/-- The refusal of a text that is no user id. -/
def ofIdFault (fault : UserId.Fault) : DomainError :=
  .invalidId s!"UserId: {fault.message}"

/-- The wording of a refusal. -/
def message : DomainError → String
  | .validation fault => s!"validation failed: {fault.message}"
  | .invalidId reason => s!"invalid identifier: {reason}"

end DomainError

/-- Why a store does not do what it is asked. -/
inductive UserStoreError
  | notFound (id : UserId)
  | invalid (cause : DomainError)
  | duplicate (email : String)
  | unavailable (reason : String)
  deriving DecidableEq, Repr

/-- The wording of an error. -/
def UserStoreError.message : UserStoreError → String
  | .notFound id => s!"user {id.toText} not found"
  | .invalid cause => cause.message
  | .duplicate email => s!"email '{email}' is already registered"
  | .unavailable reason => s!"user store unavailable: {reason}"

end TokenAuthority
