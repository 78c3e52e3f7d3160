import TokenAuthority.Identity.Json
import TokenAuthority.Text.Lowercase
import TokenAuthority.Time.Timestamp

/-!
# Users

A registered user, and the request to register one. A request is normalised and checked before it becomes a
user: the e-mail address is trimmed and put in lower case, the display name trimmed, and no role counts twice.
-/

namespace TokenAuthority

/-- A registered user. -/
structure User where
  id : UserId
  email : String
  displayName : String
  roles : RoleSet
  createdAt : Instant
  deriving DecidableEq

/-- A request to register a user. -/
structure NewUser where
  email : String
  displayName : String
  roles : List Role
  deriving DecidableEq, Repr

namespace NewUser

/-- Why a request is refused. -/
inductive Fault
  | email
  | displayName
  | noRoles
  /-- A fault that another component describes in its own words. -/
  | reported (text : String)
  deriving DecidableEq, Repr

/-- The wording of a fault. -/
def Fault.message : Fault → String
  | .email => "invalid email format"
  | .displayName => "display name cannot be empty"
  | .noRoles => "at least one role is required"
  | .reported text => text

/-- An e-mail address in the form in which addresses are compared. -/
def normalizeEmail (email : String) : String :=
  Text.lower (Text.trim email)

/-- Makes a user of a request. The address is checked first, then the name, then the roles. -/
def toUser (request : NewUser) (id : UserId) (now : Instant) : Except Fault User :=
  let email := normalizeEmail request.email
  let displayName := Text.trim request.displayName
  let roles := RoleSet.ofList request.roles
  if email = "" ∨ '@' ∉ email.toList then .error .email
  else if displayName = "" then .error .displayName
  else if roles.isEmpty then .error .noRoles
  else .ok ⟨id, email, displayName, roles, now⟩

end NewUser

end TokenAuthority
