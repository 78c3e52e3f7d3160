import TokenAuthority.Identity.Json
import TokenAuthority.Time.Instant

/-!
# Claims

What a token says: who it is about, with which roles, who issued it, and from when until when it holds. Claims
are stamped at the start of a second and hold until just before the instant they expire at.
-/

namespace TokenAuthority

/-- The claims of a token. -/
structure Claims where
  subject : UserId
  roles : RoleSet
  issuer : String
  issuedAt : Instant
  expiresAt : Instant
  deriving DecidableEq

namespace Claims

/-- Claims that hold for `lifetime` from the start of the second of `now`; none if that ends beyond the
representable instants. -/
def stamp? (subject : UserId) (roles : RoleSet) (issuer : String) (now : Instant) (lifetime : Duration) :
    Option Claims :=
  (now.startOfSecond.add? lifetime).map fun expiresAt =>
    ⟨subject, roles, issuer, now.startOfSecond, expiresAt⟩

/-- Whether the claims grant a role. -/
def hasRole (claims : Claims) (role : Role) : Bool :=
  claims.roles.contains role

/-- Why claims do not hold at an instant. -/
inductive Lapse
  /-- They expire no later than they are issued. -/
  | emptyWindow
  | expired
  deriving DecidableEq, Repr

/-- Whether the claims hold at an instant. Claims that never hold are told apart from those that expired. -/
def checkWindow (claims : Claims) (now : Instant) : Except Lapse Unit :=
  if claims.expiresAt ≤ claims.issuedAt then .error .emptyWindow
  else if claims.expiresAt ≤ now then .error .expired
  else .ok ()

end Claims

end TokenAuthority
