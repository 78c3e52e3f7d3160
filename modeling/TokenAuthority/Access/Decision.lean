import TokenAuthority.Access.Rule
import TokenAuthority.Claims.Basic

/-!
# Access decisions

A rule decides on verified claims and, where the request is about a user, on that user's id. The nil id stands
for nobody: a request about it is a request about no user. Every decision carries its reason.
-/

namespace TokenAuthority

/-- A request for access, about at most one user, who is never the nil id. -/
structure AccessRequest where
  claims : Claims
  subject : Option UserId

namespace AccessRequest

/-- The request of a caller about a user; the nil id counts as no user. -/
def about (claims : Claims) (subject : Option UserId) : AccessRequest :=
  ⟨claims, subject.filter fun id => !id.isNil⟩

/-- The request of a caller about no user. -/
def withoutSubject (claims : Claims) : AccessRequest :=
  about claims none

end AccessRequest

/-- Why access was granted or denied. -/
inductive Reason
  | anyCaller
  | holds (role : Role)
  | lacks (role : Role)
  | noSubject
  | isSubject
  | otherSubject (caller subject : UserId)
  /-- A reason given by another component in its own words. -/
  | reported (text : String)
  deriving DecidableEq, Repr

/-- The wording of a reason. -/
def Reason.message : Reason → String
  | .anyCaller => "any verified caller is allowed"
  | .holds role => s!"caller holds the {role.name} role"
  | .lacks role => s!"caller does not hold the {role.name} role"
  | .noSubject => "no subject resolved and caller is not an admin"
  | .isSubject => "caller is the requested subject"
  | .otherSubject caller subject => s!"caller {caller.toText} is neither an admin nor subject {subject.toText}"
  | .reported text => text

/-- The denial of a request by a rule. -/
structure Denial where
  rule : Rule
  reason : Reason
  deriving DecidableEq, Repr

/-- The wording of a denial. -/
def Denial.message (d : Denial) : String :=
  s!"permission denied by rule '{d.rule.name}': {d.reason.message}"

namespace Rule

/-- Whether the claims hold a role, with the reason. -/
def requireRole (role : Role) (claims : Claims) : Bool × Reason :=
  if claims.hasRole role then (true, .holds role) else (false, .lacks role)

/-- Whether a rule grants a request, and why. -/
def verdict (rule : Rule) (request : AccessRequest) : Bool × Reason :=
  match rule with
  | .any => (true, .anyCaller)
  | .adminOnly => requireRole .admin request.claims
  | .userOnly => requireRole .user request.claims
  | .adminOrSubject =>
      if request.claims.hasRole .admin then (true, .holds .admin)
      else match request.subject with
        | none => (false, .noSubject)
        | some subject =>
            if subject = request.claims.subject then (true, .isSubject)
            else (false, .otherSubject request.claims.subject subject)

/-- Lets a request pass or denies it. -/
def evaluate (rule : Rule) (request : AccessRequest) : Except Denial Unit :=
  let (granted, reason) := rule.verdict request
  if granted then .ok () else .error ⟨rule, reason⟩

end Rule

/-- A decision with everything that it was taken on. -/
structure Explanation where
  rule : Rule
  granted : Bool
  reason : Reason
  caller : UserId
  roles : RoleSet
  subject : Option UserId
  deriving DecidableEq, Repr

/-- Explains what a rule decides on a request. -/
def Rule.explain (rule : Rule) (request : AccessRequest) : Explanation :=
  let (granted, reason) := rule.verdict request
  ⟨rule, granted, reason, request.claims.subject, request.claims.roles, request.subject⟩

end TokenAuthority
