import TokenAuthority.Json.Decoding
import TokenAuthority.Json.Document

/-!
# Access rules

The rules a route may be guarded by, and their names.
-/

namespace TokenAuthority

/-- What a caller must be to be let through. -/
inductive Rule
  /-- Any caller whose claims were verified. -/
  | any
  /-- A holder of the administrator's role. -/
  | adminOnly
  /-- A holder of the user's role. -/
  | userOnly
  /-- A holder of the administrator's role, or the very user the request is about. -/
  | adminOrSubject
  deriving DecidableEq, Repr

namespace Rule

/-- The name of a rule. -/
def name : Rule → String
  | .any => "any"
  | .adminOnly => "admin_only"
  | .userOnly => "user_only"
  | .adminOrSubject => "admin_or_subject"

instance : ToString Rule := ⟨name⟩

/-- The rules, in the order of their declaration. -/
def all : List Rule := [.any, .adminOnly, .userOnly, .adminOrSubject]

/-- The rule of exactly this name. -/
def ofName? (s : String) : Option Rule :=
  all.find? (·.name = s)

/-- The wording for a text that names no rule. -/
def unknownMessage (s : String) : String :=
  s!"unknown rule '{s}'"

/-- The JSON of a rule. -/
def toDocument (rule : Rule) : Json.Document :=
  .text rule.name

/-- Reads a rule. -/
def decoder : Json.Decoder Rule :=
  .named ofName?

@[simp] theorem ofName?_name (rule : Rule) : ofName? rule.name = some rule := by
  cases rule <;> decide

end Rule

end TokenAuthority
