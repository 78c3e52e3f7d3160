import TokenAuthority.Text.Blank

/-!
# Roles

The two roles a user may hold, and sets of them. A set lists the administrator's role first.
-/

namespace TokenAuthority

/-- A role that a user may hold. -/
inductive Role
  | admin
  | user
  deriving DecidableEq, Repr

namespace Role

/-- The name of a role. -/
def name : Role → String
  | .admin => "ADMIN"
  | .user => "USER"

instance : ToString Role := ⟨name⟩

/-- The role of exactly this name. -/
def ofName? (s : String) : Option Role :=
  if s = "ADMIN" then some .admin else if s = "USER" then some .user else none

/-- A text that names no role, as it was compared. -/
structure Unknown where
  text : String
  deriving DecidableEq, Repr

/-- The wording of an unknown role. -/
def Unknown.message (u : Unknown) : String :=
  s!"unknown role '{u.text}'"

/-- Reads a role's name in ASCII letters of any case, with white space around it. -/
def ofText (s : String) : Except Unknown Role :=
  let name := String.ofList ((Text.trimChars s.toList).map Char.toUpper)
  match ofName? name with
  | some role => .ok role
  | none => .error ⟨name⟩

@[simp] theorem ofName?_name (role : Role) : ofName? role.name = some role := by
  cases role <;> rfl

end Role

/-- A set of roles. -/
structure RoleSet where
  /-- Whether the administrator's role is in the set. -/
  admin : Bool
  /-- Whether the user's role is in the set. -/
  user : Bool
  deriving DecidableEq, Repr

namespace RoleSet

/-- The set without roles. -/
def empty : RoleSet := ⟨false, false⟩

instance : EmptyCollection RoleSet := ⟨empty⟩

/-- Whether a role is in the set. -/
def contains (roles : RoleSet) : Role → Bool
  | .admin => roles.admin
  | .user => roles.user

instance : Membership Role RoleSet := ⟨fun roles role => roles.contains role = true⟩

instance (role : Role) (roles : RoleSet) : Decidable (role ∈ roles) :=
  inferInstanceAs (Decidable (roles.contains role = true))

/-- The set with one more role. -/
def insert (roles : RoleSet) : Role → RoleSet
  | .admin => { roles with admin := true }
  | .user => { roles with user := true }

/-- The set of the listed roles. -/
def ofList (listed : List Role) : RoleSet :=
  ⟨listed.contains .admin, listed.contains .user⟩

/-- The roles of the set, the administrator's first. -/
def toList (roles : RoleSet) : List Role :=
  (if roles.admin then [.admin] else []) ++ (if roles.user then [.user] else [])

/-- Whether no role is in the set. -/
def isEmpty (roles : RoleSet) : Bool :=
  !roles.admin && !roles.user

theorem mem_iff {role : Role} {roles : RoleSet} : role ∈ roles ↔ roles.contains role = true :=
  Iff.rfl

@[simp] theorem mem_ofList {role : Role} {listed : List Role} : role ∈ ofList listed ↔ role ∈ listed := by
  cases role <;> simp [mem_iff, ofList, contains]

@[simp] theorem mem_toList {role : Role} {roles : RoleSet} : role ∈ roles.toList ↔ role ∈ roles := by
  obtain ⟨a, u⟩ := roles
  cases role <;> cases a <;> cases u <;> simp [mem_iff, toList, contains]

@[simp] theorem ofList_toList (roles : RoleSet) : ofList roles.toList = roles := by
  obtain ⟨a, u⟩ := roles
  cases a <;> cases u <;> rfl

end RoleSet

end TokenAuthority
