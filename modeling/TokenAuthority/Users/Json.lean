import TokenAuthority.Users.User

/-!
# Users in JSON

A user's fields in the order of their declaration, the time of creation as a timestamp.
-/

namespace TokenAuthority

open Json

namespace User

/-- The JSON of a user. -/
def toDocument (user : User) : Document :=
  .object [
    ("id", user.id.toDocument),
    ("email", .text user.email),
    ("display_name", .text user.displayName),
    ("roles", user.roles.toDocument),
    ("created_at", .text (Timestamp.write user.createdAt))]

/-- A user of which some fields are read. -/
structure Draft where
  id : Option UserId
  email : Option String
  displayName : Option String
  roles : Option RoleSet
  createdAt : Option Instant

/-- The fields of a user, in the order of an array. -/
def slots : List (Slot Draft) := [
  .of "id" Draft.id (fun a d => { d with id := some a }) UserId.decoder,
  .of "email" Draft.email (fun a d => { d with email := some a }) .text,
  .of "display_name" Draft.displayName (fun a d => { d with displayName := some a }) .text,
  .of "roles" Draft.roles (fun a d => { d with roles := some a }) RoleSet.decoder,
  .of "created_at" Draft.createdAt (fun a d => { d with createdAt := some a }) (.parsed Timestamp.read?)]

/-- Reads a user. -/
def decoder : Decoder User := fun v => do
  let d ← Record.read slots ⟨none, none, none, none, none⟩ v
  .ok ⟨← Record.required d.id, ← Record.required d.email, ← Record.required d.displayName,
    ← Record.required d.roles, ← Record.required d.createdAt⟩

end User

namespace NewUser

/-- A request of which some fields are read. -/
structure Draft where
  email : Option String
  displayName : Option String
  roles : Option (List Role)

/-- The fields of a request, in the order of an array. -/
def slots : List (Slot Draft) := [
  .of "email" Draft.email (fun a d => { d with email := some a }) .text,
  .of "display_name" Draft.displayName (fun a d => { d with displayName := some a }) .text,
  .of "roles" Draft.roles (fun a d => { d with roles := some a }) (.list Role.decoder)]

/-- Reads a request. -/
def decoder : Decoder NewUser := fun v => do
  let d ← Record.read slots ⟨none, none, none⟩ v
  .ok ⟨← Record.required d.email, ← Record.required d.displayName, ← Record.required d.roles⟩

end NewUser

end TokenAuthority
