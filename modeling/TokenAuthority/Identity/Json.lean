import TokenAuthority.Identity.Role
import TokenAuthority.Identity.UserId
import TokenAuthority.Json.Decoding
import TokenAuthority.Json.Document

/-!
# Ids and roles in JSON

An id is a text in any of its spellings, a role is one of a choice of names, and a set of roles is a list in
which repeats do not matter.
-/

namespace TokenAuthority

open Json

/-- The JSON of an id. -/
def UserId.toDocument (id : UserId) : Document :=
  .text id.toText

/-- Reads an id. -/
def UserId.decoder : Decoder UserId :=
  .parsed fun s => (UserId.ofText s).toOption

/-- The JSON of a role. -/
def Role.toDocument (role : Role) : Document :=
  .text role.name

/-- Reads a role. -/
def Role.decoder : Decoder Role :=
  .named Role.ofName?

/-- The JSON of a set of roles. -/
def RoleSet.toDocument (roles : RoleSet) : Document :=
  .array (roles.toList.map Role.toDocument)

/-- Reads a set of roles. -/
def RoleSet.decoder : Decoder RoleSet := fun v =>
  (Decoder.list Role.decoder v).map RoleSet.ofList

end TokenAuthority
