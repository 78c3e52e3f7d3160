import TokenAuthority.Claims.Basic

/-!
# Claims in JSON

The five claims under their registered names, times as whole seconds since 1970.
-/

namespace TokenAuthority.Claims

open Json

/-- The JSON of claims; times are rounded toward the past. -/
def toDocument (claims : Claims) : Document :=
  .object [
    ("sub", claims.subject.toDocument),
    ("roles", claims.roles.toDocument),
    ("iss", .text claims.issuer),
    ("iat", .integer claims.issuedAt.seconds),
    ("exp", .integer claims.expiresAt.seconds)]

/-- Reads a time given in whole seconds. -/
def secondsDecoder : Decoder Instant := fun v => do
  match Instant.ofSeconds? (← Decoder.integer v) with
  | some t => .ok t
  | none => .error .unsuitable

/-- Claims of which some are read. -/
structure Draft where
  subject : Option UserId
  roles : Option RoleSet
  issuer : Option String
  issuedAt : Option Instant
  expiresAt : Option Instant

/-- The fields of claims, in the order of an array. -/
def slots : List (Slot Draft) := [
  .of "sub" Draft.subject (fun a d => { d with subject := some a }) UserId.decoder,
  .of "roles" Draft.roles (fun a d => { d with roles := some a }) RoleSet.decoder,
  .of "iss" Draft.issuer (fun a d => { d with issuer := some a }) .text,
  .of "iat" Draft.issuedAt (fun a d => { d with issuedAt := some a }) secondsDecoder,
  .of "exp" Draft.expiresAt (fun a d => { d with expiresAt := some a }) secondsDecoder]

/-- Claims of which none are read. -/
def Draft.blank : Draft := ⟨none, none, none, none, none⟩

/-- Claims all of which are read. -/
def Draft.complete (d : Draft) : Except Fault Claims := do
  .ok ⟨← Record.required d.subject, ← Record.required d.roles, ← Record.required d.issuer,
    ← Record.required d.issuedAt, ← Record.required d.expiresAt⟩

/-- Reads claims. -/
def decoder : Decoder Claims := fun v => do
  (← Record.read slots .blank v).complete

end TokenAuthority.Claims
