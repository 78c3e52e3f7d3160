import TokenAuthority.Access.Rule
import TokenAuthority.Claims.Json
import TokenAuthority.Http.Body
import TokenAuthority.Keys.Registry
import TokenAuthority.Token.Error
import TokenAuthority.Users.Error
import TokenAuthority.Users.Json

/-!
# Replies

What a request is answered with, before it is put into the form of a response. Whatever keeps a caller out, the
reply is the same.
-/

namespace TokenAuthority.Http

open Json (Document)

/-- Who makes a request, and the user it is about once that user is loaded. -/
structure Identity where
  claims : Claims
  subject : Option User
  deriving DecidableEq

/-- An answer. -/
inductive Reply
  /-- The one answer to every failure to authenticate or to authorize. -/
  | unauthenticated
  | notFound
  | wrongMethod
  | badBody (fault : BodyFault)
  | unknownRule (name : String)
  | unknownKid (kid : String)
  | keysRefused (error : KeyError)
  | storeRefused (error : UserStoreError)
  | tokenFailed
  | healthy
  | granted
  | keys (activeKid : String) (published : List PublishedKey)
  | caller (claims : Claims)
  | token (text kid : String) (expiresAt : Instant)
  | users (listed : List User)
  | created (made : User)
  | user (found : User)
  | identity (shown : Identity)
  | acknowledged

/-! ## Responses -/

/-- A response without a body. -/
def emptyResponse (status : Nat) : Response :=
  ⟨status, none, none, ""⟩

/-- A response of JSON. -/
def jsonResponse (status : Nat) (document : Document) : Response :=
  ⟨status, some "application/json", none, document.write⟩

/-- A response of plain text. -/
def textResponse (status : Nat) (text : String) : Response :=
  ⟨status, some "text/plain; charset=utf-8", none, text⟩

/-- A response that tells what went wrong. -/
def problemResponse (status : Nat) (code message : String) : Response :=
  jsonResponse status (.object [("error", .text code), ("message", .text message)])

/-- The JSON of the registered keys. -/
def keysDocument (activeKid : String) (keys : List PublishedKey) : Document :=
  .object [("active_kid", .text activeKid), ("keys", .array (keys.map PublishedKey.toDocument))]

/-- The JSON of an identity. -/
def Identity.toDocument (identity : Identity) : Document :=
  .object [
    ("user_id", identity.claims.subject.toDocument),
    ("claims", identity.claims.toDocument),
    ("subject", match identity.subject with
      | some user => user.toDocument
      | none => .null)]

/-- The response to an error of a user store. -/
def storeResponse (error : UserStoreError) : Response :=
  match error with
  | .notFound _ => problemResponse 404 "not_found" error.message
  | .invalid cause => problemResponse 400 "validation_error" cause.message
  | .duplicate _ => problemResponse 409 "conflict" error.message
  | .unavailable _ => problemResponse 503 "unavailable" "user store unavailable"

/-- The response that a reply is given in. -/
def Reply.toResponse : Reply → Response
  | .unauthenticated => jsonResponse 401 (.object [("error", .text "unauthenticated")])
  | .notFound => emptyResponse 404
  | .wrongMethod => emptyResponse 405
  | .badBody fault => textResponse fault.status fault.message
  | .unknownRule name => problemResponse 400 "invalid_rule" (Rule.unknownMessage name)
  | .unknownKid kid => problemResponse 400 "unknown_kid" s!"kid '{kid}' is not registered"
  | .keysRefused error => problemResponse 422 "key_material" error.message
  | .storeRefused error => storeResponse error
  | .tokenFailed => problemResponse 500 "token_error" "could not issue token"
  | .healthy => emptyResponse 200
  | .granted => emptyResponse 204
  | .keys activeKid published => jsonResponse 200 (keysDocument activeKid published)
  | .caller claims =>
      jsonResponse 200 (.object [("user_id", claims.subject.toDocument), ("claims", claims.toDocument)])
  | .token text kid expiresAt =>
      jsonResponse 200 (.object [
        ("token", .text text), ("kid", .text kid), ("expires_at", .text (Timestamp.write expiresAt))])
  | .users listed => jsonResponse 200 (.array (listed.map User.toDocument))
  | .created made => jsonResponse 201 made.toDocument
  | .user found => jsonResponse 200 found.toDocument
  | .identity shown => jsonResponse 200 shown.toDocument
  | .acknowledged => textResponse 200 "ok"

/-! ## Replies to errors, with the events that tell their causes -/

/-- An answer and the events that go with it. -/
structure Answer where
  reply : Reply
  log : List Log.Event

/-- The answer to a failed operation on keys. -/
def Answer.ofKeyError : KeyError → Answer
  | .notRegistered kid => ⟨.unknownKid kid, []⟩
  | error => ⟨.keysRefused error, [⟨.warn, "key reload failed", [("error", error.message)]⟩]⟩

/-- The answer to a token that could not be issued. -/
def Answer.ofTokenError (error : TokenError) : Answer :=
  ⟨.tokenFailed, [⟨.error, "token issuance failed", [("error", error.message)]⟩]⟩

/-- The answer to an error of a user store. -/
def Answer.ofStoreError : UserStoreError → Answer
  | .unavailable reason =>
      ⟨.storeRefused (.unavailable reason), [⟨.error, "user store unavailable", [("error", reason)]⟩]⟩
  | error => ⟨.storeRefused error, []⟩

end TokenAuthority.Http
