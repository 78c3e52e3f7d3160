import TokenAuthority.Http.Router

/-!
# The API

The routes of the server. Health, public keys and checks for other services are open to anyone; every other path,
known or unknown, is for verified callers.
-/

namespace TokenAuthority.Http

/-- The literal segments of a path. -/
def literals (texts : List String) : List PathPart := texts.map .literal

/-- A route that is open to anyone. -/
def openRoute (path : List String) (get post : Option PublicEndpoint) : Route :=
  ⟨literals path, false, none, get.map .anyone, post.map .anyone⟩

/-- A route for verified callers who pass a guard. -/
def guardedRoute (pattern : List PathPart) (guard : Guard) (get post : Option CallerEndpoint) : Route :=
  ⟨pattern, true, some guard, get.map .callers, post.map .callers⟩

/-- The pattern of the paths about one user. -/
def userPattern (rest : List String) : List PathPart :=
  literals ["v1", "users"] ++ .parameter "user_id" :: literals rest

/-- The routes of the server. -/
def api : Router where
  routes := [
    openRoute ["health"] (some .health) none,
    openRoute ["v1", "auth", "keys"] (some .keys) none,
    openRoute ["v1", "auth", "authorize"] none (some .authorize),
    guardedRoute (literals ["v1", "auth", "authenticate"]) (.plain .any) (some .authenticate) none,
    guardedRoute (literals ["v1", "auth", "token"]) (.plain .any) none (some .refreshToken),
    guardedRoute (literals ["v1", "admin", "keys", "reload"]) (.plain .adminOnly) none (some .reloadKeys),
    guardedRoute (literals ["v1", "users"]) (.plain .adminOnly) (some .listUsers) (some .createUser),
    guardedRoute (userPattern []) (.subject .adminOrSubject) (some .showUser) none,
    guardedRoute (userPattern ["token"]) (.subject .adminOnly) none (some .mintToken)]
  verifiesUnknown := true

/-! ## Trying out guards -/

/-- A route that shows the identity of whoever passes a guard. -/
def probeRoute (verifies : Bool) (pattern : List PathPart) (guard : Option Guard) : Route :=
  ⟨pattern, verifies, guard, some (.callers .showIdentity), none⟩

/-- The routes on which each guard is tried with one rule: without a path parameter, with the one that names a
user, and with another. -/
def ruleProbes (verifies : Bool) (rule : Rule) : List Route := [
  probeRoute verifies (literals ["plain", rule.name]) (some (.plain rule)),
  probeRoute verifies (literals ["subject", rule.name]) (some (.subject rule)),
  probeRoute verifies (literals ["subject", rule.name] ++ [.parameter "user_id"]) (some (.subject rule)),
  probeRoute verifies (literals ["other", rule.name] ++ [.parameter "id"]) (some (.subject rule))]

/-- A server that shows what the guards let through, with or without verifying callers first. -/
def guardProbe (verifies : Bool) : Router where
  routes :=
    ⟨literals ["open"], verifies, none, some (.anyone .acknowledge), none⟩ ::
    probeRoute verifies (literals ["identity"]) none :: Rule.all.flatMap (ruleProbes verifies)
  verifiesUnknown := verifies

end TokenAuthority.Http
