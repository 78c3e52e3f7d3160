import TokenAuthority.Http.Guard
import TokenAuthority.Http.Path

/-!
# Routing

A router is a list of routes. A route has a pattern of paths, says whether callers are verified before anything
else, and has a guard and an endpoint for each method. The guard stands before the methods, so that only a caller
it lets through is told that a route lacks a method; a request for an unknown path meets no route at all.
-/

namespace TokenAuthority.Http

/-- A route. -/
structure Route where
  pattern : List PathPart
  /-- Whether callers are verified first. -/
  verifies : Bool
  guard : Option Guard
  get : Option Endpoint
  post : Option Endpoint
  deriving DecidableEq, Repr

namespace Route

/-- The endpoint for a method; one to get is there to ask for its head as well. -/
def endpoint? (route : Route) : Method → Option Endpoint
  | .get | .head => route.get
  | .post => route.post
  | .other _ => none

/-- The methods of a route as they are told. -/
def allowed (route : Route) : String :=
  ",".intercalate ((if route.get.isSome then ["GET", "HEAD"] else []) ++ (if route.post.isSome then ["POST"] else []))

end Route

/-- The routes of a server. -/
structure Router where
  routes : List Route
  /-- Whether callers are verified also where no route is. -/
  verifiesUnknown : Bool
  deriving DecidableEq, Repr

/-- The outcome of a request: what the server holds afterwards, the response, and the events. -/
structure Outcome where
  service : Service
  response : Response
  log : List Log.Event

namespace Router

/-- The route for a path, with the parameters of the path. -/
def find? (router : Router) (path : List Char) : Option (Route × List (String × List Char)) :=
  router.routes.findSome? fun route => (Path.parameters? route.pattern path).map fun found => (route, found)

/-- Verifies the caller if the route, or its absence, asks for it. -/
def verifyCaller (verifies : Bool) (service : Service) (moment : Moment) (request : Request) :
    Passage (Option Identity) :=
  if verifies then
    match authenticate service moment.now request with
    | .pass identity log => .pass (some identity) log
    | .stop event => .stop event
  else .pass none []

/-- Runs the guard of a route, if it has one, on a caller who may not be verified. -/
def passGuard (guard : Option Guard) (users : UserStore) (parameters : List (String × List Char))
    (identity : Option Identity) : Passage (Option Identity) :=
  match guard, identity with
  | none, identity => .pass identity []
  | some _, none => .stop Guard.withoutIdentity
  | some guard, some identity => match guard.check users (Path.decodeParameters parameters) identity with
    | .pass identity log => .pass (some identity) log
    | .stop event => .stop event

/-- Serves a request on a route, for a caller who may be verified: past the guard, the endpoint for the method
answers. -/
def serveRoute (route : Route) (parameters : List (String × List Char)) (service : Service) (moment : Moment)
    (request : Request) (identity : Option Identity) : Service × Answer :=
  match passGuard route.guard service.users parameters identity with
  | .stop event => (service, ⟨.unauthenticated, [event]⟩)
  | .pass identity log => match route.endpoint? request.method with
    | none => (service, ⟨.wrongMethod, log⟩)
    | some endpoint =>
        let (after, answer) := endpoint.run service moment request identity
        (after, ⟨answer.reply, log ++ answer.log⟩)

/-- Serves a request. -/
def serve (router : Router) (service : Service) (moment : Moment) (request : Request) : Service × Answer :=
  let found := router.find? request.path
  let verifies := match found with
    | some (route, _) => route.verifies
    | none => router.verifiesUnknown
  match verifyCaller verifies service moment request with
  | .stop event => (service, ⟨.unauthenticated, [event]⟩)
  | .pass identity log =>
      let (after, answer) := match found with
        | some (route, parameters) => serveRoute route parameters service moment request identity
        | none => (service, ⟨.notFound, []⟩)
      (after, ⟨answer.reply, log ++ answer.log⟩)

/-- The response to a request: methods are told where the route lacks the one asked for, and no body is sent
where only the head is asked for. -/
def respond (router : Router) (request : Request) (reply : Reply) : Response :=
  let response := reply.toResponse
  match router.find? request.path with
  | none => response
  | some (route, _) => match route.endpoint? request.method with
    | none => { response with allow := some route.allowed }
    | some _ => if request.method = .head then { response with body := "" } else response

/-- Handles a request. -/
def handle (router : Router) (service : Service) (moment : Moment) (request : Request) : Outcome :=
  let (after, answer) := router.serve service moment request
  ⟨after, router.respond request answer.reply, answer.log⟩

end Router

end TokenAuthority.Http
