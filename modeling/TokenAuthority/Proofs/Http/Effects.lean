import TokenAuthority.Proofs.Http.Routing
import TokenAuthority.Proofs.Users.Tables

/-!
# What one request does

Every request, on whatever path, either changes nothing and is given no token, or is given a token for a user of the
store, or is one of the two by which an administrator changes the server. Main statement: `serve_effect`.
-/

namespace TokenAuthority.Http

/-! ## What gets past the guards of a router -/

/-- Only what is posted gets the endpoint for posts. -/
theorem Route.endpoint?_cases {route : Route} {method : Method} {endpoint : Endpoint}
    (h : route.endpoint? method = some endpoint) :
    route.get = some endpoint ∨ (route.post = some endpoint ∧ method = .post) := by
  cases method with
  | get => exact .inl h
  | head => exact .inl h
  | post => exact .inr ⟨h, rfl⟩
  | other name => cases h

namespace Router

variable {router : Router} {service : Service} {moment : Moment} {request : Request}
  {found : List (String × List Char)}

/-- A request that an endpoint of a route answers, for a caller who may be verified. -/
structure Answered (router : Router) (service : Service) (moment : Moment) (request : Request) (route : Route)
    (found : List (String × List Char)) (endpoint : Endpoint) (identity : Option Identity) : Prop where
  leads : router.find? request.path = some (route, found)
  method : route.endpoint? request.method = some endpoint
  passes : ∃ caller, (verifyCaller route.verifies service moment request).Passes caller ∧
    (passGuard route.guard service.users found caller).Passes identity

/-- A reply that is given where no endpoint is reached. -/
def Turned (reply : Reply) : Prop :=
  reply = .unauthenticated ∨ reply = .notFound ∨ reply = .wrongMethod

/-- A request is turned away without any effect, or an endpoint answers it. -/
theorem serve_cases (router : Router) (service : Service) (moment : Moment) (request : Request) :
    ((router.serve service moment request).1 = service ∧ Turned (router.serve service moment request).2.reply) ∨
    ∃ route found endpoint identity, Answered router service moment request route found endpoint identity ∧
      (router.serve service moment request).1 = (endpoint.run service moment request identity).1 ∧
      (router.serve service moment request).2.reply = (endpoint.run service moment request identity).2.reply := by
  cases hfind : router.find? request.path with
  | none =>
      cases hverify : verifyCaller router.verifiesUnknown service moment request with
      | stop event =>
          have hserve : router.serve service moment request = (service, ⟨.unauthenticated, [event]⟩) := by
            simp only [serve, hfind, hverify]
          exact .inl (by rw [hserve]; exact ⟨rfl, .inl rfl⟩)
      | pass caller log =>
          have hserve : router.serve service moment request = (service, ⟨.notFound, log ++ []⟩) := by
            simp only [serve, hfind, hverify]
          exact .inl (by rw [hserve]; exact ⟨rfl, .inr (.inl rfl)⟩)
  | some entry =>
      obtain ⟨route, found⟩ := entry
      cases hverify : verifyCaller route.verifies service moment request with
      | stop event =>
          have hserve : router.serve service moment request = (service, ⟨.unauthenticated, [event]⟩) := by
            simp only [serve, hfind, hverify]
          exact .inl (by rw [hserve]; exact ⟨rfl, .inl rfl⟩)
      | pass caller log =>
          have hserve : router.serve service moment request =
              ((serveRoute route found service moment request caller).1,
                ⟨(serveRoute route found service moment request caller).2.reply,
                  log ++ (serveRoute route found service moment request caller).2.log⟩) := by
            simp only [serve, hfind, hverify]
          rw [hserve]
          cases hguard : passGuard route.guard service.users found caller with
          | stop event => exact .inl (by simp only [serveRoute, hguard]; exact ⟨trivial, .inl rfl⟩)
          | pass identity log' =>
              cases hmethod : route.endpoint? request.method with
              | none => exact .inl (by simp only [serveRoute, hguard, hmethod]; exact ⟨trivial, .inr (.inr rfl)⟩)
              | some endpoint =>
                  refine .inr ⟨route, found, endpoint, identity,
                    ⟨hfind, hmethod, caller, ⟨log, hverify⟩, log', hguard⟩, ?_⟩
                  simp only [serveRoute, hguard, hmethod, and_self]

theorem mem_of_find? {route : Route} {path : List Char} (h : router.find? path = some (route, found)) :
    route ∈ router.routes := by
  obtain ⟨other, hmem, hmap⟩ := List.exists_of_findSome?_eq_some h
  obtain ⟨_, _, heq⟩ := Option.map_eq_some_iff.1 hmap
  cases heq
  exact hmem

/-- Where more than the head is asked for, the reply of an endpoint goes out as it is. -/
theorem Answered.respond {route : Route} {endpoint : Endpoint} {identity : Option Identity}
    (h : Answered router service moment request route found endpoint identity) (hhead : request.method ≠ .head)
    (reply : Reply) : router.respond request reply = reply.toResponse := by
  simp [Router.respond, h.leads, h.method, hhead]

theorem admitted_of_passes {guard : Guard} {caller identity : Option Identity}
    (hverify : (verifyCaller true service moment request).Passes caller)
    (hguard : (passGuard (some guard) service.users found caller).Passes identity) :
    ∃ who, identity = some who ∧ Admitted guard service moment.now request found who := by
  rcases authenticates_of_verifyCaller hverify with ⟨hfalse, _⟩ | ⟨verified, _, rfl, hauthenticate⟩
  · cases hfalse
  · rcases admits_of_passGuard hguard with ⟨hnone, _⟩ | ⟨_, _, who, hsome, hcaller, hwho, hadmits⟩
    · cases hnone
    · cases hsome
      cases hcaller
      exact ⟨who, hwho, verified, hauthenticate, Guard.check_passes_iff.2 hadmits⟩

/-- On a route for verified callers who pass a guard, an endpoint for callers answers whoever is admitted. -/
theorem Answered.admitted {pattern : List PathPart} {guard : Guard} {get post : Option CallerEndpoint}
    {endpoint : Endpoint} {identity : Option Identity}
    (h : Answered router service moment request (guardedRoute pattern guard get post) found endpoint identity) :
    ∃ e who, endpoint = .callers e ∧ identity = some who ∧ Admitted guard service moment.now request found who ∧
      (get = some e ∨ (post = some e ∧ request.method = .post)) := by
  obtain ⟨caller, hverify, hguard⟩ := h.passes
  obtain ⟨who, hwho, hadmitted⟩ := admitted_of_passes hverify hguard
  rcases Route.endpoint?_cases h.method with hget | ⟨hpost, hmethod⟩
  · obtain ⟨e, he, rfl⟩ := Option.map_eq_some_iff.1 hget
    exact ⟨e, who, rfl, hwho, hadmitted, .inl he⟩
  · obtain ⟨e, he, rfl⟩ := Option.map_eq_some_iff.1 hpost
    exact ⟨e, who, rfl, hwho, hadmitted, .inr ⟨he, hmethod⟩⟩

end Router

/-! ## What the endpoints do -/

/-- A request made with a token that verifies to some claims. -/
def CalledWith (service : Service) (now : Instant) (request : Request) (claims : Claims) : Prop :=
  ∃ token, request.Bears token ∧ service.authority.verify service.registry token now = .ok claims

/-- The effect of a request, with its reply: nothing, a token for a user of the store, or a change made with the
claims of an administrator. -/
inductive Effect (service : Service) (moment : Moment) (request : Request) : Service → Reply → Prop
  | quiet {reply : Reply} (htoken : ∀ text kid expiresAt, reply ≠ .token text kid expiresAt) :
      Effect service moment request service reply
  | issued {user : User} {text : String} {claims : Claims} (hstored : service.users.Holds user)
      (hmint : service.authority.mint service.registry user.id user.roles moment.now = .ok (text, claims))
      (hrespond : ∀ reply, api.respond request reply = reply.toResponse) :
      Effect service moment request service (.token text service.registry.activeKid claims.expiresAt)
  | reloaded {claims : Claims} {registry : Registry} (hcalled : CalledWith service moment.now request claims)
      (hadmin : claims.roles.admin = true)
      (hreload : service.registry.reload moment.keySource (Endpoint.requestedKid request) = .ok registry) :
      Effect service moment request { service with registry := registry } (Endpoint.keysReply registry registry)
  | created {claims : Claims} {newUser : NewUser} {user : User} {users : UserStore}
      (hcalled : CalledWith service moment.now request claims) (hadmin : claims.roles.admin = true)
      (hcreate : service.users.create newUser moment.freshId moment.now = .ok (user, users)) :
      Effect service moment request { service with users := users } (.created user)

section

variable {service : Service} {moment : Moment} {request : Request} {found : List (String × List Char)} {who : Identity}

/-- A change is made with the claims of an administrator. -/
theorem Effect.called_of_ne {after : Service} {reply : Reply} (h : Effect service moment request after reply)
    (hne : after ≠ service) : ∃ claims, CalledWith service moment.now request claims ∧ claims.roles.admin = true := by
  cases h with
  | quiet => exact absurd rfl hne
  | issued => exact absurd rfl hne
  | reloaded hcalled hadmin => exact ⟨_, hcalled, hadmin⟩
  | created hcalled hadmin => exact ⟨_, hcalled, hadmin⟩

theorem called_of_admitted {guard : Guard} (h : Router.Admitted guard service moment.now request found who) :
    CalledWith service moment.now request who.claims := by
  obtain ⟨caller, hauthenticate, hcheck⟩ := h
  obtain ⟨token, hbears, hverify, hnone⟩ := authenticate_passes_iff.1 hauthenticate
  exact ⟨token, hbears, (Guard.check_passes_iff.1 hcheck).claims_eq hnone ▸ hverify⟩

theorem grants_of_admitted {guard : Guard} (h : Router.Admitted guard service moment.now request found who) :
    guard.rule.Grants who.claims (who.subject.map User.id) := by
  obtain ⟨caller, hauthenticate, hcheck⟩ := h
  obtain ⟨_, _, _, hnone⟩ := authenticate_passes_iff.1 hauthenticate
  exact (Guard.check_passes_iff.1 hcheck).grants hnone

theorem loaded_of_admitted {guard : Guard} {user : User}
    (h : Router.Admitted guard service moment.now request found who) (hsubject : who.subject = some user) :
    ∃ raw id, Guard.subjectParameter? (Path.decodeParameters found) = some raw ∧ UserId.ofText raw = .ok id ∧
      service.users.findInTime id = .found user := by
  obtain ⟨caller, hauthenticate, hcheck⟩ := h
  obtain ⟨_, _, _, hnone⟩ := authenticate_passes_iff.1 hauthenticate
  exact (Guard.check_passes_iff.1 hcheck).loaded hnone hsubject

theorem holds_of_admitted {guard : Guard} {user : User}
    (h : Router.Admitted guard service moment.now request found who) (hsubject : who.subject = some user) :
    service.users.Holds user := by
  obtain ⟨_, _, _, _, hfound⟩ := loaded_of_admitted h hsubject
  exact UserStore.holds_of_find (UserStore.find_of_findInTime hfound)

theorem issueToken_effect {user : User} (hstored : service.users.Holds user)
    (hrespond : ∀ reply, api.respond request reply = reply.toResponse) :
    Effect service moment request service
      (Endpoint.issueToken service.authority service.registry service.registry user moment.now).reply := by
  unfold Endpoint.issueToken
  split
  · rename_i text claims hmint
    exact .issued hstored hmint hrespond
  · exact .quiet (by simp [Answer.ofTokenError])

theorem refresh_effect (hrespond : ∀ reply, api.respond request reply = reply.toResponse) :
    Effect service moment request service (Endpoint.refresh service.authority service.registry service.registry
      service.users who moment.now).reply := by
  unfold Endpoint.refresh
  split
  · rename_i user hfind
    exact issueToken_effect (UserStore.holds_of_find hfind) hrespond
  · exact .quiet (by simp)

theorem mint_effect (hstored : ∀ user, who.subject = some user → service.users.Holds user)
    (hrespond : ∀ reply, api.respond request reply = reply.toResponse) :
    Effect service moment request service (Endpoint.mint service.authority service.registry service.registry who
      moment.now).reply := by
  unfold Endpoint.mint
  split
  · exact .quiet (by simp)
  · rename_i user hsubject
    exact issueToken_effect (hstored user hsubject) hrespond

theorem reload_effect (hcalled : CalledWith service moment.now request who.claims)
    (hadmin : who.claims.roles.admin = true) :
    Effect service moment request (Endpoint.reload service moment request who).1
      (Endpoint.reload service moment request who).2.reply := by
  unfold Endpoint.reload
  split
  · rename_i error _
    refine .quiet fun _ _ _ => ?_
    cases error <;> simp [Answer.ofKeyError]
  · rename_i registry hreload
    exact .reloaded hcalled hadmin hreload

theorem create_effect (hcalled : CalledWith service moment.now request who.claims)
    (hadmin : who.claims.roles.admin = true) :
    Effect service moment request (Endpoint.create service moment request who).1
      (Endpoint.create service moment request who).2.reply := by
  unfold Endpoint.create
  split
  · exact .quiet (by simp)
  · split
    · rename_i error _
      refine .quiet fun _ _ _ => ?_
      cases error <;> simp [Answer.ofStoreError]
    · rename_i user users hcreate
      exact .created hcalled hadmin hcreate

theorem list_effect : Effect service moment request service (Endpoint.list service.users).reply := by
  unfold Endpoint.list
  split
  · exact .quiet (by simp)
  · rename_i error _
    cases error <;> exact .quiet (by simp [Answer.ofStoreError])

theorem showSubject_effect : Effect service moment request service (Endpoint.showSubject who).reply := by
  unfold Endpoint.showSubject
  split
  · exact .quiet (by simp)
  · exact .quiet (by simp)

theorem judge_effect {check : Endpoint.Check} :
    Effect service moment request service (Endpoint.judge check moment.now).reply := by
  unfold Endpoint.judge
  split
  · exact .quiet (by simp)
  · split
    · exact .quiet (by simp)
    · split
      · exact .quiet (by simp)
      · exact .quiet (by simp)

theorem Router.Answered.anyone_effect {path : List String} {get post : Option PublicEndpoint} {endpoint : Endpoint}
    {identity : Option Identity}
    (h : Answered api service moment request (openRoute path get post) found endpoint identity) :
    Effect service moment request (endpoint.run service moment request identity).1
      (endpoint.run service moment request identity).2.reply := by
  have hanyone : ∃ e, endpoint = .anyone e := by
    rcases Route.endpoint?_cases h.method with hget | ⟨hpost, _⟩
    · obtain ⟨e, _, rfl⟩ := Option.map_eq_some_iff.1 hget
      exact ⟨e, rfl⟩
    · obtain ⟨e, _, rfl⟩ := Option.map_eq_some_iff.1 hpost
      exact ⟨e, rfl⟩
  obtain ⟨e, rfl⟩ := hanyone
  cases e with
  | health => exact .quiet (by simp [Endpoint.run, PublicEndpoint.run])
  | keys => exact .quiet (by simp [Endpoint.run, PublicEndpoint.run, Endpoint.keysReply])
  | authorize =>
      simp only [Endpoint.run, PublicEndpoint.run]
      split
      · exact judge_effect
      · exact .quiet (by simp)
  | acknowledge => exact .quiet (by simp [Endpoint.run, PublicEndpoint.run])

end

/-! ## What the server does -/

/-- Serving a request has one of the effects that there are. -/
theorem serve_effect (service : Service) (moment : Moment) (request : Request) :
    Effect service moment request (api.serve service moment request).1 (api.serve service moment request).2.reply := by
  rcases api.serve_cases service moment request with
    ⟨hsame, hturned⟩ | ⟨route, found, endpoint, identity, h, hafter, hreply⟩
  · rw [hsame]
    rcases hturned with hreply | hreply | hreply
    all_goals exact .quiet (by simp [hreply])
  · rw [hafter, hreply]
    have hrespond (hpost : request.method = .post) : ∀ reply, api.respond request reply = reply.toResponse :=
      h.respond (by simp [hpost])
    have hmem := Router.mem_of_find? h.leads
    simp only [api, List.mem_cons, List.not_mem_nil, or_false] at hmem
    -- One case for each route, in the order in which they are listed.
    rcases hmem with rfl | rfl | rfl | rfl | rfl | rfl | rfl | rfl | rfl
    · exact h.anyone_effect
    · exact h.anyone_effect
    · exact h.anyone_effect
    · obtain ⟨e, who, rfl, rfl, _, he | ⟨he, _⟩⟩ := h.admitted
      · cases he
        exact .quiet (by simp [Endpoint.run, CallerEndpoint.run])
      · cases he
    · obtain ⟨e, who, rfl, rfl, _, he | ⟨he, hpost⟩⟩ := h.admitted
      · cases he
      · cases he
        exact refresh_effect (hrespond hpost)
    · obtain ⟨e, who, rfl, rfl, hadmitted, he | ⟨he, _⟩⟩ := h.admitted
      · cases he
      · cases he
        exact reload_effect (called_of_admitted hadmitted) (grants_of_admitted hadmitted)
    · obtain ⟨e, who, rfl, rfl, hadmitted, he | ⟨he, _⟩⟩ := h.admitted
      · cases he
        exact list_effect
      · cases he
        exact create_effect (called_of_admitted hadmitted) (grants_of_admitted hadmitted)
    · obtain ⟨e, who, rfl, rfl, _, he | ⟨he, _⟩⟩ := h.admitted
      · cases he
        exact showSubject_effect
      · cases he
    · obtain ⟨e, who, rfl, rfl, hadmitted, he | ⟨he, hpost⟩⟩ := h.admitted
      · cases he
      · cases he
        exact mint_effect (fun _ => holds_of_admitted hadmitted) (hrespond hpost)

end TokenAuthority.Http
