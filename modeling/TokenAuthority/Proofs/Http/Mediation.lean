import TokenAuthority.Proofs.Http.Routing
import TokenAuthority.Proofs.Token.Issuance

/-!
# Every guarded route is guarded

No request reaches the endpoint of a guarded route unless its token verifies, its claims satisfy the rule of the
route, and the user its path names is found; all other requests are refused in the same words and change
nothing. Main statement: `GuardedRoute.handle_guarded`.
-/

namespace TokenAuthority.Http

/-- The answer to everyone who is kept out. -/
def refusal : Response :=
  ⟨401, some "application/json", none, "\x7b\"error\":\"unauthenticated\"\x7d"⟩

theorem toResponse_unauthenticated : Reply.unauthenticated.toResponse = refusal := rfl

/-- The routes that are for verified callers. -/
inductive GuardedRoute
  | authenticate
  | refreshToken
  | reloadKeys
  | listUsers
  | createUser
  | showUser
  | mintToken
  deriving DecidableEq, Repr

namespace GuardedRoute

/-! ## What each route is -/

/-- The method that a route answers. -/
def method : GuardedRoute → Method
  | .authenticate | .listUsers | .showUser => .get
  | .refreshToken | .reloadKeys | .createUser | .mintToken => .post

/-- Whether the path of a route names a user. -/
def namesUser : GuardedRoute → Bool
  | .showUser | .mintToken => true
  | _ => false

/-- The path of a route; the segment stands for a user where the path names one. -/
def path (route : GuardedRoute) (segment : List Char) : List Char :=
  match route with
  | .authenticate => "/v1/auth/authenticate".toList
  | .refreshToken => "/v1/auth/token".toList
  | .reloadKeys => "/v1/admin/keys/reload".toList
  | .listUsers | .createUser => "/v1/users".toList
  | .showUser => "/v1/users/".toList ++ segment
  | .mintToken => "/v1/users/".toList ++ (segment ++ "/token".toList)

/-- The rule that a route is wired with. -/
def rule : GuardedRoute → Rule
  | .authenticate | .refreshToken => .any
  | .reloadKeys | .listUsers | .createUser | .mintToken => .adminOnly
  | .showUser => .adminOrSubject

/-- The endpoint that a route leads to. -/
def endpoint : GuardedRoute → CallerEndpoint
  | .authenticate => .authenticate
  | .refreshToken => .refreshToken
  | .reloadKeys => .reloadKeys
  | .listUsers => .listUsers
  | .createUser => .createUser
  | .showUser => .showUser
  | .mintToken => .mintToken

/-- A request for a route. Where the path names a user, some segment stands for that user. -/
structure Matches (route : GuardedRoute) (request : Request) (segment : List Char) : Prop where
  method : request.method = route.method
  path : request.path = route.path segment
  segment : route.namesUser = true → segment ≠ [] ∧ '/' ∉ segment

/-! ## Where its requests go -/

/-- The guard of a route, which looks the user up where the path names one. -/
def guard (route : GuardedRoute) : Guard :=
  if route.namesUser then .subject route.rule else .plain route.rule

/-- The parameters that are found in the path of a route. -/
def parameters (route : GuardedRoute) (segment : List Char) : List (String × List Char) :=
  if route.namesUser then [("user_id", segment)] else []

theorem find?_showUser {segment : List Char} (hne : segment ≠ []) (hslash : '/' ∉ segment) :
    api.find? ("/v1/users/".toList ++ segment) =
      some (guardedRoute (userPattern []) (.subject .adminOrSubject) (some .showUser) none,
        [("user_id", segment)]) := by
  have hsegments : Path.segments ("v1".toList ++ '/' :: ("users".toList ++ '/' :: segment)) =
      ["v1".toList, "users".toList, segment] := by
    rw [Path.segments_append_slash (by decide), Path.segments_append_slash (by decide), Path.segments_of_notMem hslash]
  obtain ⟨c, cs, rfl⟩ := List.exists_cons_of_ne_nil hne
  show api.routes.findSome? (fun route => (Path.matchParts route.pattern
    (Path.segments ("v1".toList ++ '/' :: ("users".toList ++ '/' :: c :: cs)))).map fun found => (route, found)) = _
  rw [hsegments]
  rfl

theorem find?_mintToken {segment : List Char} (hne : segment ≠ []) (hslash : '/' ∉ segment) :
    api.find? ("/v1/users/".toList ++ (segment ++ "/token".toList)) =
      some (guardedRoute (userPattern ["token"]) (.subject .adminOnly) none (some .mintToken),
        [("user_id", segment)]) := by
  have hsegments : Path.segments ("v1".toList ++ '/' :: ("users".toList ++ '/' :: (segment ++ '/' :: "token".toList))) =
      ["v1".toList, "users".toList, segment, "token".toList] := by
    rw [Path.segments_append_slash (by decide), Path.segments_append_slash (by decide),
      Path.segments_append_slash hslash, Path.segments_of_notMem (by decide)]
  obtain ⟨c, cs, rfl⟩ := List.exists_cons_of_ne_nil hne
  show api.routes.findSome? (fun route => (Path.matchParts route.pattern
    (Path.segments ("v1".toList ++ '/' :: ("users".toList ++ '/' :: (c :: cs ++ '/' :: "token".toList))))).map
      fun found => (route, found)) = _
  rw [hsegments]
  rfl

/-- A request for a guarded route gets to its guard and to no other endpoint. -/
theorem reaches {route : GuardedRoute} {request : Request} {segment : List Char} (h : route.Matches request segment) :
    api.Reaches request route.guard route.endpoint (route.parameters segment) := by
  refine ⟨?_, by rw [h.method]; cases route <;> decide⟩
  rw [h.path, h.method]
  cases route with
  | authenticate => exact ⟨_, rfl, rfl, rfl, rfl⟩
  | refreshToken => exact ⟨_, rfl, rfl, rfl, rfl⟩
  | reloadKeys => exact ⟨_, rfl, rfl, rfl, rfl⟩
  | listUsers => exact ⟨_, rfl, rfl, rfl, rfl⟩
  | createUser => exact ⟨_, rfl, rfl, rfl, rfl⟩
  | showUser =>
      obtain ⟨hne, hslash⟩ := h.segment rfl
      exact ⟨_, find?_showUser hne hslash, rfl, rfl, rfl⟩
  | mintToken =>
      obtain ⟨hne, hslash⟩ := h.segment rfl
      exact ⟨_, find?_mintToken hne hslash, rfl, rfl, rfl⟩

/-! ## Who is let through -/

/-- The user that a segment of a path stands for: the segment decodes to the text of an id, and the store finds the
user in time. -/
def FindsUser (users : UserStore) (segment : List Char) (user : User) : Prop :=
  ∃ text id, Text.Utf8.text? (Path.percentDecode segment) = some text ∧ UserId.ofText text = .ok id ∧
    users.findInTime id = .found user

/-- What lets a request through on a route: a token it bears verifies at the instant, the claims satisfy the rule
for the user who is loaded, and that is the user of the path, or nobody where the path names none. -/
structure Entitled (route : GuardedRoute) (service : Service) (now : Instant) (request : Request)
    (segment : List Char) (identity : Identity) : Prop where
  verified : ∃ token, request.Bears token ∧
    service.authority.verify service.registry token now = .ok identity.claims
  granted : route.rule.Grants identity.claims (identity.subject.map User.id)
  unnamed : route.namesUser = false → identity.subject = none
  loaded : route.namesUser = true → ∃ user, identity.subject = some user ∧ FindsUser service.users segment user

variable {route : GuardedRoute} {service : Service} {moment : Moment} {now : Instant} {request : Request}
  {segment : List Char} {identity : Identity}

theorem decodeParameters_user :
    Path.decodeParameters [("user_id", segment)] =
      (Text.Utf8.text? (Path.percentDecode segment)).map fun text => [("user_id", text)] := by
  cases h : Text.Utf8.text? (Path.percentDecode segment) with
  | none => simp [Path.decodeParameters, h]
  | some text => simp [Path.decodeParameters, h]

theorem subjectParameter?_user :
    Guard.subjectParameter? (Path.decodeParameters [("user_id", segment)]) =
      Text.Utf8.text? (Path.percentDecode segment) := by
  rw [decodeParameters_user]
  cases Text.Utf8.text? (Path.percentDecode segment) with
  | none => rfl
  | some text => rfl

theorem admitted_of_entitled (h : route.Entitled service now request segment identity) :
    Router.Admitted route.guard service now request (route.parameters segment) identity := by
  obtain ⟨token, hbears, hverify⟩ := h.verified
  refine ⟨⟨identity.claims, none⟩, authenticate_passes_iff.2 ⟨token, hbears, hverify, rfl⟩, Guard.check_passes_iff.2 ?_⟩
  have hgranted := h.granted
  cases hnames : route.namesUser with
  | false =>
      have hsubject := h.unnamed hnames
      rw [hsubject] at hgranted
      rw [guard, hnames]
      exact ⟨by rw [← hsubject], hgranted⟩
  | true =>
      obtain ⟨user, hsubject, text, id, htext, hid, hfound⟩ := h.loaded hnames
      rw [hsubject] at hgranted
      have hraw : Guard.subjectParameter? (Path.decodeParameters [("user_id", segment)]) = some text := by
        rw [subjectParameter?_user, htext]
      simp only [guard, parameters, hnames, if_true, Guard.Admits, hraw]
      exact ⟨user, Guard.loadSubject_eq_ok_iff.2 ⟨id, hid, hfound⟩, by rw [← hsubject], hgranted⟩

/-- Whoever gets past the guard is entitled to, or the path names a user in no way that can be read and nobody is
loaded. -/
theorem entitled_of_admitted (h : Router.Admitted route.guard service now request (route.parameters segment) identity) :
    route.Entitled service now request segment identity ∨ (route.namesUser = true ∧ identity.subject = none) := by
  obtain ⟨⟨claims, subject⟩, hauthenticate, hcheck⟩ := h
  obtain ⟨token, hbears, hverify, hsubject⟩ := authenticate_passes_iff.1 hauthenticate
  cases hsubject
  have hadmits := Guard.check_passes_iff.1 hcheck
  cases hnames : route.namesUser with
  | false =>
      simp only [guard, hnames, Guard.Admits] at hadmits
      obtain ⟨rfl, hgrants⟩ := hadmits
      exact .inl ⟨⟨token, hbears, hverify⟩, hgrants, fun _ => rfl, fun h => by rw [hnames] at h; cases h⟩
  | true =>
      simp only [guard, parameters, hnames, if_true, Guard.Admits, subjectParameter?_user] at hadmits
      cases htext : Text.Utf8.text? (Path.percentDecode segment) with
      | none =>
          rw [htext] at hadmits
          obtain ⟨rfl, _⟩ := hadmits
          exact .inr ⟨rfl, rfl⟩
      | some text =>
          rw [htext] at hadmits
          obtain ⟨user, hload, rfl, hgrants⟩ := hadmits
          obtain ⟨id, hid, hfound⟩ := Guard.loadSubject_eq_ok_iff.1 hload
          have hfinds : FindsUser service.users segment user := ⟨text, id, htext, hid, hfound⟩
          refine .inl ⟨⟨token, hbears, hverify⟩, hgrants, fun h => ?_, fun _ => ⟨user, rfl, hfinds⟩⟩
          rw [hnames] at h
          cases h

/-- Without the user that a route is about its endpoint refuses too. -/
theorem run_of_subject_none (hnames : route.namesUser = true) (hsubject : identity.subject = none) :
    route.endpoint.run service moment request identity = (service, ⟨.unauthenticated, []⟩) := by
  cases route with
  | showUser => simp [endpoint, CallerEndpoint.run, Endpoint.showSubject, hsubject]
  | mintToken => simp [endpoint, CallerEndpoint.run, Endpoint.mint, hsubject]
  | _ => cases hnames

/-- A request for a guarded route is answered by the endpoint of the route for the verified claims and the loaded
user if it is entitled to that; all others get the one refusal and leave the server as it was. -/
theorem handle_guarded (h : route.Matches request segment) (service : Service) (moment : Moment) :
    (∀ identity, route.Entitled service moment.now request segment identity →
      (api.handle service moment request).service = (route.endpoint.run service moment request identity).1 ∧
      (api.handle service moment request).response =
        (route.endpoint.run service moment request identity).2.reply.toResponse) ∧
    ((∀ identity, ¬ route.Entitled service moment.now request segment identity) →
      (api.handle service moment request).service = service ∧
      (api.handle service moment request).response = refusal) := by
  refine ⟨fun identity hentitled => ?_, fun hkept => ?_⟩
  · exact Router.handle_of_admitted (reaches h) (admitted_of_entitled hentitled)
  · rw [← toResponse_unauthenticated]
    by_cases hadmitted : ∃ identity,
        Router.Admitted route.guard service moment.now request (route.parameters segment) identity
    · obtain ⟨identity, hidentity⟩ := hadmitted
      rcases entitled_of_admitted hidentity with hentitled | ⟨hnames, hsubject⟩
      · exact absurd hentitled (hkept identity)
      · have hhandle := Router.handle_of_admitted (reaches h) hidentity
        rwa [run_of_subject_none hnames hsubject] at hhandle
    · exact Router.handle_of_not_admitted (reaches h) fun identity hidentity => hadmitted ⟨identity, hidentity⟩

/-- Where the path names nobody, whoever has verified claims that satisfy the rule gets to the endpoint. -/
theorem handle_of_granted (h : route.Matches request segment) (hunnamed : route.namesUser = false) {token : String}
    {claims : Claims} (hbears : request.Bears token)
    (hverify : service.authority.verify service.registry token moment.now = .ok claims)
    (hgrants : route.rule.Grants claims none) :
    (api.handle service moment request).service = (route.endpoint.run service moment request ⟨claims, none⟩).1 ∧
    (api.handle service moment request).response =
      (route.endpoint.run service moment request ⟨claims, none⟩).2.reply.toResponse := by
  have hentitled : route.Entitled service moment.now request segment ⟨claims, none⟩ := by
    refine ⟨⟨token, hbears, hverify⟩, hgrants, fun _ => rfl, fun hnames => ?_⟩
    rw [hunnamed] at hnames
    cases hnames
  exact Router.handle_of_admitted (reaches h) (admitted_of_entitled hentitled)

/-! ## A sample -/

open Authority (sampleAuthority sampleRegistry sampleKid sampleClaims)

/-- A moment five nanoseconds after the start of 1970, in which the source holds no keys. -/
def sampleMoment : Moment where
  now := ⟨0, 5, by decide, by decide, by decide, by decide⟩
  freshId := ⟨8⟩
  keySource := .ok []

/-- The user that the sample claims are about. -/
def sampleUser : User :=
  ⟨sampleClaims.subject, "user@example.org", "User", sampleClaims.roles, sampleMoment.now⟩

/-- A service that knows that user and no other. -/
def sampleService : Service :=
  ⟨sampleAuthority, sampleRegistry sampleKid, .memory ⟨[sampleUser], by simp⟩⟩

/-- A request to be shown that user, with a query behind its path. -/
def sampleRequest (headers : List (String × List UInt8)) : Request :=
  ⟨.get, "/v1/users/00000000-0000-0000-0000-000000000007?full", headers, []⟩

theorem sampleRequest_matches (headers : List (String × List UInt8)) :
    GuardedRoute.showUser.Matches (sampleRequest headers) "00000000-0000-0000-0000-000000000007".toList :=
  ⟨rfl, by simp only [Request.path, sampleRequest]; decide, fun _ => by decide⟩

theorem sampleUser_found :
    FindsUser sampleService.users "00000000-0000-0000-0000-000000000007".toList sampleUser :=
  ⟨"00000000-0000-0000-0000-000000000007", ⟨7⟩, by decide +kernel, by decide +kernel, rfl⟩

/-- The sample user may be shown to a caller with the sample claims, and not to one without a token. -/
theorem handle_guarded_sample : ∃ token : String,
    (api.handle sampleService sampleMoment
      (sampleRequest [("Authorization", Text.Utf8.encode (bearerScheme ++ token.toList))])).response =
      (Reply.user sampleUser).toResponse ∧
    (api.handle sampleService sampleMoment (sampleRequest [])).response = refusal := by
  obtain ⟨token, hissue⟩ := Authority.exists_issue_sample
  obtain ⟨hne, hvisible⟩ := Authority.visible_of_issue hissue
  obtain ⟨s, pair, haccepted⟩ : ∃ s pair, sampleAuthority.Accepted (sampleRegistry sampleKid) token sampleMoment.now
      sampleClaims s pair :=
    Authority.accepted_of_issue rfl rfl rfl (by decide) hissue (by decide)
  refine ⟨token, ?_, ?_⟩
  · have hentitled : GuardedRoute.showUser.Entitled sampleService sampleMoment.now
        (sampleRequest [("Authorization", Text.Utf8.encode (bearerScheme ++ token.toList))])
        "00000000-0000-0000-0000-000000000007".toList ⟨sampleClaims, some sampleUser⟩ :=
      ⟨⟨token, Request.bears_of_header hvisible hne rfl, Authority.verify_of_accepted haccepted⟩, .inl rfl, nofun,
        fun _ => ⟨sampleUser, rfl, sampleUser_found⟩⟩
    exact ((handle_guarded (sampleRequest_matches _) sampleService sampleMoment).1 _ hentitled).2
  · refine ((handle_guarded (sampleRequest_matches _) sampleService sampleMoment).2 fun identity hentitled => ?_).2
    obtain ⟨_, ⟨value, raw, hheader, _⟩, _⟩ := hentitled.verified
    cases hheader

end GuardedRoute

end TokenAuthority.Http
