import TokenAuthority.Proofs.Http.Effects
import TokenAuthority.Proofs.Http.Mediation

/-!
# What the answers give away

The answers to callers who are no administrators depend on no user but the caller, and their requests change
nothing. Main statement: `handle_of_not_admin`.
-/

namespace TokenAuthority

/-! ## Rules -/

namespace Rule

/-- Whether a rule that is about somebody lets through only administrators and that very user. -/
def isDiscreet : Rule → Bool
  | .adminOnly | .adminOrSubject => true
  | .any | .userOnly => false

theorem self_of_grants {rule : Rule} {claims : Claims} {id : UserId} (hdiscreet : rule.isDiscreet = true)
    (hnotAdmin : claims.roles.admin = false) (h : rule.Grants claims (some id)) : id = claims.subject := by
  cases rule with
  | any => cases hdiscreet
  | userOnly => cases hdiscreet
  | adminOnly =>
      rw [Grants, hnotAdmin] at h
      cases h
  | adminOrSubject =>
      rcases h with hadmin | ⟨hself, _⟩
      · rw [hnotAdmin] at hadmin
        cases hadmin
      · exact Option.some.inj hself

end Rule

namespace Http

/-! ## Stages that end alike -/

namespace Passage

variable {α : Type} {a b : Passage α}

/-- Two stages that are both left with the same finding or not left at all, whatever they log. -/
def Alike (a b : Passage α) : Prop := ∀ found, a.Passes found ↔ b.Passes found

theorem Alike.cases (h : a.Alike b) :
    (∃ event event', a = .stop event ∧ b = .stop event') ∨
    ∃ found log log', a = .pass found log ∧ b = .pass found log' := by
  cases a with
  | stop event =>
      have hstops : b.Stops := stops_iff.2 fun found hpasses => by
        obtain ⟨log, hlog⟩ := (h found).2 hpasses
        cases hlog
      obtain ⟨event', hevent'⟩ := hstops
      exact .inl ⟨event, event', rfl, hevent'⟩
  | pass found log =>
      obtain ⟨log', hlog'⟩ := (h found).1 ⟨log, rfl⟩
      exact .inr ⟨found, log, log', rfl, hlog'⟩

end Passage

/-! ## Callers and tables -/

/-- Claims without the administrator's role, about a user for whom two tables have the same record. -/
structure Unseeing (table other : UserTable) (claims : Claims) : Prop where
  notAdmin : claims.roles.admin = false
  same : table.find? claims.subject = other.find? claims.subject

theorem Unseeing.symm {table other : UserTable} {claims : Claims} (h : Unseeing table other claims) :
    Unseeing other table claims :=
  ⟨h.notAdmin, h.same.symm⟩

/-- A service with other users. -/
def Service.withUsers (service : Service) (users : UserStore) : Service :=
  { service with users := users }

/-! ## Guards -/

namespace Guard

variable {guard : Guard} {table other : UserTable} {parameters : Option (List (String × String))}
  {caller identity : Identity}

/-- Whether a guard that loads a user has a discreet rule. -/
def isDiscreet : Guard → Bool
  | .plain _ => true
  | .subject rule => rule.isDiscreet

theorem admits_of_unseeing (hdiscreet : guard.isDiscreet = true) (hunseeing : Unseeing table other caller.claims)
    (h : guard.Admits (.memory table) parameters caller identity) :
    guard.Admits (.memory other) parameters caller identity := by
  cases guard with
  | plain rule => exact h
  | subject rule =>
      simp only [Admits] at h ⊢
      split at h
      · exact h
      · obtain ⟨user, hload, rfl, hgrants⟩ := h
        obtain ⟨id, hid, hfound⟩ := loadSubject_eq_ok_iff.1 hload
        have hfind := UserStore.findInTime_memory_eq_found_iff.1 hfound
        -- Only the caller's own record lets the caller through, and that record is in both tables.
        have hself : id = caller.claims.subject :=
          (UserTable.find?_eq_some_iff.1 hfind).2.symm.trans
            (Rule.self_of_grants hdiscreet hunseeing.notAdmin hgrants)
        rw [hself, hunseeing.same, ← hself] at hfind
        exact ⟨user, loadSubject_eq_ok_iff.2 ⟨id, hid, UserStore.findInTime_memory_eq_found_iff.2 hfind⟩, rfl, hgrants⟩

theorem check_alike (hdiscreet : guard.isDiscreet = true) (hunseeing : Unseeing table other caller.claims) :
    (guard.check (.memory table) parameters caller).Alike (guard.check (.memory other) parameters caller) := by
  intro identity
  rw [check_passes_iff, check_passes_iff]
  exact ⟨admits_of_unseeing hdiscreet hunseeing, admits_of_unseeing hdiscreet hunseeing.symm⟩

end Guard

/-! ## Endpoints -/

/-- Whether an endpoint shows or changes more than what belongs to its caller. -/
def CallerEndpoint.isPrivileged : CallerEndpoint → Bool
  | .reloadKeys | .listUsers | .createUser => true
  | .authenticate | .refreshToken | .showUser | .mintToken | .showIdentity => false

/-- Whether an endpoint is privileged; those for anyone are not. -/
def Endpoint.isPrivileged : Endpoint → Bool
  | .anyone _ => false
  | .callers endpoint => endpoint.isPrivileged

variable {service : Service} {moment : Moment} {request : Request} {table other : UserTable}

theorem refresh_of_unseeing {authority : Authority} {signing naming : Registry} {who : Identity} {now : Instant}
    (h : Unseeing table other who.claims) :
    (Endpoint.refresh authority signing naming (.memory table) who now).reply =
      (Endpoint.refresh authority signing naming (.memory other) who now).reply := by
  simp only [Endpoint.refresh, UserStore.find, h.same]

theorem CallerEndpoint.run_of_unseeing {endpoint : CallerEndpoint} {who : Identity}
    (hprivileged : endpoint.isPrivileged = false) (h : Unseeing table other who.claims) :
    (endpoint.run (service.withUsers (.memory table)) moment request who).2.reply =
      (endpoint.run (service.withUsers (.memory other)) moment request who).2.reply := by
  cases endpoint with
  | authenticate => rfl
  | refreshToken => exact refresh_of_unseeing h
  | reloadKeys => cases hprivileged
  | listUsers => cases hprivileged
  | createUser => cases hprivileged
  | showUser => rfl
  | mintToken => rfl
  | showIdentity => rfl

theorem Endpoint.run_of_unseeing {endpoint : Endpoint} {identity : Option Identity}
    (hprivileged : endpoint.isPrivileged = false)
    (h : ∀ who, identity = some who → Unseeing table other who.claims) :
    (endpoint.run (service.withUsers (.memory table)) moment request identity).2.reply =
      (endpoint.run (service.withUsers (.memory other)) moment request identity).2.reply := by
  cases endpoint with
  | anyone endpoint => cases endpoint <;> rfl
  | callers endpoint =>
      cases identity with
      | none => rfl
      | some who => exact CallerEndpoint.run_of_unseeing hprivileged (h who rfl)

/-! ## Routes -/

/-- Whether the guard of a route is discreet, and its endpoints are privileged only if it is for administrators. -/
def Route.isDiscreet (route : Route) : Bool :=
  route.guard.all Guard.isDiscreet &&
    (route.guard.any (·.rule = .adminOnly) ||
      (route.get.all (!·.isPrivileged) && route.post.all (!·.isPrivileged)))

theorem isDiscreet_api : api.routes.all Route.isDiscreet = true := by decide

theorem unprivileged_of_endpoint? {route : Route} {method : Method} {endpoint : Endpoint}
    (hdiscreet : route.isDiscreet = true) (hrule : ∀ guard, route.guard = some guard → guard.rule ≠ .adminOnly)
    (hendpoint : route.endpoint? method = some endpoint) : endpoint.isPrivileged = false := by
  simp only [Route.isDiscreet, Bool.and_eq_true, Bool.or_eq_true, Option.all_eq_true, Option.any_eq_true,
    decide_eq_true_eq, Bool.not_eq_true'] at hdiscreet
  rcases hdiscreet.2 with ⟨guard, hguard, hadminOnly⟩ | ⟨hget, hpost⟩
  · exact absurd hadminOnly (hrule guard hguard)
  · rcases Route.endpoint?_cases hendpoint with h | ⟨h, _⟩
    · exact hget endpoint h
    · exact hpost endpoint h

namespace Router

variable {router : Router} {route : Route} {found : List (String × List Char)} {caller : Option Identity}

theorem passGuard_alike {guard : Option Guard} (hdiscreet : guard.all Guard.isDiscreet = true)
    (h : ∀ who, caller = some who → Unseeing table other who.claims) :
    (passGuard guard (.memory table) found caller).Alike (passGuard guard (.memory other) found caller) := by
  cases guard with
  | none => exact fun _ => Iff.rfl
  | some g =>
      cases caller with
      | none => exact fun _ => Iff.rfl
      | some who =>
          have hcheck : (g.check (.memory table) (Path.decodeParameters found) who).Alike
              (g.check (.memory other) (Path.decodeParameters found) who) := Guard.check_alike hdiscreet (h who rfl)
          intro identity
          rcases hcheck.cases with ⟨event, event', hstop, hstop'⟩ | ⟨after, log, log', hpass, hpass'⟩
          · simp [passGuard, hstop, hstop', Passage.Passes]
          · simp [passGuard, hpass, hpass', Passage.Passes]

/-- Whoever gets past the guard of a discreet route without the administrator's role meets no privileged endpoint. -/
theorem unprivileged_of_passGuard {users : UserStore} {identity : Option Identity} {method : Method}
    {endpoint : Endpoint} (hdiscreet : route.isDiscreet = true)
    (h : ∀ who, caller = some who → who.subject = none ∧ Unseeing table other who.claims)
    (hpasses : (passGuard route.guard users found caller).Passes identity)
    (hendpoint : route.endpoint? method = some endpoint) :
    endpoint.isPrivileged = false ∧ ∀ who, identity = some who → Unseeing table other who.claims := by
  rcases admits_of_passGuard hpasses with ⟨hnone, rfl⟩ | ⟨guard, who, after, hsome, rfl, rfl, hadmits⟩
  · refine ⟨unprivileged_of_endpoint? hdiscreet (fun guard hguard => ?_) hendpoint, fun who hwho => (h who hwho).2⟩
    rw [hnone] at hguard
    cases hguard
  · obtain ⟨hsubject, hunseeing⟩ := h who rfl
    have hafter : Unseeing table other after.claims := hadmits.claims_eq hsubject ▸ hunseeing
    refine ⟨unprivileged_of_endpoint? hdiscreet (fun guard' hguard' hadminOnly => ?_) hendpoint, fun who hwho => ?_⟩
    · have hgrants := hadmits.grants hsubject
      rw [hsome] at hguard'
      cases hguard'
      rw [hadminOnly, Rule.Grants, hafter.notAdmin] at hgrants
      cases hgrants
    · cases hwho
      exact hafter

theorem serveRoute_of_unseeing (hdiscreet : route.isDiscreet = true)
    (h : ∀ who, caller = some who → who.subject = none ∧ Unseeing table other who.claims) :
    (serveRoute route found (service.withUsers (.memory table)) moment request caller).2.reply =
      (serveRoute route found (service.withUsers (.memory other)) moment request caller).2.reply := by
  have hguard : route.guard.all Guard.isDiscreet = true := by
    simp only [Route.isDiscreet, Bool.and_eq_true] at hdiscreet
    exact hdiscreet.1
  have halike : (passGuard route.guard (.memory table) found caller).Alike
      (passGuard route.guard (.memory other) found caller) := passGuard_alike hguard fun who hwho => (h who hwho).2
  rcases halike.cases with ⟨event, event', hstop, hstop'⟩ | ⟨identity, log, log', hpass, hpass'⟩
  · simp only [serveRoute, Service.withUsers, hstop, hstop']
  · simp only [serveRoute, Service.withUsers, hpass, hpass']
    cases hendpoint : route.endpoint? request.method with
    | none => rfl
    | some endpoint =>
        obtain ⟨hprivileged, hunseeing⟩ := unprivileged_of_passGuard hdiscreet h ⟨log, hpass⟩ hendpoint
        exact Endpoint.run_of_unseeing hprivileged hunseeing

theorem serve_of_unseeing (hdiscreet : router.routes.all Route.isDiscreet = true)
    (h : ∀ claims, CalledWith service moment.now request claims → Unseeing table other claims) :
    (router.serve (service.withUsers (.memory table)) moment request).2.reply =
      (router.serve (service.withUsers (.memory other)) moment request).2.reply := by
  -- Who the caller is depends on the keys and on no user.
  have hverifies (verifies : Bool) (users : UserStore) :
      verifyCaller verifies (service.withUsers users) moment request =
        verifyCaller verifies service moment request := rfl
  simp only [serve, hverifies]
  cases hfind : router.find? request.path with
  | none =>
      cases verifyCaller router.verifiesUnknown service moment request with
      | stop event => rfl
      | pass caller log => rfl
  | some entry =>
      obtain ⟨route, found⟩ := entry
      have hroute : route.isDiscreet = true := List.all_eq_true.1 hdiscreet route (mem_of_find? hfind)
      cases hverify : verifyCaller route.verifies service moment request with
      | stop event => rfl
      | pass caller log =>
          refine serveRoute_of_unseeing hroute fun who hwho => ?_
          rcases authenticates_of_verifyCaller ⟨log, hverify⟩ with ⟨_, hnone⟩ | ⟨verified, _, rfl, hauthenticate⟩
          · rw [hnone] at hwho
            cases hwho
          · cases hwho
            obtain ⟨token, hbears, hverified, hsubject⟩ := authenticate_passes_iff.1 hauthenticate
            exact ⟨hsubject, h who.claims ⟨token, hbears, hverified⟩⟩

end Router

/-! ## The server -/

/-- A segment of a path that reads as the id of a user. -/
def Names (segment : List Char) (id : UserId) : Prop :=
  ∃ text, Text.Utf8.text? (Path.percentDecode segment) = some text ∧ UserId.ofText text = .ok id

/-- On the route that shows a user nobody but an administrator is admitted for a segment that names another, or
nobody at all. -/
theorem not_admitted_of_not_names {segment : List Char} {identity : Identity}
    (hnotAdmin : ∀ claims, CalledWith service moment.now request claims → claims.roles.admin = false)
    (hforeign : ∀ claims, CalledWith service moment.now request claims → ¬ Names segment claims.subject) :
    ¬ Router.Admitted GuardedRoute.showUser.guard service moment.now request (GuardedRoute.showUser.parameters segment)
      identity := by
  intro h
  have hcalled := called_of_admitted h
  have hgrants : Rule.Grants .adminOrSubject identity.claims (identity.subject.map User.id) := grants_of_admitted h
  cases hsubject : identity.subject with
  | none =>
      rw [hsubject] at hgrants
      rcases hgrants with hadmin | ⟨hnone, _⟩
      · rw [hnotAdmin _ hcalled] at hadmin
        cases hadmin
      · cases hnone
  | some user =>
      rw [hsubject] at hgrants
      obtain ⟨raw, id, hraw, hid, hfound⟩ := loaded_of_admitted h hsubject
      have hself : user.id = identity.claims.subject := Rule.self_of_grants rfl (hnotAdmin _ hcalled) hgrants
      have hidself : id = identity.claims.subject :=
        (UserStore.id_of_find (UserStore.find_of_findInTime hfound)).symm.trans hself
      have htext : Text.Utf8.text? (Path.percentDecode segment) = some raw :=
        GuardedRoute.subjectParameter?_user.symm.trans hraw
      exact hforeign _ hcalled ⟨raw, htext, hidself ▸ hid⟩

/-- A request that bears no token of an administrator is answered alike whatever users there are beside its caller,
changes nothing, and is shown no other user. -/
theorem handle_of_not_admin {service : Service} {moment : Moment} {request : Request}
    (hnotAdmin : ∀ claims, CalledWith service moment.now request claims → claims.roles.admin = false) :
    (∀ table other : UserTable,
      (∀ claims, CalledWith service moment.now request claims →
        table.find? claims.subject = other.find? claims.subject) →
      (api.handle (service.withUsers (.memory table)) moment request).response =
        (api.handle (service.withUsers (.memory other)) moment request).response) ∧
    (∀ users, (api.handle (service.withUsers users) moment request).service = service.withUsers users) ∧
    (∀ segment, GuardedRoute.showUser.Matches request segment →
      (∀ claims, CalledWith service moment.now request claims → ¬ Names segment claims.subject) →
      ∀ users, (api.handle (service.withUsers users) moment request).response = refusal) := by
  refine ⟨fun table other hsame => ?_, fun users => ?_, fun segment hmatches hforeign users => ?_⟩
  · have hreply : (api.serve (service.withUsers (.memory table)) moment request).2.reply =
        (api.serve (service.withUsers (.memory other)) moment request).2.reply :=
      Router.serve_of_unseeing isDiscreet_api fun claims hcalled => ⟨hnotAdmin claims hcalled, hsame claims hcalled⟩
    simp only [Router.handle, hreply]
  · by_contra hne
    obtain ⟨claims, hcalled, hadmin⟩ := (serve_effect (service.withUsers users) moment request).called_of_ne hne
    rw [hnotAdmin claims hcalled] at hadmin
    cases hadmin
  · have hkept (identity : Identity) : ¬ Router.Admitted GuardedRoute.showUser.guard (service.withUsers users)
        moment.now request (GuardedRoute.showUser.parameters segment) identity :=
      not_admitted_of_not_names hnotAdmin hforeign
    exact (Router.handle_of_not_admitted (GuardedRoute.reaches hmatches) hkept).2

/-! ## A sample -/

open Authority (sampleAuthority sampleRegistry sampleKid sampleClaims)
open GuardedRoute (sampleMoment sampleUser sampleService)

theorem CalledWith.eq {now : Instant} {claims claims' : Claims} (h : CalledWith service now request claims)
    (h' : CalledWith service now request claims') : claims = claims' := by
  obtain ⟨token, hbears, hverify⟩ := h
  obtain ⟨token', hbears', hverify'⟩ := h'
  have htoken : token = token' := by
    rw [← Request.bearerToken_eq_ok_iff] at hbears hbears'
    exact Except.ok.inj (hbears.symm.trans hbears')
  subst htoken
  exact Except.ok.inj (hverify.symm.trans hverify')

/-- The sample claims without the administrator's role. -/
def plainClaims : Claims := { sampleClaims with roles := ⟨false, true⟩ }

/-- A user that those claims are not about. -/
def otherUser : User := ⟨⟨9⟩, "other@example.org", "Other", ⟨false, true⟩, sampleMoment.now⟩

/-- A request to be shown the other user. -/
def curiousRequest (token : String) : Request :=
  ⟨.get, "/v1/users/00000000-0000-0000-0000-000000000009",
    [("Authorization", Text.Utf8.encode (bearerScheme ++ token.toList))], []⟩

theorem curiousRequest_matches (token : String) :
    GuardedRoute.showUser.Matches (curiousRequest token) "00000000-0000-0000-0000-000000000009".toList :=
  ⟨rfl, by simp only [Request.path, curiousRequest]; decide, fun _ => by decide⟩

/-- One who is no administrator gets the refusal whether the other user exists or not. -/
theorem handle_of_not_admin_sample : ∃ token : String,
    CalledWith sampleService sampleMoment.now (curiousRequest token) plainClaims ∧
    (api.handle (sampleService.withUsers (.memory ⟨[sampleUser], by decide⟩)) sampleMoment
      (curiousRequest token)).response =
      (api.handle (sampleService.withUsers (.memory ⟨[sampleUser, otherUser], by decide⟩)) sampleMoment
        (curiousRequest token)).response ∧
    (api.handle sampleService sampleMoment (curiousRequest token)).service = sampleService ∧
    (api.handle sampleService sampleMoment (curiousRequest token)).response = refusal := by
  obtain ⟨token, hissue⟩ : ∃ token, Authority.issue (sampleRegistry sampleKid) plainClaims = .ok token :=
    Outcome.exists_of_isSome (by decide +kernel)
  obtain ⟨hne, hvisible⟩ := Authority.visible_of_issue hissue
  obtain ⟨s, pair, haccepted⟩ : ∃ s pair, sampleAuthority.Accepted (sampleRegistry sampleKid) token sampleMoment.now
      plainClaims s pair :=
    Authority.accepted_of_issue rfl rfl rfl (by decide) hissue (by decide)
  have hcalled : CalledWith sampleService sampleMoment.now (curiousRequest token) plainClaims :=
    ⟨token, Request.bears_of_header hvisible hne rfl, Authority.verify_of_accepted haccepted⟩
  have hclaims {claims : Claims} (h : CalledWith sampleService sampleMoment.now (curiousRequest token) claims) :
      claims = plainClaims := h.eq hcalled
  obtain ⟨halike, hunchanged, hrefused⟩ := handle_of_not_admin (fun claims h => hclaims h ▸ rfl :
    ∀ claims, CalledWith sampleService sampleMoment.now (curiousRequest token) claims → claims.roles.admin = false)
  refine ⟨token, hcalled, halike _ _ fun claims h => ?_, hunchanged sampleService.users, ?_⟩
  · rw [hclaims h]
    decide
  · refine hrefused _ (curiousRequest_matches token) (fun claims h => ?_) sampleService.users
    rw [hclaims h]
    rintro ⟨text, htext, hid⟩
    have hforeign : Text.Utf8.text? (Path.percentDecode "00000000-0000-0000-0000-000000000009".toList) =
        some "00000000-0000-0000-0000-000000000009" := by decide +kernel
    rw [hforeign] at htext
    cases htext
    revert hid
    decide +kernel

end Http

end TokenAuthority
