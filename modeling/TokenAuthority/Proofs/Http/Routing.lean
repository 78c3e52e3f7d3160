import TokenAuthority.Http.Api
import TokenAuthority.Proofs.Http.Guards

/-!
# How requests reach endpoints

The routes that paths lead to, and what becomes of a request on a route that verifies its callers and has a
guard. Main statements: `Router.handle_of_admitted`, `Router.handle_of_not_admitted`.
-/

namespace TokenAuthority.Http

/-! ## Paths -/

namespace Path

theorem segments_of_notMem {cs : List Char} (h : '/' ∉ cs) : segments cs = [cs] := by
  induction cs with
  | nil => rfl
  | cons c cs ih =>
      have hc : c ≠ '/' := fun hc => h (by simp [hc])
      have hcs : '/' ∉ cs := fun hcs => h (by simp [hcs])
      rw [segments, if_neg hc, ih hcs]

theorem segments_append_slash {cs : List Char} (h : '/' ∉ cs) (rest : List Char) :
    segments (cs ++ '/' :: rest) = cs :: segments rest := by
  induction cs with
  | nil => simp [segments]
  | cons c cs ih =>
      have hc : c ≠ '/' := fun hc => h (by simp [hc])
      have hcs : '/' ∉ cs := fun hcs => h (by simp [hcs])
      rw [List.cons_append, segments, if_neg hc, ih hcs]

end Path

/-! ## Routes -/

namespace Router

variable {router : Router} {request : Request} {route : Route} {guard : Guard} {endpoint : CallerEndpoint}
  {found : List (String × List Char)} {service : Service} {moment : Moment}

/-- A request that a route is there for: its path leads to the route, the route verifies its callers and has a
guard, and it has an endpoint for callers to answer the method. -/
structure Reaches (router : Router) (request : Request) (guard : Guard) (endpoint : CallerEndpoint)
    (found : List (String × List Char)) : Prop where
  leads : ∃ route, router.find? request.path = some (route, found) ∧ route.verifies = true ∧
    route.guard = some guard ∧ route.endpoint? request.method = some (.callers endpoint)
  notHead : request.method ≠ .head

/-- A request that passes authentication and then a guard, with the identity that the guard passes on. -/
def Admitted (guard : Guard) (service : Service) (now : Instant) (request : Request)
    (found : List (String × List Char)) (identity : Identity) : Prop :=
  ∃ caller, (authenticate service now request).Passes caller ∧
    (guard.check service.users (Path.decodeParameters found) caller).Passes identity

theorem respond_of_reaches (h : router.Reaches request guard endpoint found) (reply : Reply) :
    router.respond request reply = reply.toResponse := by
  obtain ⟨route, hfind, _, _, hendpoint⟩ := h.leads
  simp [respond, hfind, hendpoint, h.notHead]

/-- Past the guard the endpoint answers. -/
theorem handle_of_admitted (h : router.Reaches request guard endpoint found) {identity : Identity}
    (hadmitted : Admitted guard service moment.now request found identity) :
    (router.handle service moment request).service = (endpoint.run service moment request identity).1 ∧
      (router.handle service moment request).response =
        (endpoint.run service moment request identity).2.reply.toResponse := by
  obtain ⟨route, hfind, hverifies, hguard, hendpoint⟩ := h.leads
  obtain ⟨caller, ⟨log, hauthenticate⟩, ⟨log', hcheck⟩⟩ := hadmitted
  simp only [handle, respond_of_reaches h, serve, hfind, hverifies, verifyCaller, if_true, hauthenticate, serveRoute,
    passGuard, hguard, hcheck, hendpoint, Endpoint.run, and_self]

/-- Whoever is kept out gets the one refusal, and nothing is done. -/
theorem handle_of_not_admitted (h : router.Reaches request guard endpoint found)
    (hkept : ∀ identity, ¬ Admitted guard service moment.now request found identity) :
    (router.handle service moment request).service = service ∧
      (router.handle service moment request).response = Reply.unauthenticated.toResponse := by
  obtain ⟨route, hfind, hverifies, hguard, hendpoint⟩ := h.leads
  cases hauthenticate : authenticate service moment.now request with
  | stop event =>
      simp only [handle, respond_of_reaches h, serve, hfind, hverifies, verifyCaller, if_true, hauthenticate, and_self]
  | pass caller log =>
      have hstops : (guard.check service.users (Path.decodeParameters found) caller).Stops :=
        Passage.stops_iff.2 fun identity hpasses => hkept identity ⟨caller, ⟨log, hauthenticate⟩, hpasses⟩
      obtain ⟨event, hcheck⟩ := hstops
      simp only [handle, respond_of_reaches h, serve, hfind, hverifies, verifyCaller, if_true, hauthenticate,
        serveRoute, passGuard, hguard, hcheck, and_self]

/-- Whoever is past the guard of a route was admitted by it, unless the route has none. -/
theorem admits_of_passGuard {guard : Option Guard} {users : UserStore} {caller identity : Option Identity}
    (h : (passGuard guard users found caller).Passes identity) :
    (guard = none ∧ identity = caller) ∨
    ∃ g who after, guard = some g ∧ caller = some who ∧ identity = some after ∧
      g.Admits users (Path.decodeParameters found) who after := by
  obtain ⟨log, h⟩ := h
  cases guard with
  | none =>
      cases h
      exact .inl ⟨rfl, rfl⟩
  | some g =>
      cases caller with
      | none => cases h
      | some who =>
          simp only [passGuard] at h
          cases hcheck : g.check users (Path.decodeParameters found) who with
          | stop event =>
              rw [hcheck] at h
              cases h
          | pass after log' =>
              rw [hcheck] at h
              cases h
              exact .inr ⟨g, who, after, rfl, rfl, rfl, Guard.check_passes_iff.1 ⟨log, hcheck⟩⟩

/-- Whoever is verified has passed authentication. -/
theorem authenticates_of_verifyCaller {verifies : Bool} {caller : Option Identity}
    (h : (verifyCaller verifies service moment request).Passes caller) :
    (verifies = false ∧ caller = none) ∨
    ∃ who, verifies = true ∧ caller = some who ∧ (authenticate service moment.now request).Passes who := by
  obtain ⟨log, h⟩ := h
  cases verifies with
  | false =>
      cases h
      exact .inl ⟨rfl, rfl⟩
  | true =>
      simp only [verifyCaller, if_true] at h
      cases hauthenticate : authenticate service moment.now request with
      | stop event =>
          rw [hauthenticate] at h
          cases h
      | pass who log' =>
          rw [hauthenticate] at h
          cases h
          exact .inr ⟨who, rfl, rfl, log, rfl⟩

end Router

end TokenAuthority.Http
