import TokenAuthority.Proofs.Http.Reloading
import TokenAuthority.Proofs.Users.Registration

/-!
# Registering users over HTTP

A request to register a user is answered with the user who is created then, or with the reason for which nothing is
stored. Whatever is asked of the server, it stores a user only where it says so. Main statement:
`creation_all_or_nothing`.
-/

namespace TokenAuthority.Http

variable {service : Service} {moment : Moment} {request : Request} {register : UserRegister} {call : Registration}

/-! ## Requests to register a user -/

/-- A request with a token of an administrator, and a body that reads as the request of a call. -/
structure AsksUser (table : UserTable) (call : Registration) (service : Service) (moment : Moment) (request : Request) :
    Prop where
  method : request.method = .post
  path : request.path = "/v1/users".toList
  called : ∃ claims, CalledWith service moment.now request claims ∧ claims.roles.admin = true
  decodes : request.decodeBody NewUser.decoder = .ok call.request
  users : service.users = .memory table
  drawn : moment.freshId = call.id
  now : moment.now = call.now

/-- What is stored and answered for each result of creating a user. -/
inductive Settles (service : Service) : Except UserStoreError (User × UserTable) → Service → Response → Prop
  | created (user : User) (after : UserTable) :
      Settles service (.ok (user, after)) { service with users := .memory after } (jsonResponse 201 user.toDocument)
  | invalid (cause : DomainError) :
      Settles service (.error (.invalid cause)) service (problemResponse 400 "validation_error" cause.message)
  | duplicate (email : String) :
      Settles service (.error (.duplicate email)) service
        (problemResponse 409 "conflict" (UserStoreError.duplicate email).message)

theorem Settles.response_of_created {after : Service} {response : Response} {user : User} {table : UserTable}
    (h : Settles service (.ok (user, table)) after response) : response = jsonResponse 201 user.toDocument := by
  cases h
  rfl

theorem AsksUser.exists_handle_eq {table : UserTable} (h : AsksUser table call service moment request) :
    ∃ identity, (api.handle service moment request).service = (Endpoint.create service moment request identity).1 ∧
      (api.handle service moment request).response =
        (Endpoint.create service moment request identity).2.reply.toResponse := by
  obtain ⟨claims, ⟨token, hbears, hverify⟩, hadmin⟩ := h.called
  have hmatches : GuardedRoute.createUser.Matches request [] := ⟨h.method, h.path, nofun⟩
  exact ⟨_, GuardedRoute.handle_of_granted hmatches rfl hbears hverify hadmin⟩

theorem AsksUser.settles {table : UserTable} (h : AsksUser table call service moment request) :
    Settles service (table.create call.request call.id call.now) (api.handle service moment request).service
      (api.handle service moment request).response := by
  obtain ⟨identity, hservice, hresponse⟩ := h.exists_handle_eq
  rw [hservice, hresponse]
  simp only [Endpoint.create, h.decodes, h.users, h.drawn, h.now, UserStore.create]
  cases hcreate : table.create call.request call.id call.now with
  | ok made => exact .created made.1 made.2
  | error error =>
      cases UserTable.create_eq_error_iff.1 hcreate with
      | invalid => exact .invalid _
      | taken => exact .duplicate _

/-! ## All requests -/

theorem Router.status_respond (router : Router) (request : Request) (reply : Reply) :
    (router.respond request reply).status = reply.toResponse.status := by
  unfold respond
  simp only
  split
  · rfl
  · split
    · rfl
    · split
      · rfl
      · rfl

theorem status_of_users_ne (hne : (api.handle service moment request).service.users ≠ service.users) :
    (api.handle service moment request).response.status = 201 := by
  have hstatus : (api.handle service moment request).response.status =
      (api.serve service moment request).2.reply.toResponse.status := Router.status_respond api request _
  have hafter : (api.handle service moment request).service = (api.serve service moment request).1 := rfl
  rw [hstatus]
  rw [hafter] at hne
  have heffect := serve_effect service moment request
  generalize (api.serve service moment request).1 = after at hne heffect
  generalize (api.serve service moment request).2.reply = reply at heffect
  cases heffect with
  | quiet => exact absurd rfl hne
  | issued => exact absurd rfl hne
  | reloaded => exact absurd rfl hne
  | created => rfl

/-! ## The result -/

theorem step_of_refuses {error : UserStoreError} (h : register.table.Refuses call.request error) :
    register.step call = register := by
  rw [UserRegister.step, UserTable.create_of_refuses h]

/-- In a table that has met any requests to register users, one more succeeds if and only if it is acceptable and its
address is not that of a user in the table, nor of a request that was accepted before. The table then gains exactly the
user of the request. Otherwise it stays as it is, and the first reason is told. Over HTTP, an administrator's request
is answered according to this, and whatever is requested, the users change only with the status for a new one. -/
theorem creation_all_or_nothing (hreached : register.Reached) (call : Registration)
    (hfresh : ∀ user ∈ register.table.users, user.id ≠ call.id) :
    ((∃ made, register.table.create call.request call.id call.now = .ok made) ↔
      call.request.Acceptable ∧ register.table.Free (NewUser.normalizeEmail call.request.email)) ∧
    (register.table.Free (NewUser.normalizeEmail call.request.email) ↔
      ∀ earlier ∈ register.accepted,
        NewUser.normalizeEmail earlier.email ≠ NewUser.normalizeEmail call.request.email) ∧
    (∀ user after, register.table.create call.request call.id call.now = .ok (user, after) →
      user = call.request.asUser call.id call.now ∧ register.table.Gains user after ∧
        (register.step call).table = after) ∧
    (∀ error, register.table.create call.request call.id call.now = .error error ↔
      register.table.Refuses call.request error) ∧
    (∀ error, register.table.Refuses call.request error → register.step call = register) ∧
    (∀ service moment request, AsksUser register.table call service moment request →
      Settles service (register.table.create call.request call.id call.now)
        (api.handle service moment request).service (api.handle service moment request).response) ∧
    ∀ service moment request, (api.handle service moment request).service.users ≠ service.users →
      (api.handle service moment request).response.status = 201 := by
  refine ⟨UserTable.exists_create_iff, UserRegister.free_iff_of_reached hreached, fun user after hcreate => ?_,
    fun error => UserTable.create_eq_error_iff, fun error => step_of_refuses, fun _ _ _ => AsksUser.settles,
    fun _ _ _ => status_of_users_ne⟩
  refine ⟨(UserTable.create_eq_ok_iff.1 hcreate).2.1, UserTable.gains_of_create hcreate hfresh, ?_⟩
  rw [UserRegister.step, hcreate]

/-! ## A sample -/

open Startup (sampleAdmin sampleReady sampleTime administratorName)

/-- The sample server's table right after its start. -/
def sampleStarted : UserRegister :=
  ⟨UserTable.empty.insert sampleAdmin, [⟨"Admin@Example.org", administratorName, [.admin, .user]⟩]⟩

theorem sampleStarted_reached : sampleStarted.Reached := by
  refine ⟨[⟨⟨"Admin@Example.org", administratorName, [.admin, .user]⟩, ⟨7⟩, sampleTime⟩], by simp, ?_⟩
  have hcreate : UserTable.empty.create ⟨"Admin@Example.org", administratorName, [.admin, .user]⟩ ⟨7⟩ sampleTime =
      .ok (sampleAdmin, UserTable.empty.insert sampleAdmin) := Startup.create_sample
  simp only [UserRegister.run, List.foldl_cons, List.foldl_nil, UserRegister.step, UserRegister.start, hcreate,
    sampleStarted]

theorem users_sampleStarted : sampleStarted.table.users = [sampleAdmin] := rfl

theorem sampleStarted_fresh : ∀ user ∈ sampleStarted.table.users, user.id ≠ ⟨8⟩ := by
  rw [users_sampleStarted, List.forall_mem_singleton]
  decide

/-- A registration that needs its address and name trimmed and lists a role twice. -/
def newcomer : Registration := ⟨⟨"\u2003Bob@Example.org", " Bob\n", [.user, .user]⟩, ⟨8⟩, sampleTime⟩

/-- The body of a request to register a user. -/
def newUserDocument (request : NewUser) : Json.Document :=
  .object [("email", .text request.email), ("display_name", .text request.displayName),
    ("roles", .array (request.roles.map Role.toDocument))]

/-- The newcomer's request, with the first token of the sample server. -/
def newcomerRequest (text : String) : Request where
  method := .post
  target := "/v1/users"
  headers := [("Authorization", Text.Utf8.encode (bearerScheme ++ text.toList)), jsonHeader]
  body := Text.Utf8.encode (newUserDocument newcomer.request).chars

theorem newcomerRequest_asks {text : String}
    (hissue : Authority.issue (Authority.sampleRegistry "k") Startup.sampleClaims = .ok text) :
    AsksUser sampleStarted.table newcomer (sampleReady text).service (sampleReload text).moment
      (newcomerRequest text) := by
  obtain ⟨hne, hvisible⟩ := Authority.visible_of_issue hissue
  have hbears : (newcomerRequest text).Bears text := Request.bears_of_header hvisible hne rfl
  have hheader : (newcomerRequest text).header? "content-type" = some jsonHeader.2 := rfl
  have hjson : (newcomerRequest text).saysJson = true := by
    rw [Request.saysJson, hheader]
    decide +kernel
  have hlength : (newcomerRequest text).body.length ≤ longestBody := by
    simp only [newcomerRequest]
    decide +kernel
  constructor
  case method => rfl
  case path =>
    simp only [Request.path, newcomerRequest]
    decide
  case called => exact ⟨Startup.sampleClaims, ⟨text, hbears, verify_sampleReload hissue⟩, rfl⟩
  case decodes => exact Request.decodeBody_of_written hjson rfl hlength rfl
  case users => rfl
  case drawn => rfl
  case now => rfl

/-- The sample server registers the newcomer; the address of its administrator is taken. -/
theorem creation_all_or_nothing_sample : ∃ text : String,
    AsksUser sampleStarted.table newcomer (sampleReady text).service (sampleReload text).moment
      (newcomerRequest text) ∧
    (api.handle (sampleReady text).service (sampleReload text).moment (newcomerRequest text)).response =
      jsonResponse 201 (User.toDocument ⟨⟨8⟩, "bob@example.org", "Bob", ⟨false, true⟩, sampleTime⟩) ∧
    sampleStarted.table.create ⟨" ADMIN@example.org", "Bob", [.user]⟩ ⟨8⟩ sampleTime =
      .error (.duplicate "admin@example.org") := by
  obtain ⟨text, hissue, _⟩ := Startup.start_sample
  obtain ⟨hmakes, _, hgains, _, _, hhttp, _⟩ :=
    creation_all_or_nothing sampleStarted_reached newcomer sampleStarted_fresh
  obtain ⟨_, _, _, hrefuses, _⟩ := creation_all_or_nothing sampleStarted_reached
    ⟨⟨" ADMIN@example.org", "Bob", [.user]⟩, ⟨8⟩, sampleTime⟩ sampleStarted_fresh
  have hbob : NewUser.normalizeEmail newcomer.request.email = "bob@example.org" := by decide +kernel
  have hadmin : "admin@example.org" = NewUser.normalizeEmail " ADMIN@example.org" := by decide +kernel
  refine ⟨text, newcomerRequest_asks hissue, ?_, (hrefuses _).2 ?_⟩
  · have hacceptable : newcomer.request.Acceptable := by
      constructor
      case addressed => exact ⟨by rw [hbob]; decide, by rw [hbob]; decide⟩
      case named => exact ⟨'B', by decide, by decide⟩
      case privileged => exact List.cons_ne_nil _ _
    have hfree : sampleStarted.table.Free (NewUser.normalizeEmail newcomer.request.email) := by
      rw [UserTable.Free, users_sampleStarted, List.forall_mem_singleton, hbob]
      decide
    obtain ⟨⟨user, after⟩, hcreate⟩ := hmakes.2 ⟨hacceptable, hfree⟩
    obtain ⟨huser, _⟩ := hgains user after hcreate
    have hbuilt : user = ⟨⟨8⟩, "bob@example.org", "Bob", ⟨false, true⟩, sampleTime⟩ := by
      rw [huser, NewUser.asUser, hbob]
      decide +kernel
    have hsettles := hhttp _ _ _ (newcomerRequest_asks hissue)
    rw [hcreate, hbuilt] at hsettles
    exact hsettles.response_of_created
  · rw [hadmin]
    refine .taken ⟨⟨?_, ?_⟩, ⟨'B', by decide, by decide⟩, List.cons_ne_nil _ _⟩ fun hfree => ?_
    · rw [← hadmin]
      decide
    · rw [← hadmin]
      decide
    · exact hfree sampleAdmin (users_sampleStarted ▸ List.mem_singleton.2 rfl) hadmin

end TokenAuthority.Http
