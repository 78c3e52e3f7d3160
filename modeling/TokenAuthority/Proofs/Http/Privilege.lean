import TokenAuthority.Proofs.Http.Effects
import TokenAuthority.Proofs.Http.Mediation
import TokenAuthority.Proofs.Startup
import TokenAuthority.Proofs.Token.Minting

/-!
# Nobody gains privileges

Over a whole run of a server every token that is given out speaks for a user of the store, with the roles that the
store has for that user. So who makes a change with a token that was given out is an administrator in the store.
Main statement: `privileges_of_run`.
-/

namespace TokenAuthority.Http

/-! ## Runs -/

/-- A request as it meets a server: what the server holds, the moment, and the request itself. -/
structure Exchange where
  before : Service
  moment : Moment
  request : Request

namespace Exchange

/-- The service that an exchange leaves behind. -/
def after (x : Exchange) : Service := (api.handle x.before x.moment x.request).service

/-- The reply of an exchange, before it is rendered. -/
def reply (x : Exchange) : Reply := (api.serve x.before x.moment x.request).2.reply

/-- The response of an exchange. -/
def response (x : Exchange) : Response := (api.handle x.before x.moment x.request).response

/-- An exchange in which the id drawn is that of no user. -/
def Fresh (x : Exchange) : Prop := ∀ user, x.before.users.Holds user → user.id ≠ x.moment.freshId

/-- An exchange that changes the users or the keys. -/
def Changes (x : Exchange) : Prop := x.after.users ≠ x.before.users ∨ x.after.registry ≠ x.before.registry

theorem effect (x : Exchange) : Effect x.before x.moment x.request x.after x.reply :=
  serve_effect x.before x.moment x.request

end Exchange

/-- The runs of a server: any requests one after the other at any moments, ids being drawn fresh. -/
inductive Run (first : Service) : List Exchange → Service → Prop
  | start : Run first [] first
  | step {earlier : List Exchange} {x : Exchange} (hrun : Run first earlier x.before) (hfresh : x.Fresh) :
      Run first (earlier ++ [x]) x.after

/-- A token that was given out: the first one, or one in reply to a request. -/
def HandedOut (first : Option String) (exchanges : List Exchange) (text : String) : Prop :=
  first = some text ∨ ∃ x ∈ exchanges, ∃ kid expiresAt, x.reply = .token text kid expiresAt

/-- A token whose payload holds claims about a user with that user's own roles. -/
structure SpeaksFor (text : String) (claims : Claims) (user : User) : Prop where
  said : ∃ s, Segments.Compose text s ∧ s.Says claims
  subject : claims.subject = user.id
  roles : claims.roles = user.roles

/-! ## One exchange -/

section

variable {service after : Service} {moment : Moment} {request : Request} {reply : Reply}

theorem Effect.authority_eq (h : Effect service moment request after reply) : after.authority = service.authority := by
  cases h <;> rfl

/-- No user is taken out of the store. -/
theorem Effect.holds {user : User} (h : Effect service moment request after reply) (hheld : service.users.Holds user)
    (hfresh : user.id ≠ moment.freshId) : after.users.Holds user := by
  cases h with
  | quiet _ => exact hheld
  | issued _ _ _ => exact hheld
  | reloaded _ _ _ => exact hheld
  | created _ _ hcreate => exact UserStore.holds_of_create hcreate hheld hfresh

/-- A token in reply to a request is minted for a user of the store with the roles kept there. -/
theorem Effect.minted {text kid : String} {expiresAt : Instant}
    (h : Effect service moment request after (.token text kid expiresAt)) :
    ∃ user claims, service.users.Holds user ∧
      service.authority.mint service.registry user.id user.roles moment.now = .ok (text, claims) ∧
      claims.expiresAt = expiresAt ∧ ∀ reply, api.respond request reply = reply.toResponse := by
  generalize hreply : Reply.token text kid expiresAt = reply at h
  cases h with
  | quiet htoken => exact absurd hreply.symm (htoken text kid expiresAt)
  | issued hstored hmint hrespond =>
      cases hreply
      exact ⟨_, _, hstored, hmint, rfl, hrespond⟩
  | reloaded _ _ _ => cases hreply
  | created _ _ _ => cases hreply

theorem Effect.called_of_changes (h : Effect service moment request after reply)
    (hchanges : after.users ≠ service.users ∨ after.registry ≠ service.registry) :
    ∃ claims, CalledWith service moment.now request claims ∧ claims.roles.admin = true := by
  apply h.called_of_ne
  rintro rfl
  simp at hchanges

end

theorem speaksFor_of_mint {authority : Authority} {registry : Registry} {now : Instant} {user : User} {text : String}
    {claims : Claims} (h : authority.mint registry user.id user.roles now = .ok (text, claims)) :
    SpeaksFor text claims.onWire user := by
  obtain ⟨hsubject, hroles⟩ := Authority.subject_roles_of_mint h
  exact ⟨Authority.said_of_mint h, hsubject, hroles⟩

/-- Verification gives out the claims that a token speaks with. -/
theorem SpeaksFor.eq_of_verify {authority : Authority} {registry : Registry} {now : Instant} {user : User}
    {text : String} {claims verified : Claims} (h : SpeaksFor text claims user)
    (hverify : authority.verify registry text now = .ok verified) : verified = claims := by
  obtain ⟨s, hcomposed, hsaid⟩ := h.said
  obtain ⟨t, pair, haccepted⟩ := Authority.accepted_of_verify hverify
  have hsame : t = s := Segments.Compose.eq haccepted.composed hcomposed
  subst hsame
  exact Except.ok.inj
    ((Authority.readClaims_eq_ok_iff.2 haccepted.said).symm.trans (Authority.readClaims_eq_ok_iff.2 hsaid))

/-! ## Whole runs -/

namespace Run

variable {first service : Service} {exchanges earlier later : List Exchange} {x : Exchange}

theorem authority_eq (h : Run first exchanges service) : service.authority = first.authority := by
  induction h with
  | start => rfl
  | step _ _ ih => rw [(Exchange.effect _).authority_eq, ih]

theorem holds {user : User} (h : Run first exchanges service) (hheld : first.users.Holds user) :
    service.users.Holds user := by
  induction h with
  | start => exact hheld
  | step _ hfresh ih => exact (Exchange.effect _).holds ih (hfresh user ih)

/-- What comes before an exchange of a run is a run that ends in what the exchange meets, and what the store holds
then it holds to the end. -/
theorem split (h : Run first exchanges service) (hsplit : exchanges = earlier ++ x :: later) :
    Run first earlier x.before ∧ ∀ user, x.before.users.Holds user → service.users.Holds user := by
  induction h generalizing later with
  | start => simp at hsplit
  | @step before y hrun hfresh ih =>
      -- The exchange is the last one, or it lies in the run before the last one.
      rcases List.eq_nil_or_concat later with rfl | ⟨init, last, rfl⟩
      · obtain ⟨rfl, heq⟩ := List.append_inj' hsplit rfl
        cases heq
        exact ⟨hrun, fun user hheld => x.effect.holds hheld (hfresh user hheld)⟩
      · rw [List.concat_eq_append, ← List.cons_append, ← List.append_assoc] at hsplit
        obtain ⟨hbefore, heq⟩ := List.append_inj' hsplit rfl
        cases heq
        obtain ⟨hearlier, hholds⟩ := ih hbefore
        exact ⟨hearlier, fun user hheld => y.effect.holds (hholds user hheld) (hfresh user (hholds user hheld))⟩

/-- A token in reply to a request of a run is minted for a user who is in the store then and to the end. -/
theorem minted (h : Run first exchanges service) (hx : x ∈ exchanges) {text kid : String} {expiresAt : Instant}
    (hreply : x.reply = .token text kid expiresAt) :
    ∃ user claims, x.before.users.Holds user ∧ service.users.Holds user ∧
      first.authority.mint x.before.registry user.id user.roles x.moment.now = .ok (text, claims) ∧
      claims.expiresAt = expiresAt ∧ x.response = (Reply.token text kid expiresAt).toResponse := by
  obtain ⟨earlier, later, hsplit⟩ := List.append_of_mem hx
  obtain ⟨hrun, hholds⟩ := h.split hsplit
  have heffect := x.effect
  rw [hreply] at heffect
  obtain ⟨user, claims, hheld, hmint, hexpires, hrespond⟩ := heffect.minted
  refine ⟨user, claims, hheld, hholds user hheld, hrun.authority_eq ▸ hmint, hexpires, ?_⟩
  rw [← hreply]
  exact hrespond x.reply

end Run

/-- The first token speaks for the first administrator. -/
theorem speaksFor_of_assembled {world : Startup.Surroundings} {ready : Startup.Ready} {text : String}
    (h : Startup.Assembled world ready) (htoken : ready.token = some text) :
    ∃ claims user, SpeaksFor text claims user ∧ ready.service.users.Holds user := by
  rcases h.users with ⟨hnone, _⟩ | ⟨token, admin, claims, hsome, husers, hmint⟩
  · rw [hnone] at htoken
    cases htoken
  · rw [hsome, Option.some.injEq] at htoken
    subst htoken
    refine ⟨claims.onWire, admin, speaksFor_of_mint hmint, ?_⟩
    rw [husers, UserStore.holds_memory_iff, UserTable.mem_insert_iff]
    exact .inl rfl

/-- A token that was given out speaks for a user of the store, with the roles that the store has. -/
theorem exists_speaksFor_of_handedOut {world : Startup.Surroundings} {ready : Startup.Ready}
    {exchanges : List Exchange} {service : Service} {text : String} (hstart : Startup.Assembled world ready)
    (hrun : Run ready.service exchanges service) (h : HandedOut ready.token exchanges text) :
    ∃ claims user, SpeaksFor text claims user ∧ service.users.Holds user := by
  rcases h with hfirst | ⟨x, hx, kid, expiresAt, hreply⟩
  · obtain ⟨claims, user, hspeaks, hheld⟩ := speaksFor_of_assembled hstart hfirst
    exact ⟨claims, user, hspeaks, hrun.holds hheld⟩
  · obtain ⟨user, claims, _, hheld, hmint, _⟩ := hrun.minted hx hreply
    exact ⟨claims.onWire, user, speaksFor_of_mint hmint, hheld⟩

/-! ## Unforgeable tokens -/

/-- Every token that verifies in a run was given out earlier. -/
def UnforgeableBefore (first : Option String) (exchanges : List Exchange) : Prop :=
  ∀ earlier x later, exchanges = earlier ++ x :: later → ∀ token claims, x.request.Bears token →
    x.before.authority.verify x.before.registry token x.moment.now = .ok claims → HandedOut first earlier token

/-- Every token that verifies in a run is given out in it, earlier or later. -/
def Unforgeable (first : Option String) (exchanges : List Exchange) : Prop :=
  ∀ x ∈ exchanges, ∀ token claims, x.request.Bears token →
    x.before.authority.verify x.before.registry token x.moment.now = .ok claims → HandedOut first exchanges token

/-- A request made by an administrator of a store: it bears a token that verifies to claims about that user. -/
def MadeByAdmin (x : Exchange) (users : UserStore) : Prop :=
  ∃ claims user, CalledWith x.before x.moment.now x.request claims ∧ user.id = claims.subject ∧
    users.Holds user ∧ user.roles.admin = true

/-- Whoever calls with the claims of an administrator, by a token that was given out, is one in the store. -/
theorem madeByAdmin_of_handedOut {world : Startup.Surroundings} {ready : Startup.Ready} {exchanges : List Exchange}
    {service : Service} {x : Exchange} (hstart : Startup.Assembled world ready)
    (hrun : Run ready.service exchanges service)
    (hhanded : ∀ token claims, x.request.Bears token →
      x.before.authority.verify x.before.registry token x.moment.now = .ok claims →
        HandedOut ready.token exchanges token)
    (hchanges : x.Changes) : MadeByAdmin x service.users := by
  obtain ⟨claims, ⟨token, hbears, hverify⟩, hadmin⟩ := x.effect.called_of_changes hchanges
  obtain ⟨spoken, user, hspeaks, hheld⟩ :=
    exists_speaksFor_of_handedOut hstart hrun (hhanded token claims hbears hverify)
  have hclaims : claims = spoken := hspeaks.eq_of_verify hverify
  subst hclaims
  exact ⟨claims, user, ⟨token, hbears, hverify⟩, hspeaks.subject.symm, hheld, hspeaks.roles ▸ hadmin⟩

/-- In a run of a server that has started every token that is given out speaks for a user who is then in the store
and stays there, with that user's stored roles, and its expiry is the one in the response. If every token that
verifies was given out before, whoever changes the users or the keys is an administrator in the store at that time;
if it was given out at any time of the run, at least in the end. -/
theorem privileges_of_run {world : Startup.Surroundings} {ready : Startup.Ready} {exchanges : List Exchange}
    {service : Service} (hstart : (Startup.start world).result = .ok ready)
    (hrun : Run ready.service exchanges service) :
    (∀ text, ready.token = some text →
      ∃ claims user, SpeaksFor text claims user ∧ ready.service.users.Holds user ∧ service.users.Holds user) ∧
    (∀ x ∈ exchanges, ∀ text kid expiresAt, x.reply = .token text kid expiresAt →
      x.response = (Reply.token text kid expiresAt).toResponse ∧
      ∃ claims user, SpeaksFor text claims user ∧ claims.expiresAt = expiresAt ∧ x.before.users.Holds user ∧
        service.users.Holds user) ∧
    (UnforgeableBefore ready.token exchanges → ∀ x ∈ exchanges, x.Changes → MadeByAdmin x x.before.users) ∧
    (Unforgeable ready.token exchanges → ∀ x ∈ exchanges, x.Changes → MadeByAdmin x service.users) := by
  have hassembled := Startup.assembled_of_start hstart
  refine ⟨fun text htext => ?_, fun x hx text kid expiresAt hreply => ?_, fun hunforgeable x hx hchanges => ?_,
    fun hunforgeable x hx hchanges => ?_⟩
  · obtain ⟨claims, user, hspeaks, hheld⟩ := speaksFor_of_assembled hassembled htext
    exact ⟨claims, user, hspeaks, hheld, hrun.holds hheld⟩
  · obtain ⟨user, claims, hthen, hend, hmint, hexpires, hresponse⟩ := hrun.minted hx hreply
    have hlifetime : ready.service.authority.lifetime = ready.settings.lifetime := by rw [hassembled.authority]
    refine ⟨hresponse, claims.onWire, user, speaksFor_of_mint hmint, ?_, hthen, hend⟩
    rw [Authority.expiresAt_of_mint hlifetime hmint, hexpires]
  · obtain ⟨earlier, later, hsplit⟩ := List.append_of_mem hx
    exact madeByAdmin_of_handedOut hassembled (hrun.split hsplit).1 (hunforgeable earlier x later hsplit) hchanges
  · exact madeByAdmin_of_handedOut hassembled hrun (hunforgeable x hx) hchanges

/-! ## A sample -/

open Startup (sampleWorld sampleReady sampleAdmin samplePem sampleTime)

theorem registry_of_reload {service : Service} {moment : Moment} {request : Request} {identity : Identity}
    {keys : KeySet} (hload : KeySet.load moment.keySource = .ok keys) (hkid : Endpoint.requestedKid request = none) :
    (Endpoint.reload service moment request identity).1.registry = ⟨keys, service.registry.activeKid⟩ := by
  simp [Endpoint.reload, Registry.reload, Registry.publish, hload, hkid, bind, Except.bind]

/-- A request for a reload that meets the sample server right after its start and bears its first token; the source
holds the sample key under another key id then. -/
def sampleReload (text : String) : Exchange where
  before := (sampleReady text).service
  moment := ⟨sampleTime, ⟨8⟩, .ok [⟨"k2", samplePem⟩]⟩
  request := ⟨.post, "/v1/admin/keys/reload", [("Authorization", Text.Utf8.encode (bearerScheme ++ text.toList))], []⟩

theorem sampleReload_fresh (text : String) : (sampleReload text).Fresh := by
  intro user hheld
  have hheld : (UserStore.memory (UserTable.empty.insert sampleAdmin)).Holds user := hheld
  rw [UserStore.holds_memory_iff, UserTable.mem_insert_iff] at hheld
  rcases hheld with rfl | ⟨hmem, _⟩
  · show sampleAdmin.id ≠ ⟨8⟩
    decide
  · cases hmem

theorem load_sampleReload (text : String) :
    KeySet.load (sampleReload text).moment.keySource = .ok (Authority.sampleRegistry "k2").keys :=
  Startup.load_entry Startup.ofPem?_samplePem Authority.sampleKey_coprime

section

variable {text : String} (hissue : Authority.issue (Authority.sampleRegistry "k") Startup.sampleClaims = .ok text)

include hissue

theorem sampleReload_bears : (sampleReload text).request.Bears text := by
  obtain ⟨hne, hvisible⟩ := Authority.visible_of_issue hissue
  exact Request.bears_of_header hvisible hne rfl

theorem verify_sampleReload : (sampleReload text).before.authority.verify (sampleReload text).before.registry text
    sampleTime = .ok Startup.sampleClaims := by
  obtain ⟨s, pair, haccepted⟩ : ∃ s pair, Authority.Accepted (sampleReload text).before.authority
      (Authority.sampleRegistry "k") text sampleTime Startup.sampleClaims s pair :=
    Authority.accepted_of_issue rfl rfl rfl (by decide) hissue (by decide)
  exact Authority.verify_of_accepted haccepted

theorem sampleReload_unforgeable : UnforgeableBefore (sampleReady text).token [sampleReload text] := by
  intro earlier x later hsplit token claims hbears _
  cases earlier with
  | nil =>
      cases hsplit
      have htoken : token = text := Except.ok.inj ((Request.bearerToken_eq_ok_iff.2 hbears).symm.trans
        (Request.bearerToken_eq_ok_iff.2 (sampleReload_bears hissue)))
      exact .inl (htoken ▸ rfl)
  | cons y earlier => simp at hsplit

theorem sampleReload_changes : (sampleReload text).Changes := by
  have hmatches : GuardedRoute.reloadKeys.Matches (sampleReload text).request [] :=
    ⟨rfl, by simp only [Request.path, sampleReload]; decide, nofun⟩
  have hentitled : GuardedRoute.reloadKeys.Entitled (sampleReload text).before (sampleReload text).moment.now
      (sampleReload text).request [] ⟨Startup.sampleClaims, none⟩ :=
    ⟨⟨text, sampleReload_bears hissue, verify_sampleReload hissue⟩, rfl, fun _ => rfl, nofun⟩
  have hafter := (Router.handle_of_admitted (GuardedRoute.reaches hmatches)
    (GuardedRoute.admitted_of_entitled hentitled)).1
  have hkid : Endpoint.requestedKid (sampleReload text).request = none := rfl
  have hregistry : (sampleReload text).after.registry = ⟨(Authority.sampleRegistry "k2").keys, "k"⟩ := by
    rw [Exchange.after, hafter]
    exact registry_of_reload (load_sampleReload text) hkid
  refine .inr fun hsame => ?_
  have hkids := congrArg (fun registry : Registry => registry.keys.pairs.map KeyPair.kid) (hregistry.symm.trans hsame)
  revert hkids
  simp [sampleReload, sampleReady, Authority.sampleRegistry, Authority.samplePair]

end

theorem privileges_of_sample : ∃ ready exchanges service, (Startup.start sampleWorld).result = .ok ready ∧
    Run ready.service exchanges service ∧ UnforgeableBefore ready.token exchanges ∧
    ∃ x ∈ exchanges, x.Changes ∧ MadeByAdmin x x.before.users := by
  obtain ⟨text, hissue, hstart⟩ := Startup.start_sample
  have hrun : Run (sampleReady text).service ([] ++ [sampleReload text]) (sampleReload text).after :=
    .step .start (sampleReload_fresh text)
  have hunforgeable := sampleReload_unforgeable hissue
  have hchanges := sampleReload_changes hissue
  exact ⟨_, _, _, hstart, hrun, hunforgeable, _, List.mem_singleton.2 rfl, hchanges,
    (privileges_of_run hstart hrun).2.2.1 hunforgeable _ (List.mem_singleton.2 rfl) hchanges⟩

end TokenAuthority.Http
