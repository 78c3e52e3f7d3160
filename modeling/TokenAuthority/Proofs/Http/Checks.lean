import TokenAuthority.Proofs.Access.Meaning
import TokenAuthority.Proofs.Claims.Decoding
import TokenAuthority.Proofs.Http.Reloading

/-!
# Checks for other services agree with the guards

A check that is sent the claims of a verified token, a rule and a user is granted exactly if a guard of this server with
that rule lets the bearer of the token through about that user. Main statement: `check_agrees_with_guards`.
-/

namespace TokenAuthority

open Json (Document Key Slot Value)

namespace Http

/-! ## Bodies -/

/-- The field that names the user of a check: for no user it is null or left out. -/
inductive SubjectField : Option UserId → List (String × Document) → Prop
  | named (id : UserId) : SubjectField (some id) [("user_id", id.toDocument)]
  | null : SubjectField none [("user_id", .null)]
  | absent : SubjectField none []

/-- The fields of a check, in any order. -/
def CheckFields (fields : List (String × Document)) (claims : Claims) (subject : Option UserId)
    (rule : String) : Prop :=
  ∃ subjectField, SubjectField subject subjectField ∧
    fields.Perm (("claims", claims.toDocument) :: ("rule", .text rule) :: subjectField)

/-- A request for a check. -/
structure AsksCheck (request : Request) : Prop where
  method : request.method = .post
  path : request.path = "/v1/auth/authorize".toList

/-- A request for a check of claims by a rule about a user, with a body of JSON, written in any way, that is not too
long. -/
structure SendsCheck (request : Request) (claims : Claims) (subject : Option UserId) (rule : String) : Prop
    extends AsksCheck request where
  saysJson : request.saysJson = true
  length : request.body.length ≤ longestBody
  body : ∃ fields, CheckFields fields claims subject rule ∧
    (Value.read (Text.Utf8.decode request.body)).1 = (Document.object fields).toValue

namespace Endpoint.Check

theorem apart_slots : Slot.Apart slots := by
  refine .of_parts (by decide) fun slot hslot => ?_
  simp only [slots, List.mem_cons, List.not_mem_nil, or_false] at hslot
  rcases hslot with rfl | rfl | rfl
  all_goals exact ⟨_, _, _, fun _ _ => rfl, fun _ _ => rfl, by simp [slots, Slot.of]⟩

/-- The slot of the subject, if it were not allowed to be missing. -/
def subjectSlot : Slot Draft :=
  .of "user_id" Draft.subject (fun a d => { d with subject := some a }) (.optional UserId.decoder)

theorem keeps_claims : Slot.Keeps slots "claims" Draft.claims Claims.decoder := by
  refine .cons_of (.mayEnd subjectSlot ?_) fun _ _ => rfl
  iterate 2 refine .cons_of_ne ?_ (by decide) fun _ _ => rfl
  exact .nil

theorem keeps_subject : Slot.Keeps slots "user_id" Draft.subject (.optional UserId.decoder) := by
  refine .cons_of_ne (.mayEnd subjectSlot (.cons_of ?_ fun _ _ => rfl)) (by decide) fun _ _ => rfl
  exact .cons_of_ne .nil (by decide) fun _ _ => rfl

theorem keeps_rule : Slot.Keeps slots "rule" Draft.rule .text := by
  refine .cons_of_ne (.mayEnd subjectSlot (.cons_of_ne ?_ (by decide) fun _ _ => rfl)) (by decide) fun _ _ => rfl
  exact .cons_of .nil fun _ _ => rfl

variable {claims : Claims} {subject : Option UserId} {rule : String} {fields : List (String × Document)}

/-- The fields of a check in the order in which they are listed are read one after another. -/
theorem exists_read_listed {subjectField : List (String × Document)} (h : SubjectField subject subjectField) :
    ∃ part, part.join = subject ∧ Json.Record.read slots ⟨none, none, none⟩
      (Document.object (("claims", claims.toDocument) :: ("rule", .text rule) :: subjectField)).toValue =
        .ok ⟨some claims.onWire, part, some rule⟩ := by
  have hclaims : Json.Record.field slots ⟨none, none, none⟩ (.name "claims", claims.toDocument.toValue) =
      .ok ⟨some claims.onWire, none, none⟩ := by
    simp [Json.Record.field, slots, Slot.of, Claims.decoder_toDocument, Except.map]
  have hread {part : Option (Option UserId)} (hrest : (Document.fieldValues subjectField).foldlM
      (Json.Record.field slots) ⟨some claims.onWire, none, some rule⟩ = .ok ⟨some claims.onWire, part, some rule⟩) :
      Json.Record.read slots ⟨none, none, none⟩
        (Document.object (("claims", claims.toDocument) :: ("rule", .text rule) :: subjectField)).toValue =
          .ok ⟨some claims.onWire, part, some rule⟩ :=
    Outcome.bind_eq_ok.2 ⟨_, Outcome.foldlM_cons_eq_ok.2 ⟨_, hclaims,
      Outcome.foldlM_cons_eq_ok.2 ⟨_, rfl, hrest⟩⟩, rfl⟩
  cases h with
  | named id =>
      have hid : Json.Record.field slots ⟨some claims.onWire, none, some rule⟩
          (.name "user_id", id.toDocument.toValue) = .ok ⟨some claims.onWire, some (some id), some rule⟩ := by
        have hne : id.toDocument.toValue ≠ .null := by simp [UserId.toDocument, Document.toValue]
        simp [Json.Record.field, slots, Slot.of, Json.Decoder.optional_of_ne_null hne, UserId.decoder_toDocument,
          Except.map]
      exact ⟨some (some id), rfl, hread (Outcome.foldlM_cons_eq_ok.2 ⟨_, hid, rfl⟩)⟩
  | null => exact ⟨some none, rfl, hread rfl⟩
  | absent => exact ⟨none, rfl, hread rfl⟩

/-- A check that is sent is read, whatever the order of its fields. -/
theorem decoder_sent (h : CheckFields fields claims subject rule) :
    decoder (Document.object fields).toValue = .ok ⟨claims.onWire, subject, rule⟩ := by
  obtain ⟨subjectField, hsubject, hperm⟩ := h
  have hblank : ∀ slot ∈ slots, slot.isSet ⟨none, none, none⟩ = false := by simp [slots, Slot.of]
  have hentries := hperm.map fun field => ((.name field.1, field.2.toValue) : Key × Value)
  rw [← Document.fieldValues_eq_map, ← Document.fieldValues_eq_map] at hentries
  obtain ⟨part, hpart, hlisted⟩ := @exists_read_listed claims subject rule _ hsubject
  obtain ⟨draft, hread, hsame⟩ := Json.Record.exists_read_of_perm apart_slots hblank hentries hlisted
  refine Outcome.bind_eq_ok.2 ⟨draft, hread, ?_⟩
  rw [hsame keeps_claims (by decide) rfl, hsame keeps_subject (by decide) rfl, hsame keeps_rule (by decide) rfl,
    ← hpart]
  rfl

end Endpoint.Check

/-! ## Answers to checks -/

section

variable {service : Service} {moment : Moment} {request : Request} {claims : Claims} {subject : Option UserId}
  {check : Endpoint.Check} {rule : Rule}

theorem SendsCheck.decodeBody_eq {name : String} (h : SendsCheck request claims subject name) :
    request.decodeBody Endpoint.Check.decoder = .ok ⟨claims.onWire, subject, name⟩ := by
  obtain ⟨fields, hfields, hread⟩ := h.body
  have hdecode : Json.decodeLeading Endpoint.Check.decoder (Text.Utf8.decode request.body) =
      .ok ⟨claims.onWire, subject, name⟩ := by
    rw [Json.decodeLeading, hread]
    exact Endpoint.Check.decoder_sent hfields
  rw [Request.decodeBody, h.saysJson, if_neg (by simp), if_neg (Nat.not_lt.2 h.length), hdecode]

/-- A check is open to anyone and changes nothing. -/
theorem AsksCheck.handle_eq (h : AsksCheck request) :
    (api.handle service moment request).service = service ∧
    (api.handle service moment request).response =
      (PublicEndpoint.authorize.run service moment request).reply.toResponse := by
  have hfind : api.find? request.path =
      some (openRoute ["v1", "auth", "authorize"] none (some .authorize), []) := by
    rw [h.path]
    rfl
  have hverifies : (openRoute ["v1", "auth", "authorize"] none (some .authorize)).verifies = false := rfl
  have hguard : (openRoute ["v1", "auth", "authorize"] none (some .authorize)).guard = none := rfl
  have hendpoint : (openRoute ["v1", "auth", "authorize"] none (some .authorize)).endpoint? request.method =
      some (.anyone .authorize) := by
    rw [h.method]
    rfl
  have hnotHead : request.method ≠ .head := by
    rw [h.method]
    decide
  simp [Router.handle, Router.serve, Router.respond, Router.verifyCaller, Router.serveRoute, Router.passGuard, hfind,
    hverifies, hguard, hendpoint, hnotHead, Endpoint.run]

theorem AsksCheck.response_eq (h : AsksCheck request)
    (hdecode : request.decodeBody Endpoint.Check.decoder = .ok check) :
    (api.handle service moment request).response = (Endpoint.judge check moment.now).reply.toResponse := by
  rw [h.handle_eq.2, PublicEndpoint.run, hdecode]

theorem judge_of_unknown (hname : Rule.ofName? check.rule = none) (now : Instant) :
    (Endpoint.judge check now).reply = .unknownRule check.rule := by
  rw [Endpoint.judge, hname]

theorem judge_of_stale (hname : Rule.ofName? check.rule = some rule) {now : Instant}
    (hstale : ¬ (check.claims.issuedAt < check.claims.expiresAt ∧ now < check.claims.expiresAt)) :
    (Endpoint.judge check now).reply = .unauthenticated := by
  rw [Endpoint.judge, hname]
  cases hwindow : Authority.checkWindow check.claims now with
  | ok _ => exact absurd (Authority.checkWindow_eq_ok_iff.1 hwindow) hstale
  | error error => rfl

theorem judge_of_current (hname : Rule.ofName? check.rule = some rule) {now : Instant}
    (hcurrent : check.claims.issuedAt < check.claims.expiresAt ∧ now < check.claims.expiresAt) :
    (Endpoint.judge check now).reply =
      if (rule.explain (.about check.claims check.subject)).granted then .granted else .unauthenticated := by
  rw [Endpoint.judge, hname, Authority.checkWindow_eq_ok_iff.2 hcurrent]
  simp only
  split <;> rfl

end

/-! ## Answers of guards -/

/-- The user that a guard finds a request to be about: the one it loads for the path, or nobody if the guard looks for
no user or the path names none. -/
def Guard.Resolves (guard : Guard) (users : UserStore) (parameters : Option (List (String × String)))
    (subject : Option UserId) : Prop :=
  match guard with
  | .plain _ => subject = none
  | .subject _ => match subjectParameter? parameters with
    | none => subject = none
    | some raw => ∃ user, loadSubject users raw = .ok user ∧ subject = some user.id

namespace Guard.Resolves

variable {guard : Guard} {users : UserStore} {parameters : Option (List (String × String))} {subject : Option UserId}
  {claims : Claims}

theorem admits_of_grants (h : guard.Resolves users parameters subject) (hgrants : guard.rule.Grants claims subject) :
    ∃ identity, guard.Admits users parameters ⟨claims, none⟩ identity ∧ identity.claims = claims ∧
      identity.subject.map User.id = subject := by
  cases guard with
  | plain rule =>
      cases h
      exact ⟨⟨claims, none⟩, ⟨rfl, hgrants⟩, rfl, rfl⟩
  | subject rule =>
      simp only [Resolves] at h
      simp only [Admits]
      cases hparameter : subjectParameter? parameters with
      | none =>
          rw [hparameter] at h
          cases h
          exact ⟨⟨claims, none⟩, ⟨rfl, hgrants⟩, rfl, rfl⟩
      | some raw =>
          rw [hparameter] at h
          obtain ⟨user, hload, rfl⟩ := h
          exact ⟨⟨claims, some user⟩, ⟨user, hload, rfl, hgrants⟩, rfl, rfl⟩

theorem grants_of_admits (h : guard.Resolves users parameters subject) {identity : Identity}
    (hadmits : guard.Admits users parameters ⟨claims, none⟩ identity) : guard.rule.Grants claims subject := by
  cases guard with
  | plain rule =>
      cases h
      exact hadmits.2
  | subject rule =>
      simp only [Resolves] at h
      simp only [Admits] at hadmits
      cases hparameter : subjectParameter? parameters with
      | none =>
          rw [hparameter] at h hadmits
          cases h
          exact hadmits.2
      | some raw =>
          rw [hparameter] at h hadmits
          obtain ⟨user, hload, rfl⟩ := h
          obtain ⟨user', hload', _, hgrants⟩ := hadmits
          cases hload.symm.trans hload'
          exact hgrants

end Guard.Resolves

/-- A guard lets the bearer of a token through to the endpoint or refuses, as its rule decides about the user that it
finds. -/
theorem Router.handle_of_resolves {router : Router} {service : Service} {moment : Moment} {request : Request}
    {guard : Guard} {endpoint : CallerEndpoint} {found : List (String × List Char)} {token : String} {claims : Claims}
    {subject : Option UserId} (hreaches : router.Reaches request guard endpoint found) (hbears : request.Bears token)
    (hverify : service.authority.verify service.registry token moment.now = .ok claims)
    (hresolves : guard.Resolves service.users (Path.decodeParameters found) subject) :
    (guard.rule.evaluate (.about claims subject) = .ok () → ∃ identity : Identity, identity.claims = claims ∧
      identity.subject.map User.id = subject ∧
      (router.handle service moment request).service = (endpoint.run service moment request identity).1 ∧
      (router.handle service moment request).response =
        (endpoint.run service moment request identity).2.reply.toResponse) ∧
    (guard.rule.evaluate (.about claims subject) ≠ .ok () →
      (router.handle service moment request).service = service ∧
      (router.handle service moment request).response = refusal) := by
  refine ⟨fun hgranted => ?_, fun hdenied => ?_⟩
  · obtain ⟨identity, hadmits, hclaims, hsubject⟩ :=
      hresolves.admits_of_grants (Rule.evaluate_about_eq_ok_iff.1 hgranted)
    have hadmitted : Admitted guard service moment.now request found identity :=
      ⟨⟨claims, none⟩, authenticate_passes_iff.2 ⟨token, hbears, hverify, rfl⟩, Guard.check_passes_iff.2 hadmits⟩
    exact ⟨identity, hclaims, hsubject, Router.handle_of_admitted hreaches hadmitted⟩
  · rw [← toResponse_unauthenticated]
    refine Router.handle_of_not_admitted hreaches fun identity hadmitted => hdenied ?_
    obtain ⟨⟨claims', subject'⟩, hauthenticate, hcheck⟩ := hadmitted
    obtain ⟨token', hbears', hverify', hnone⟩ := authenticate_passes_iff.1 hauthenticate
    cases hnone
    -- A request bears one token only.
    cases (Request.bearerToken_eq_ok_iff.2 hbears).symm.trans (Request.bearerToken_eq_ok_iff.2 hbears')
    cases hverify.symm.trans hverify'
    exact Rule.evaluate_about_eq_ok_iff.2 (hresolves.grants_of_admits (Guard.check_passes_iff.1 hcheck))

/-! ## Agreement -/

section

variable {moment : Moment} {request : Request} {claims : Claims} {subject : Option UserId} {rule : Rule}

/-- What a check is answered that is sent the claims of a token while the token is verified. -/
theorem SendsCheck.response_of_verify (h : SendsCheck request claims subject rule.name) {authority : Authority}
    {registry : Registry} {token : String} (hverify : authority.verify registry token moment.now = .ok claims)
    (service : Service) :
    (api.handle service moment request).response =
      if (rule.explain (.about claims subject)).granted then Reply.granted.toResponse else refusal := by
  obtain ⟨s, pair, haccepted⟩ := Authority.accepted_of_verify hverify
  -- The claims of a token were read from a text, so that writing them loses nothing.
  obtain ⟨v, -, hread, -⟩ := haccepted.said
  have hdecode := h.decodeBody_eq
  rw [Claims.onWire_of_decoder hread] at hdecode
  rw [h.toAsksCheck.response_eq hdecode,
    judge_of_current (Rule.ofName?_name rule) ⟨haccepted.window, haccepted.current⟩, apply_ite Reply.toResponse,
    toResponse_unauthenticated]

/-- The two ways to decide agree. A check of the claims of a verified token is granted if the rule grants them access,
and gets the one refusal if it does not; a guard with that rule, which finds a request with that token to be about that
user, lets the bearer through to the endpoint or gives the same refusal. A check by a name that no rule has is a bad
request, and one of claims that do not hold at the moment is refused by every rule. No check changes anything. -/
theorem check_agrees_with_guards :
    (∀ service moment request, AsksCheck request → (api.handle service moment request).service = service) ∧
    (∀ (authority : Authority) (registry : Registry) (token : String) (now : Instant) (claims : Claims),
      authority.verify registry token now = .ok claims → ∀ (rule : Rule) (subject : Option UserId),
        (∀ service (moment : Moment) request, moment.now = now → SendsCheck request claims subject rule.name →
          (rule.evaluate (.about claims subject) = .ok () →
            (api.handle service moment request).response = emptyResponse 204) ∧
          (rule.evaluate (.about claims subject) ≠ .ok () →
            (api.handle service moment request).response = refusal)) ∧
        ∀ (router : Router) service (moment : Moment) request guard endpoint found, moment.now = now →
          service.authority = authority → service.registry = registry → guard.rule = rule →
          router.Reaches request guard endpoint found → request.Bears token →
          guard.Resolves service.users (Path.decodeParameters found) subject →
            (rule.evaluate (.about claims subject) = .ok () → ∃ identity : Identity, identity.claims = claims ∧
              identity.subject.map User.id = subject ∧
              (router.handle service moment request).service = (endpoint.run service moment request identity).1 ∧
              (router.handle service moment request).response =
                (endpoint.run service moment request identity).2.reply.toResponse) ∧
            (rule.evaluate (.about claims subject) ≠ .ok () →
              (router.handle service moment request).service = service ∧
              (router.handle service moment request).response = refusal)) ∧
    ∀ service (moment : Moment) request check, AsksCheck request →
      request.decodeBody Endpoint.Check.decoder = .ok check →
        ((∀ rule : Rule, rule.name ≠ check.rule) → (api.handle service moment request).response =
          problemResponse 400 "invalid_rule" (Rule.unknownMessage check.rule)) ∧
        ∀ rule : Rule, rule.name = check.rule →
          check.claims.expiresAt ≤ check.claims.issuedAt ∨ check.claims.expiresAt ≤ moment.now →
            (api.handle service moment request).response = refusal := by
  refine ⟨fun service moment request h => h.handle_eq.1,
    fun authority registry token now claims hverify rule subject => ⟨?checks, ?guards⟩,
    fun service moment request check h hdecode => ⟨fun hunknown => ?unknown, fun rule hname hstale => ?stale⟩⟩
  case checks =>
    rintro service moment request rfl h
    have hresponse := h.response_of_verify hverify service
    constructor
    · intro hgranted
      rw [hresponse, if_pos (Rule.granted_explain_iff.2 hgranted)]
      rfl
    · intro hdenied
      rw [hresponse, if_neg (mt Rule.granted_explain_iff.1 hdenied)]
  case guards =>
    rintro router service moment request guard endpoint found rfl rfl rfl rfl hreaches hbears hresolves
    exact Router.handle_of_resolves hreaches hbears hverify hresolves
  case unknown =>
    rw [h.response_eq hdecode, judge_of_unknown (Rule.ofName?_eq_none_iff.2 hunknown)]
    rfl
  case stale =>
    have hnotCurrent : ¬ (check.claims.issuedAt < check.claims.expiresAt ∧
        moment.now < check.claims.expiresAt) := fun ⟨hwindow, hcurrent⟩ =>
      hstale.elim (fun hempty => hempty hwindow) fun hexpired => hexpired hcurrent
    rw [h.response_eq hdecode, judge_of_stale (hname ▸ Rule.ofName?_name rule) hnotCurrent,
      toResponse_unauthenticated]

end

/-! ## A sample -/

open Authority (sampleAuthority sampleRegistry sampleKid sampleClaims)
open GuardedRoute (sampleMoment sampleUser sampleService sampleRequest)

/-- The fields of a check of the sample claims about nobody, not in the order in which they are listed. -/
def checkFields (rule : String) : List (String × Document) :=
  [("user_id", .null), ("rule", .text rule), ("claims", sampleClaims.toDocument)]

/-- A request for that check. -/
def checkRequest (rule : String) : Request :=
  ⟨.post, "/v1/auth/authorize", [jsonHeader], Text.Utf8.encode (Document.object (checkFields rule)).chars⟩

theorem checkRequest_sends {rule : String} (hlength : (checkRequest rule).body.length ≤ longestBody) :
    SendsCheck (checkRequest rule) sampleClaims none rule where
  method := rfl
  path := by simp only [Request.path, checkRequest]; decide
  saysJson := by
    have hheader : (checkRequest rule).header? "content-type" = some jsonHeader.2 := rfl
    rw [Request.saysJson, hheader]
    decide +kernel
  length := hlength
  body := by
    refine ⟨checkFields rule, ⟨[("user_id", .null)], .null, ?_⟩, ?_⟩
    · exact (List.reverse_perm _).symm
    · rw [checkRequest, Text.Utf8.decode_encode]
      exact congrArg Prod.fst (Value.read_chars _)

/-- An administrator asks about itself as the sample user. The check of its claims is granted by one rule and refused by
another; the guard that lets it see the user agrees with the first. A rule that does not exist, and the moment at which
the claims expire, are told apart. -/
theorem check_agrees_with_guards_sample : ∃ token : String,
    sampleAuthority.verify (sampleRegistry sampleKid) token sampleMoment.now = .ok sampleClaims ∧
    (api.handle sampleService sampleMoment (checkRequest "admin_or_subject")).response = emptyResponse 204 ∧
    (api.handle sampleService sampleMoment (checkRequest "user_only")).response = refusal ∧
    (∃ identity : Identity, identity.claims = sampleClaims ∧
      (api.handle sampleService sampleMoment
        (sampleRequest [("Authorization", Text.Utf8.encode (bearerScheme ++ token.toList))])).response =
        (CallerEndpoint.showUser.run sampleService sampleMoment
          (sampleRequest [("Authorization", Text.Utf8.encode (bearerScheme ++ token.toList))])
          identity).2.reply.toResponse) ∧
    (api.handle sampleService sampleMoment (checkRequest "nobody")).response =
      problemResponse 400 "invalid_rule" "unknown rule 'nobody'" ∧
    (api.handle sampleService { sampleMoment with now := sampleClaims.expiresAt }
      (checkRequest "admin_or_subject")).response = refusal := by
  obtain ⟨token, hissue⟩ := Authority.exists_issue_sample
  obtain ⟨hne, hvisible⟩ := Authority.visible_of_issue hissue
  obtain ⟨s, pair, haccepted⟩ : ∃ s pair, sampleAuthority.Accepted (sampleRegistry sampleKid) token sampleMoment.now
      sampleClaims s pair :=
    Authority.accepted_of_issue rfl rfl rfl (by decide) hissue (by decide)
  have hverify := Authority.verify_of_accepted haccepted
  have hgranting : SendsCheck (checkRequest "admin_or_subject") sampleClaims none "admin_or_subject" :=
    checkRequest_sends (by decide +kernel)
  have hdenying : SendsCheck (checkRequest "user_only") sampleClaims none "user_only" :=
    checkRequest_sends (by decide +kernel)
  have hunknown : SendsCheck (checkRequest "nobody") sampleClaims none "nobody" :=
    checkRequest_sends (by decide +kernel)
  obtain ⟨-, hagrees, hothers⟩ := check_agrees_with_guards
  have hself := hagrees _ _ _ _ _ hverify .adminOrSubject (some sampleUser.id)
  refine ⟨token, hverify, ?granted, ?denied, ?guarded, ?unknown, ?expired⟩
  case granted =>
    exact ((hagrees _ _ _ _ _ hverify .adminOrSubject none).1 sampleService sampleMoment _ rfl hgranting).1 (by decide)
  case denied =>
    exact ((hagrees _ _ _ _ _ hverify .userOnly none).1 sampleService sampleMoment _ rfl hdenying).2 (by decide)
  case guarded =>
    have hparameter : Guard.subjectParameter? (Path.decodeParameters
        (GuardedRoute.showUser.parameters "00000000-0000-0000-0000-000000000007".toList)) =
          some "00000000-0000-0000-0000-000000000007" := by decide +kernel
    have hresolves : GuardedRoute.showUser.guard.Resolves sampleService.users (Path.decodeParameters
        (GuardedRoute.showUser.parameters "00000000-0000-0000-0000-000000000007".toList)) (some sampleUser.id) := by
      have hload : Guard.loadSubject sampleService.users "00000000-0000-0000-0000-000000000007" = .ok sampleUser := by
        have hid : UserId.ofText "00000000-0000-0000-0000-000000000007" = .ok ⟨7⟩ := by decide +kernel
        rw [Guard.loadSubject, hid]
        rfl
      simp only [GuardedRoute.guard, GuardedRoute.namesUser, if_true, Guard.Resolves, hparameter]
      exact ⟨sampleUser, hload, rfl⟩
    have hbears : (sampleRequest [("Authorization", Text.Utf8.encode (bearerScheme ++ token.toList))]).Bears token :=
      Request.bears_of_header hvisible hne rfl
    obtain ⟨identity, hclaims, -, -, hresponse⟩ := (hself.2 api sampleService sampleMoment _ _ _ _ rfl rfl rfl rfl
      (GuardedRoute.reaches (GuardedRoute.sampleRequest_matches _)) hbears hresolves).1 (by decide)
    exact ⟨identity, hclaims, hresponse⟩
  case unknown =>
    have hnone : ∀ rule : Rule, rule.name ≠ "nobody" := fun rule => by cases rule <;> decide
    exact (hothers _ sampleMoment _ _ hunknown.toAsksCheck hunknown.decodeBody_eq).1 hnone
  case expired =>
    exact (hothers _ { sampleMoment with now := sampleClaims.expiresAt } _ _ hgranting.toAsksCheck
      hgranting.decodeBody_eq).2 .adminOrSubject rfl (.inr (by decide))

end Http

end TokenAuthority
