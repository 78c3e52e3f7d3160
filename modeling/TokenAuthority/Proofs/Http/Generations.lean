import TokenAuthority.Proofs.Http.Mediation
import TokenAuthority.Proofs.Keys.Views
import TokenAuthority.Proofs.Token.Minting
import TokenAuthority.Proofs.Token.NamedKey

/-!
# Answers and the generations of the registry

An endpoint calls the registry several times for one answer, and other requests may operate on the registry between
two calls. What is read together in one call agrees; what is read in two calls agrees if no other key id has become
active in between. Main statement: `answers_over_generations`.
-/

namespace TokenAuthority

/-! ## Operations of other requests -/

namespace KeyOperation

/-- The registry after an operation; one that fails leaves it as it is. -/
def apply (operation : KeyOperation) (registry : Registry) : Registry :=
  match operation.run registry with
  | .ok after => after
  | .error _ => registry

end KeyOperation

namespace Registry

variable {registry : Registry} {operations : List KeyOperation}

/-- The registry after some operations, of which those that fail leave it as it is. -/
def after (registry : Registry) (operations : List KeyOperation) : Registry :=
  operations.foldl (fun registry operation => operation.apply registry) registry

theorem activeKid_apply {operation : KeyOperation} (h : operation.kid? = none) :
    (operation.apply registry).activeKid = registry.activeKid := by
  unfold KeyOperation.apply
  split
  · rename_i after hrun
    rw [KeyOperation.activeKid_of_run hrun, h]
    rfl
  · rfl

/-- Operations that name no key id leave the active one as it is. -/
theorem activeKid_after (h : ∀ operation ∈ operations, operation.kid? = none) :
    (registry.after operations).activeKid = registry.activeKid := by
  induction operations generalizing registry with
  | nil => rfl
  | cons operation operations ih =>
      have hrest : ((operation.apply registry).after operations).activeKid = (operation.apply registry).activeKid :=
        ih fun other hother => h other (.tail _ hother)
      exact hrest.trans (activeKid_apply (h operation (.head _)))

end Registry

/-- A minted token names the key id that was active. -/
theorem Authority.names_of_mint {authority : Authority} {registry : Registry} {user : UserId} {roles : RoleSet}
    {now : Instant} {token : String} {claims : Claims}
    (h : authority.mint registry user roles now = .ok (token, claims)) : Names token registry.activeKid := by
  obtain ⟨pair, _, hkid, hsign⟩ := exists_pair_of_issue (stamp?_of_mint h).2
  obtain ⟨s, hcomposed, hissued⟩ := exists_issued_of_signWith hsign
  exact ⟨s, hcomposed, hkid ▸ hissued.named⟩

namespace Http

/-! ## Calls -/

/-- What an endpoint does with the registry, one call after the other. -/
inductive Calls
  | done (answer : Answer)
  | read (next : Registry → Calls)
  | operate (operation : KeyOperation) (next : Except KeyError Registry → Calls)

/-- Makes each call on the registry that the operations of other requests before it have left. -/
def Calls.run : Calls → Registry → (Nat → List KeyOperation) → Registry × Answer
  | .done answer, registry, _ => (registry, answer)
  | .read next, registry, others =>
      (next (registry.after (others 0))).run (registry.after (others 0)) fun n => others (n + 1)
  | .operate operation next, registry, others =>
      (next (operation.run (registry.after (others 0)))).run (operation.apply (registry.after (others 0)))
        fun n => others (n + 1)

open Endpoint (keysReply requestedKid)

/-- The calls of an endpoint for anyone. -/
def PublicEndpoint.calls (endpoint : PublicEndpoint) (service : Service) (moment : Moment) (request : Request) :
    Calls :=
  match endpoint with
  | .keys => .read fun naming => .read fun listing => .done ⟨keysReply naming listing, []⟩
  | endpoint => .done (endpoint.run service moment request)

/-- The calls of an endpoint for verified callers. -/
def CallerEndpoint.calls (endpoint : CallerEndpoint) (service : Service) (moment : Moment) (request : Request)
    (identity : Identity) : Calls :=
  match endpoint with
  | .refreshToken => .read fun signing => .read fun naming =>
      .done (Endpoint.refresh service.authority signing naming service.users identity moment.now)
  | .mintToken => .read fun signing => .read fun naming =>
      .done (Endpoint.mint service.authority signing naming identity moment.now)
  | .reloadKeys => .operate (.reload moment.keySource (requestedKid request)) fun
      | .error error => .done (.ofKeyError error)
      -- The event names the active key id as it is read for it, before the two reads of the answer.
      | .ok published => .read fun told => .read fun naming => .read fun listing =>
          .done ⟨keysReply naming listing, [published.reloadedEvent,
            ⟨.info, "key registry reloaded via api",
              [("by", identity.claims.subject.toText), ("active_kid", told.activeKid)]⟩]⟩
  | endpoint => .done (endpoint.run service moment request identity).2

section

variable {service : Service} {moment : Moment} {request : Request} {identity : Identity}

/-- Undisturbed the calls come to what the endpoint does. -/
theorem PublicEndpoint.run_calls (endpoint : PublicEndpoint) :
    (endpoint.calls service moment request).run service.registry (fun _ => []) =
      (service.registry, endpoint.run service moment request) := by
  cases endpoint <;> rfl

theorem CallerEndpoint.run_calls (endpoint : CallerEndpoint) :
    (endpoint.calls service moment request identity).run service.registry (fun _ => []) =
      ((endpoint.run service moment request identity).1.registry,
        (endpoint.run service moment request identity).2) := by
  cases endpoint with
  | reloadKeys =>
      have hrun : (KeyOperation.reload moment.keySource (requestedKid request)).run service.registry =
          service.registry.reload moment.keySource (requestedKid request) := rfl
      simp only [calls, Calls.run, Registry.after, List.foldl_nil, KeyOperation.apply, hrun, run, Endpoint.reload]
      cases service.registry.reload moment.keySource (requestedKid request) with
      | error error => rfl
      | ok published => rfl
  | createUser =>
      simp only [calls, Calls.run, run, Endpoint.create]
      split
      · rfl
      · split
        · rfl
        · rfl
  | _ => rfl

end

/-! ## Replies of one generation -/

/-- A reply whose parts agree: a token names the key id that it is given out with, and of published keys none but the
one under the active key id is flagged, that one if any is. -/
def Reply.OneGeneration : Reply → Prop
  | .token text kid _ => Authority.Names text kid
  | .keys activeKid published =>
      ((∃ key ∈ published, key.active = true) → ∃ key ∈ published, key.kid = activeKid ∧ key.active = true) ∧
      ∀ key ∈ published, key.active = true → key.kid = activeKid
  | _ => True

/-- A reply with neither a token nor keys. -/
def Reply.Keyless : Reply → Prop
  | .token _ _ _ | .keys _ _ => False
  | _ => True

theorem Reply.Keyless.oneGeneration {reply : Reply} (h : reply.Keyless) : reply.OneGeneration := by
  cases reply with
  | token => exact h.elim
  | keys => exact h.elim
  | _ => trivial

theorem oneGeneration_keysReply {naming listing : Registry} :
    (keysReply naming listing).OneGeneration ↔ listing.activeKid = naming.activeKid ∨ ¬ listing.Signs := by
  constructor
  · rintro ⟨_, honly⟩
    by_cases hsigns : listing.Signs
    · obtain ⟨key, hkey, hactive⟩ := Registry.exists_active_iff.2 hsigns
      exact .inl ((Registry.kid_of_active hkey hactive).symm.trans (honly key hkey hactive))
    · exact .inr hsigns
  · rintro (hsame | hnot)
    · have honly (key : PublishedKey) (hkey : key ∈ listing.publicKeys) (hactive : key.active = true) :
          key.kid = naming.activeKid := (Registry.kid_of_active hkey hactive).trans hsame
      refine ⟨?_, honly⟩
      rintro ⟨key, hkey, hactive⟩
      exact ⟨key, hkey, honly key hkey hactive, hactive⟩
    · rw [← Registry.exists_active_iff] at hnot
      exact ⟨fun hflagged => absurd hflagged hnot, fun key hkey hactive => absurd ⟨key, hkey, hactive⟩ hnot⟩

/-! ## Tokens -/

/-- A reply to a request for a token: the token names the key that signs it, the key id beside it is read later. -/
inductive Issues (signing naming : Registry) : Reply → Prop
  | token {text : String} {expiresAt : Instant} (hnames : Authority.Names text signing.activeKid) :
      Issues signing naming (.token text naming.activeKid expiresAt)
  | neither {reply : Reply} (hkeyless : reply.Keyless) : Issues signing naming reply

section

variable {authority : Authority} {signing naming : Registry} {users : UserStore} {user : User} {identity : Identity}
  {now : Instant}

theorem issueToken_issues : Issues signing naming (Endpoint.issueToken authority signing naming user now).reply := by
  unfold Endpoint.issueToken
  split
  · rename_i token claims hmint
    exact .token (Authority.names_of_mint hmint)
  · exact .neither trivial

theorem refresh_issues :
    Issues signing naming (Endpoint.refresh authority signing naming users identity now).reply := by
  unfold Endpoint.refresh
  split
  · exact issueToken_issues
  · exact .neither trivial

theorem mint_issues : Issues signing naming (Endpoint.mint authority signing naming identity now).reply := by
  unfold Endpoint.mint
  split
  · exact .neither trivial
  · exact issueToken_issues

end

/-! ## The replies of the endpoints -/

/-- The registry that a call meets after others that only read. -/
def met (registry : Registry) (others : Nat → List KeyOperation) : Nat → Registry
  | 0 => registry.after (others 0)
  | n + 1 => (met registry others n).after (others (n + 1))

theorem activeKid_met {registry : Registry} {others : Nat → List KeyOperation}
    (h : ∀ n, ∀ operation ∈ others n, operation.kid? = none) (n : Nat) :
    (met registry others n).activeKid = registry.activeKid := by
  induction n with
  | zero => exact Registry.activeKid_after (h 0)
  | succ n ih => exact (Registry.activeKid_after (h (n + 1))).trans ih

/-- The reply of an endpoint for anyone while others operate on the registry. -/
def publicReply (endpoint : PublicEndpoint) (service : Service) (moment : Moment) (request : Request)
    (others : Nat → List KeyOperation) : Reply :=
  ((endpoint.calls service moment request).run service.registry others).2.reply

/-- The reply of an endpoint for verified callers while others operate on the registry. -/
def callerReply (endpoint : CallerEndpoint) (service : Service) (moment : Moment) (request : Request)
    (identity : Identity) (others : Nat → List KeyOperation) : Reply :=
  ((endpoint.calls service moment request identity).run service.registry others).2.reply

variable {service : Service} {moment : Moment} {request : Request} {identity : Identity}
  {others : Nat → List KeyOperation}

theorem publicReply_keys : publicReply .keys service moment request others =
    keysReply (met service.registry others 0) (met service.registry others 1) := rfl

theorem keyless_publicReply {endpoint : PublicEndpoint} (h : endpoint ≠ .keys) :
    (publicReply endpoint service moment request others).Keyless := by
  cases endpoint with
  | keys => exact absurd rfl h
  | authorize =>
      simp only [publicReply, PublicEndpoint.calls, Calls.run, PublicEndpoint.run, Endpoint.judge]
      repeat' split
      all_goals trivial
  | _ => trivial

theorem callerReply_mintToken {user : User} {text : String} {claims : Claims} (hsubject : identity.subject = some user)
    (hmint : service.authority.mint (met service.registry others 0) user.id user.roles moment.now =
      .ok (text, claims)) :
    callerReply .mintToken service moment request identity others =
      .token text (met service.registry others 1).activeKid claims.expiresAt := by
  have hreply : callerReply .mintToken service moment request identity others = (Endpoint.mint service.authority
      (met service.registry others 0) (met service.registry others 1) identity moment.now).reply := rfl
  rw [hreply, Endpoint.mint, hsubject]
  simp only [Endpoint.issueToken, hmint]

theorem callerReply_reloadKeys {published : Registry}
    (h : (met service.registry others 0).reload moment.keySource (requestedKid request) = .ok published) :
    callerReply .reloadKeys service moment request identity others =
      keysReply (met published (fun n => others (n + 1)) 1) (met published (fun n => others (n + 1)) 2) := by
  have hrun : (KeyOperation.reload moment.keySource (requestedKid request)).run
      (service.registry.after (others 0)) = .ok published := h
  simp only [callerReply, CallerEndpoint.calls, Calls.run, KeyOperation.apply, hrun]
  rfl

/-- What an endpoint for verified callers replies: a token if it can, keys after a reload of its own, or neither. -/
inductive Replies (service : Service) (moment : Moment) (request : Request) (others : Nat → List KeyOperation) :
    Reply → Prop
  | issued {reply : Reply} (h : Issues (met service.registry others 0) (met service.registry others 1) reply) :
      Replies service moment request others reply
  | reloaded {published : Registry}
      (hreload : (met service.registry others 0).reload moment.keySource (requestedKid request) = .ok published) :
      Replies service moment request others
        (keysReply (met published (fun n => others (n + 1)) 1) (met published (fun n => others (n + 1)) 2))
  | neither {reply : Reply} (hkeyless : reply.Keyless) : Replies service moment request others reply

theorem callerReply_replies (endpoint : CallerEndpoint) :
    Replies service moment request others (callerReply endpoint service moment request identity others) := by
  cases endpoint with
  | refreshToken => exact .issued refresh_issues
  | mintToken => exact .issued mint_issues
  | reloadKeys =>
      cases hreload : (met service.registry others 0).reload moment.keySource (requestedKid request) with
      | ok published =>
          rw [callerReply_reloadKeys hreload]
          exact .reloaded hreload
      | error error =>
          have hrun : (KeyOperation.reload moment.keySource (requestedKid request)).run
              (service.registry.after (others 0)) = .error error := hreload
          simp only [callerReply, CallerEndpoint.calls, Calls.run, hrun]
          cases error <;> exact .neither trivial
  | listUsers =>
      simp only [callerReply, CallerEndpoint.calls, Calls.run, CallerEndpoint.run, Endpoint.list]
      split
      · exact .neither trivial
      · rename_i error _
        cases error <;> exact .neither trivial
  | createUser =>
      simp only [callerReply, CallerEndpoint.calls, Calls.run, CallerEndpoint.run, Endpoint.create]
      split
      · exact .neither trivial
      · split
        · rename_i error _
          cases error <;> exact .neither trivial
        · exact .neither trivial
  | showUser =>
      simp only [callerReply, CallerEndpoint.calls, Calls.run, CallerEndpoint.run, Endpoint.showSubject]
      split
      · exact .neither trivial
      · exact .neither trivial
  | _ => exact .neither trivial

theorem names_of_callerReply {endpoint : CallerEndpoint} {text kid : String} {expiresAt : Instant}
    (h : callerReply endpoint service moment request identity others = .token text kid expiresAt) :
    Authority.Names text (met service.registry others 0).activeKid ∧
      kid = (met service.registry others 1).activeKid := by
  have hreplies : Replies service moment request others (callerReply endpoint service moment request identity others) :=
    callerReply_replies endpoint
  rw [h] at hreplies
  cases hreplies with
  | issued hissues =>
      cases hissues with
      | token hnames => exact ⟨hnames, rfl⟩
      | neither hkeyless => exact hkeyless.elim
  | neither hkeyless => exact hkeyless.elim

/-- Reloads that keep the active key id do not part what is read. -/
theorem oneGeneration_callerReply (h : ∀ n, ∀ operation ∈ others n, operation.kid? = none)
    (endpoint : CallerEndpoint) : (callerReply endpoint service moment request identity others).OneGeneration := by
  have hreplies : Replies service moment request others (callerReply endpoint service moment request identity others) :=
    callerReply_replies endpoint
  generalize callerReply endpoint service moment request identity others = reply at hreplies
  cases hreplies with
  | issued hissues =>
      cases hissues with
      | token hnames =>
          rw [activeKid_met h] at hnames
          rw [activeKid_met h]
          exact hnames
      | neither hkeyless => exact hkeyless.oneGeneration
  | reloaded hreload =>
      have hlater : ∀ n, ∀ operation ∈ others (n + 1), operation.kid? = none := fun n => h (n + 1)
      rw [oneGeneration_keysReply, activeKid_met hlater, activeKid_met hlater]
      exact .inl rfl
  | neither hkeyless => exact hkeyless.oneGeneration

theorem oneGeneration_publicReply (h : ∀ n, ∀ operation ∈ others n, operation.kid? = none)
    (endpoint : PublicEndpoint) : (publicReply endpoint service moment request others).OneGeneration := by
  by_cases hkeys : endpoint = .keys
  · subst hkeys
    rw [publicReply_keys, oneGeneration_keysReply, activeKid_met h, activeKid_met h]
    exact .inl rfl
  · exact (keyless_publicReply hkeys).oneGeneration

/-- What is read in two calls is of one generation when the key id that is active at the calls is the same, or, of
published keys, when none is flagged. Between the calls others may have made another key id active; reloads that name
none part nothing. -/
theorem answers_over_generations (service : Service) (moment : Moment) (request : Request) (identity : Identity)
    (others : Nat → List KeyOperation) :
    (∀ endpoint text kid expiresAt,
      callerReply endpoint service moment request identity others = .token text kid expiresAt →
        Authority.Names text (met service.registry others 0).activeKid ∧
        kid = (met service.registry others 1).activeKid ∧
        ((callerReply endpoint service moment request identity others).OneGeneration ↔
          (met service.registry others 1).activeKid = (met service.registry others 0).activeKid)) ∧
    ((publicReply .keys service moment request others).OneGeneration ↔
      (met service.registry others 1).activeKid = (met service.registry others 0).activeKid ∨
        ¬ (met service.registry others 1).Signs) ∧
    (∀ published, (met service.registry others 0).reload moment.keySource (requestedKid request) = .ok published →
      ((callerReply .reloadKeys service moment request identity others).OneGeneration ↔
        (met published (fun n => others (n + 1)) 2).activeKid = (met published (fun n => others (n + 1)) 1).activeKid ∨
          ¬ (met published (fun n => others (n + 1)) 2).Signs)) ∧
    ((∀ n, ∀ operation ∈ others n, operation.kid? = none) →
      (∀ endpoint, (callerReply endpoint service moment request identity others).OneGeneration) ∧
      ∀ endpoint, (publicReply endpoint service moment request others).OneGeneration) := by
  refine ⟨fun endpoint text kid expiresAt hreply => ?_, ?_, fun published hreload => ?_, fun hquiet => ?_⟩
  · obtain ⟨hnames, hkid⟩ := names_of_callerReply hreply
    refine ⟨hnames, hkid, ?_⟩
    rw [hreply, ← hkid]
    constructor
    · intro hsame
      exact Authority.Names.eq hsame hnames
    · rintro rfl
      exact hnames
  · rw [publicReply_keys, oneGeneration_keysReply]
  · rw [callerReply_reloadKeys hreload, oneGeneration_keysReply]
  · exact ⟨oneGeneration_callerReply hquiet, oneGeneration_publicReply hquiet⟩

/-! ## A sample -/

open Authority (samplePair)
open GuardedRoute (sampleMoment sampleService sampleUser sampleRequest)

/-- A registry of the sample key under two ids, the first of them active. -/
def twoKeys : Registry := ⟨⟨[samplePair "k", samplePair "k2"], by decide⟩, "k"⟩

/-- A service over that registry that signs for an hour. -/
def twoKeysService : Service :=
  ⟨⟨"medisync", ⟨3600000000000, by decide, by decide⟩⟩, twoKeys, sampleService.users⟩

/-- The caller of the sample claims, asking about the sample user. -/
def sampleIdentity : Identity := ⟨Authority.sampleClaims, some sampleUser⟩

/-- Another request makes the second key active between the first two calls. -/
def rotation : Nat → List KeyOperation
  | 1 => [.rotate "k2"]
  | _ => []

theorem activeKid_rotated : (met twoKeys rotation 1).activeKid = "k2" := by decide +kernel

theorem signs_rotated : (met twoKeys rotation 1).Signs := by
  rw [Registry.signs_iff, activeKid_rotated]
  exact ⟨samplePair "k2", .tail _ (.head _), rfl⟩

theorem exists_token_rotated : ∃ text kid expiresAt,
    callerReply .mintToken twoKeysService sampleMoment (sampleRequest []) sampleIdentity rotation =
      .token text kid expiresAt := by
  obtain ⟨⟨text, claims⟩, hmint⟩ : ∃ minted, twoKeysService.authority.mint (met twoKeys rotation 0) sampleUser.id
      sampleUser.roles sampleMoment.now = .ok minted := Outcome.exists_of_isSome (by decide +kernel)
  exact ⟨_, _, _, callerReply_mintToken rfl hmint⟩

/-- While another request makes the second key active, a token of the first key is given out as one of the second. -/
theorem answers_over_generations_sample : ∃ text expiresAt,
    callerReply .mintToken twoKeysService sampleMoment (sampleRequest []) sampleIdentity rotation =
      .token text "k2" expiresAt ∧ Authority.Names text "k" := by
  obtain ⟨text, kid, expiresAt, hreply⟩ := exists_token_rotated
  obtain ⟨htokens, _⟩ :=
    answers_over_generations twoKeysService sampleMoment (sampleRequest []) sampleIdentity rotation
  obtain ⟨hnames, hkid, _⟩ := htokens _ _ _ _ hreply
  have hrotated : kid = "k2" := hkid.trans activeKid_rotated
  subst hrotated
  exact ⟨text, expiresAt, hreply, hnames⟩

/-- A rotation between two calls parts a token from its key id, and the active key id from the flags. -/
theorem rotation_mixes_generations :
    ¬ (callerReply .mintToken twoKeysService sampleMoment (sampleRequest []) sampleIdentity rotation).OneGeneration ∧
    ¬ (publicReply .keys twoKeysService sampleMoment (sampleRequest []) rotation).OneGeneration := by
  have hparted : (met twoKeys rotation 1).activeKid ≠ (met twoKeys rotation 0).activeKid := by decide +kernel
  constructor
  · obtain ⟨text, kid, expiresAt, hreply⟩ := exists_token_rotated
    obtain ⟨hnames, hkid⟩ := names_of_callerReply hreply
    rw [hreply]
    intro hsame
    exact hparted (hkid.symm.trans (Authority.Names.eq hsame hnames))
  · rw [publicReply_keys, oneGeneration_keysReply]
    rintro (hsame | hnot)
    · exact hparted hsame
    · exact hnot signs_rotated

end Http

end TokenAuthority
