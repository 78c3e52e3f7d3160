import TokenAuthority.Http.Guard
import TokenAuthority.Proofs.Access.Rules
import TokenAuthority.Proofs.Encoding.RoundTrip

/-!
# What the guards let through

When a request passes a stage, and with which identity. Main statements: `authenticate_passes_iff`,
`Guard.check_passes_iff`.
-/

namespace TokenAuthority.Http

/-! ## Stages -/

namespace Passage

variable {α : Type}

/-- A stage that a request leaves with a finding. -/
def Passes (passage : Passage α) (found : α) : Prop := ∃ log, passage = .pass found log

/-- A stage that a request does not leave. -/
def Stops (passage : Passage α) : Prop := ∃ event, passage = .stop event

theorem stops_iff {passage : Passage α} : passage.Stops ↔ ∀ found, ¬ passage.Passes found := by
  cases passage with
  | pass found log => simp [Stops, Passes]
  | stop event => simp [Stops, Passes]

end Passage

/-! ## Authentication -/

/-- A request bears a token when its first authorization header is of visible characters and consists of the
scheme and, with white space around it or not, the token. -/
def Request.Bears (request : Request) (token : String) : Prop :=
  ∃ value raw, request.header? "authorization" = some value ∧
    Request.visibleText? value = some (bearerScheme ++ raw) ∧ Text.trimChars raw = token.toList ∧ token ≠ ""

theorem Request.bearerToken_eq_ok_iff {request : Request} {token : String} :
    request.bearerToken = .ok token ↔ request.Bears token := by
  constructor
  · intro h
    unfold bearerToken at h
    split at h
    · cases h
    · rename_i value hvalue
      split at h
      · cases h
      · rename_i cs hcs
        split at h
        · cases h
        · rename_i hscheme
          simp only at h
          split at h
          · cases h
          · rename_i hnonempty
            cases h
            refine ⟨value, cs.drop bearerScheme.length, hvalue, ?_, by rw [String.toList_ofList],
              by simpa using hnonempty⟩
            rw [hcs]
            have htake : cs.take bearerScheme.length = bearerScheme := by simpa using hscheme
            conv => lhs; rw [← List.take_append_drop bearerScheme.length cs, htake]
  · rintro ⟨value, raw, hvalue, hcs, htrim, hnonempty⟩
    simp [bearerToken, hvalue, hcs, htrim, hnonempty]

theorem visibleText?_of_visible {cs : List Char} (h : ∀ c ∈ cs, 32 ≤ c.toNat ∧ c.toNat < 127) :
    Request.visibleText? (Text.Utf8.encode cs) = some cs := by
  have htoNat (c : Char) (hc : c ∈ cs) : (UInt8.ofNat c.toNat).toNat = c.toNat :=
    UInt8.toNat_ofNat_of_lt' (Nat.lt_trans (h c hc).2 (by decide))
  rw [Text.Utf8.encode_of_ascii fun c hc => Nat.lt_trans (h c hc).2 (by decide), Request.visibleText?, if_pos]
  · rw [List.map_map, List.map_congr_left (g := id) fun c hc => by simp [htoNat c hc], List.map_id]
  · simp only [List.all_map, List.all_eq_true, Function.comp_apply, Bool.or_eq_true, Bool.and_eq_true,
      decide_eq_true_eq, UInt8.le_iff_toNat_le, UInt8.lt_iff_toNat_lt]
    intro c hc
    rw [htoNat c hc]
    exact .inl (h c hc)

theorem trimChars_of_visible {cs : List Char} (h : ∀ c ∈ cs, 33 ≤ c.toNat ∧ c.toNat < 127) :
    Text.trimChars cs = cs := by
  have hblank (c : Char) (hc : c ∈ cs) : Text.isBlank c = false := by
    have := h c hc
    simp [Text.isBlank]
    omega
  have hdrop {ds : List Char} (hds : ∀ c ∈ ds, Text.isBlank c = false) : ds.dropWhile Text.isBlank = ds := by
    cases ds with
    | nil => rfl
    | cons d ds => simp [hds d]
  rw [Text.trimChars, hdrop hblank, hdrop fun c hc => hblank c (List.mem_reverse.1 hc), List.reverse_reverse]

/-- A token of visible characters is borne by the header that consists of the scheme and the token. -/
theorem Request.bears_of_header {request : Request} {token : String}
    (hvisible : ∀ c ∈ token.toList, 33 ≤ c.toNat ∧ c.toNat < 127) (hne : token ≠ "")
    (hheader : request.header? "authorization" = some (Text.Utf8.encode (bearerScheme ++ token.toList))) :
    request.Bears token := by
  have hscheme : (bearerScheme.all fun c => 32 ≤ c.toNat ∧ c.toNat < 127) = true := by decide
  refine ⟨_, token.toList, hheader, visibleText?_of_visible fun c hc => ?_, trimChars_of_visible hvisible, hne⟩
  rcases List.mem_append.1 hc with hc | hc
  · simpa using List.all_eq_true.1 hscheme c hc
  · have := hvisible c hc
    omega

theorem authenticate_passes_iff {service : Service} {now : Instant} {request : Request} {identity : Identity} :
    (authenticate service now request).Passes identity ↔
      ∃ token, request.Bears token ∧ service.authority.verify service.registry token now = .ok identity.claims ∧
        identity.subject = none := by
  constructor
  · rintro ⟨log, h⟩
    unfold authenticate at h
    split at h
    · cases h
    · rename_i token htoken
      split at h
      · cases h
      · rename_i claims hverify
        cases h
        exact ⟨token, Request.bearerToken_eq_ok_iff.1 htoken, hverify, rfl⟩
  · rintro ⟨token, hbears, hverify, hsubject⟩
    obtain ⟨claims, subject⟩ := identity
    cases hsubject
    simp only at hverify
    simp only [authenticate, Request.bearerToken_eq_ok_iff.2 hbears, hverify]
    exact ⟨_, rfl⟩

/-! ## Guards -/

namespace Guard

variable {users : UserStore} {parameters : Option (List (String × String))} {caller identity : Identity}

theorem enforce_passes_iff {rule : Rule} {subject : Option UserId} :
    (enforce rule identity (.about identity.claims subject)).Passes caller ↔
      caller = identity ∧ rule.Grants identity.claims subject := by
  rw [← Rule.evaluate_about_eq_ok_iff, enforce]
  cases rule.evaluate (.about identity.claims subject) with
  | error denial => simp [Passage.Passes]
  | ok _ => simp [Passage.Passes, eq_comm]

theorem loadSubject_eq_ok_iff {raw : String} {user : User} :
    loadSubject users raw = .ok user ↔ ∃ id, UserId.ofText raw = .ok id ∧ users.findInTime id = .found user := by
  unfold loadSubject
  cases UserId.ofText raw with
  | error fault => simp
  | ok id =>
      cases hlookup : users.findInTime id with
      | found other => simp [hlookup]
      | failed error => simp [hlookup]
      | timedOut => simp [hlookup]

/-- What a guard asks of a caller, and the identity it passes on. -/
def Admits (guard : Guard) (users : UserStore) (parameters : Option (List (String × String)))
    (caller identity : Identity) : Prop :=
  match guard with
  | .plain rule => identity = caller ∧ rule.Grants caller.claims none
  | .subject rule => match subjectParameter? parameters with
    | none => identity = caller ∧ rule.Grants caller.claims (caller.subject.map User.id)
    | some raw => ∃ user, loadSubject users raw = .ok user ∧ identity = ⟨caller.claims, some user⟩ ∧
        rule.Grants caller.claims (some user.id)

theorem check_passes_iff {guard : Guard} :
    (guard.check users parameters caller).Passes identity ↔ guard.Admits users parameters caller identity := by
  cases guard with
  | plain rule => exact enforce_passes_iff
  | subject rule =>
      simp only [check, Admits]
      cases subjectParameter? parameters with
      | none => exact enforce_passes_iff
      | some raw =>
          simp only
          cases loadSubject users raw with
          | error fault => simp [Passage.Passes]
          | ok user =>
              have h : (enforce rule ⟨caller.claims, some user⟩ (.about caller.claims (some user.id))).Passes identity ↔
                  identity = ⟨caller.claims, some user⟩ ∧ rule.Grants caller.claims (some user.id) :=
                enforce_passes_iff
              simpa using h

/-- The rule of a guard. -/
def rule : Guard → Rule
  | .plain rule | .subject rule => rule

/-- A guard passes a caller on as it is, or with the user that it has loaded for the id in the path. -/
theorem Admits.cases {guard : Guard} (h : guard.Admits users parameters caller identity)
    (hcaller : caller.subject = none) :
    (identity = caller ∧ guard.rule.Grants caller.claims none) ∨
    ∃ raw id user, subjectParameter? parameters = some raw ∧ UserId.ofText raw = .ok id ∧
      users.findInTime id = .found user ∧ identity = ⟨caller.claims, some user⟩ ∧
      guard.rule.Grants caller.claims (some user.id) := by
  cases guard with
  | plain rule => exact .inl h
  | subject rule =>
      simp only [Admits] at h
      split at h
      · rw [hcaller] at h
        exact .inl h
      · rename_i raw hraw
        obtain ⟨user, hload, hidentity, hgrants⟩ := h
        obtain ⟨id, hid, hfound⟩ := loadSubject_eq_ok_iff.1 hload
        exact .inr ⟨raw, id, user, hraw, hid, hfound, hidentity, hgrants⟩

section

variable {guard : Guard} (h : guard.Admits users parameters caller identity) (hcaller : caller.subject = none)

include h hcaller

theorem Admits.claims_eq : identity.claims = caller.claims := by
  rcases h.cases hcaller with ⟨rfl, _⟩ | ⟨_, _, _, _, _, _, rfl, _⟩
  · rfl
  · rfl

theorem Admits.grants : guard.rule.Grants identity.claims (identity.subject.map User.id) := by
  rcases h.cases hcaller with ⟨rfl, hgrants⟩ | ⟨_, _, _, _, _, _, rfl, hgrants⟩
  · rw [hcaller]
    exact hgrants
  · exact hgrants

theorem Admits.loaded {user : User} (hsubject : identity.subject = some user) :
    ∃ raw id, subjectParameter? parameters = some raw ∧ UserId.ofText raw = .ok id ∧
      users.findInTime id = .found user := by
  rcases h.cases hcaller with ⟨rfl, _⟩ | ⟨raw, id, _, hraw, hid, hfound, rfl, _⟩
  · rw [hcaller] at hsubject
    cases hsubject
  · cases hsubject
    exact ⟨raw, id, hraw, hid, hfound⟩

end

end Guard

end TokenAuthority.Http
