import TokenAuthority.Proofs.Access.Rules

/-!
# What decisions depend on

Which parts of a request each rule reads, and what an explanation reports of them. Main statement: `Rule.meaning`.
-/

namespace TokenAuthority

namespace AccessRequest

/-- A request about the nil id is a request about nobody, also from a caller with the nil id. -/
theorem about_nil (claims : Claims) : about claims (some .nil) = about claims none := rfl

end AccessRequest

namespace Rule

variable {rule : Rule} {request request' : AccessRequest} {claims : Claims} {subject : Option UserId}

/-! ## The parts of a request -/

theorem evaluate_congr (h : rule.verdict request = rule.verdict request') :
    rule.evaluate request = rule.evaluate request' := by
  rw [evaluate, evaluate, h]

/-- The claims count by the caller and its roles; the issuer and the window play no part. -/
theorem verdict_congr (hcaller : request.claims.subject = request'.claims.subject)
    (hroles : request.claims.roles = request'.claims.roles) (hsubject : request.subject = request'.subject) :
    rule.verdict request = rule.verdict request' := by
  obtain ⟨⟨caller, roles, _, _, _⟩, _⟩ := request
  cases hcaller
  cases hroles
  cases hsubject
  cases rule with
  | any => rfl
  | adminOnly => rfl
  | userOnly => rfl
  | adminOrSubject => rfl

/-- Three of the rules look at the roles alone. -/
theorem verdict_of_roles (hrule : rule ≠ .adminOrSubject)
    (hroles : request.claims.roles = request'.claims.roles) : rule.verdict request = rule.verdict request' := by
  obtain ⟨⟨_, roles, _, _, _⟩, _⟩ := request
  cases hroles
  cases rule with
  | any => rfl
  | adminOnly => rfl
  | userOnly => rfl
  | adminOrSubject => exact absurd rfl hrule

/-- What a rule asks for is still there when there are more roles. -/
theorem Grants.mono {more : RoleSet} (h : rule.Grants claims subject)
    (hmore : ∀ role ∈ claims.roles, role ∈ more) : rule.Grants { claims with roles := more } subject := by
  cases rule with
  | any => trivial
  | adminOnly => exact hmore .admin h
  | userOnly => exact hmore .user h
  | adminOrSubject =>
      rcases h with hadmin | hself
      · exact .inl (hmore .admin hadmin)
      · exact .inr hself

/-! ## Where the caller and the subject count -/

/-- Claims without roles: their holder is let through only as the very user a request is about. -/
def unprivileged (start : Instant) (caller : UserId) : Claims :=
  ⟨caller, ∅, "", start, start⟩

theorem grants_unprivileged_iff {start : Instant} {caller : UserId} :
    adminOrSubject.Grants (unprivileged start caller) subject ↔ subject = some caller ∧ caller ≠ .nil := by
  simp [Grants, unprivileged, EmptyCollection.emptyCollection, RoleSet.empty]

theorem ignores_caller_iff :
    (∀ (claims : Claims) (caller : UserId) (subject : Option UserId),
      rule.evaluate (.about { claims with subject := caller } subject) = rule.evaluate (.about claims subject)) ↔
        rule ≠ .adminOrSubject := by
  constructor
  · rintro hsame rfl
    have start : Instant := ⟨0, 0, by decide, by decide, by decide, by decide⟩
    have hself : adminOrSubject.evaluate (.about (unprivileged start ⟨1⟩) (some ⟨1⟩)) = .ok () :=
      evaluate_about_eq_ok_iff.2 (grants_unprivileged_iff.2 ⟨rfl, by decide⟩)
    have hother : adminOrSubject.evaluate (.about (unprivileged start ⟨2⟩) (some ⟨1⟩)) = .ok () :=
      (hsame (unprivileged start ⟨2⟩) ⟨1⟩ (some ⟨1⟩)).symm.trans hself
    exact absurd (grants_unprivileged_iff.1 (evaluate_about_eq_ok_iff.1 hother)).1 (by decide)
  · intro hrule claims caller subject
    exact evaluate_congr (verdict_of_roles hrule rfl)

theorem ignores_subject_iff :
    (∀ (claims : Claims) (subject subject' : Option UserId),
      rule.evaluate (.about claims subject) = rule.evaluate (.about claims subject')) ↔ rule ≠ .adminOrSubject := by
  constructor
  · rintro hsame rfl
    have start : Instant := ⟨0, 0, by decide, by decide, by decide, by decide⟩
    have hself : adminOrSubject.evaluate (.about (unprivileged start ⟨1⟩) (some ⟨1⟩)) = .ok () :=
      evaluate_about_eq_ok_iff.2 (grants_unprivileged_iff.2 ⟨rfl, by decide⟩)
    have hnone : adminOrSubject.evaluate (.about (unprivileged start ⟨1⟩) none) = .ok () :=
      (hsame (unprivileged start ⟨1⟩) none (some ⟨1⟩)).trans hself
    exact absurd (grants_unprivileged_iff.1 (evaluate_about_eq_ok_iff.1 hnone)).1 (by decide)
  · intro hrule claims subject subject'
    exact evaluate_congr (verdict_of_roles hrule rfl)

/-! ## Explanations -/

/-- An explanation tells the decision that is taken, with the reason that a denial carries. -/
theorem evaluate_eq_explain : rule.evaluate request =
    if (rule.explain request).granted then .ok () else .error ⟨rule, (rule.explain request).reason⟩ := rfl

theorem granted_explain_iff : (rule.explain request).granted = true ↔ rule.evaluate request = .ok () :=
  evaluate_eq_ok_iff.symm

theorem evaluate_eq_error_iff {denial : Denial} : rule.evaluate request = .error denial ↔
    (rule.explain request).granted = false ∧ denial = ⟨rule, (rule.explain request).reason⟩ := by
  rw [evaluate_eq_explain]
  cases (rule.explain request).granted with
  | false => simp [eq_comm]
  | true => simp

/-- What each rule grants, which parts of a request its decision depends on, and that an explanation reports
the decision with everything it was taken on. -/
theorem meaning :
    (∀ (claims : Claims) (subject : Option UserId),
      any.evaluate (.about claims subject) = .ok () ∧
      (adminOnly.evaluate (.about claims subject) = .ok () ↔ .admin ∈ claims.roles) ∧
      (userOnly.evaluate (.about claims subject) = .ok () ↔ .user ∈ claims.roles) ∧
      (adminOrSubject.evaluate (.about claims subject) = .ok () ↔
        .admin ∈ claims.roles ∨ ∃ id, subject = some id ∧ id ≠ .nil ∧ id = claims.subject) ∧
      AccessRequest.about claims (some .nil) = .about claims none) ∧
    (∀ (rule : Rule) (claims : Claims) (more : RoleSet) (subject : Option UserId),
      (∀ role ∈ claims.roles, role ∈ more) → rule.evaluate (.about claims subject) = .ok () →
        rule.evaluate (.about { claims with roles := more } subject) = .ok ()) ∧
    (∀ rule : Rule,
      ((∀ (claims : Claims) (caller : UserId) (subject : Option UserId),
        rule.evaluate (.about { claims with subject := caller } subject) =
          rule.evaluate (.about claims subject)) ↔ rule ≠ .adminOrSubject) ∧
      ((∀ (claims : Claims) (subject subject' : Option UserId),
        rule.evaluate (.about claims subject) = rule.evaluate (.about claims subject')) ↔
          rule ≠ .adminOrSubject)) ∧
    (∀ (rule : Rule) (claims : Claims) (issuer : String) (issuedAt expiresAt : Instant) (subject : Option UserId),
      rule.evaluate (.about ⟨claims.subject, claims.roles, issuer, issuedAt, expiresAt⟩ subject) =
        rule.evaluate (.about claims subject)) ∧
    ∀ (rule : Rule) (claims : Claims) (subject : Option UserId),
      let explained := rule.explain (.about claims subject)
      (explained.granted = true ↔ rule.evaluate (.about claims subject) = .ok ()) ∧
      (∀ denial, rule.evaluate (.about claims subject) = .error denial →
        denial.rule = rule ∧ denial.reason = explained.reason) ∧
      explained.rule = rule ∧ explained.caller = claims.subject ∧ explained.roles = claims.roles ∧
      (∀ id, explained.subject = some id ↔ subject = some id ∧ id ≠ .nil) := by
  refine ⟨fun claims subject => ⟨?any, ?adminOnly, ?userOnly, ?adminOrSubject, AccessRequest.about_nil claims⟩,
    ?monotone, fun rule => ⟨ignores_caller_iff, ignores_subject_iff⟩,
    fun rule claims issuer issuedAt expiresAt subject => evaluate_congr (verdict_congr rfl rfl rfl),
    fun rule claims subject => ⟨granted_explain_iff, ?denial, rfl, rfl, rfl,
      fun id => @about_subject_eq_some_iff claims subject id⟩⟩
  case any => rfl
  case adminOnly => exact evaluate_about_eq_ok_iff
  case userOnly => exact evaluate_about_eq_ok_iff
  case adminOrSubject =>
    refine evaluate_about_eq_ok_iff.trans (or_congr_right ?_)
    constructor
    · rintro ⟨hsubject, hnil⟩
      exact ⟨claims.subject, hsubject, hnil, rfl⟩
    · rintro ⟨id, hsubject, hnil, rfl⟩
      exact ⟨hsubject, hnil⟩
  case monotone =>
    intro rule claims more subject hmore hok
    exact evaluate_about_eq_ok_iff.2 ((evaluate_about_eq_ok_iff.1 hok).mono hmore)
  case denial =>
    intro denial hdenied
    obtain ⟨-, rfl⟩ := evaluate_eq_error_iff.1 hdenied
    exact ⟨rfl, rfl⟩

/-! ## A sample -/

/-- A caller with the nil id and no role is nobody: asking about the nil id it is not the subject, and it is let
through once it is an administrator. -/
theorem meaning_sample : ∃ start : Instant,
    start.seconds = 0 ∧
      adminOrSubject.evaluate (.about (unprivileged start .nil) (some .nil)) ≠ .ok () ∧
      adminOrSubject.evaluate (.about { unprivileged start .nil with roles := ⟨true, false⟩ } (some .nil)) = .ok () ∧
      (adminOrSubject.explain (.about (unprivileged start .nil) (some .nil))).subject = none := by
  let start : Instant := ⟨0, 0, by decide, by decide, by decide, by decide⟩
  obtain ⟨hgrants, -, -, -, hexplain⟩ := meaning
  obtain ⟨-, -, -, hdenied, -⟩ := hgrants (unprivileged start .nil) (some .nil)
  obtain ⟨-, -, -, hadmin, -⟩ := hgrants { unprivileged start .nil with roles := ⟨true, false⟩ } (some .nil)
  obtain ⟨-, -, -, -, -, hsubject⟩ := hexplain .adminOrSubject (unprivileged start .nil) (some .nil)
  refine ⟨start, rfl, fun hok => ?_, hadmin.2 (.inl (by decide)), ?_⟩
  · rcases hdenied.1 hok with hrole | ⟨id, hid, hnil, -⟩
    · exact absurd hrole (by decide)
    · exact hnil (Option.some.inj hid).symm
  · rw [Option.eq_none_iff_forall_ne_some]
    intro id hid
    obtain ⟨hsome, hnil⟩ := (hsubject id).1 hid
    exact hnil (Option.some.inj hsome).symm

end Rule

end TokenAuthority
