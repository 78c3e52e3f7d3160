import TokenAuthority.Access.Decision

/-!
# What the rules grant

The condition that each rule stands for. Main statement: `Rule.evaluate_about_eq_ok_iff`.
-/

namespace TokenAuthority

namespace Claims

@[simp] theorem hasRole_admin (claims : Claims) : claims.hasRole .admin = claims.roles.admin := rfl

@[simp] theorem hasRole_user (claims : Claims) : claims.hasRole .user = claims.roles.user := rfl

end Claims

namespace Rule

theorem ofName?_eq_none_iff {name : String} : ofName? name = none ↔ ∀ rule : Rule, rule.name ≠ name := by
  rw [ofName?, List.find?_eq_none]
  refine ⟨fun h rule => by simpa using h rule (by cases rule <;> decide), fun h rule _ => by simpa using h rule⟩

/-- What a rule asks of claims and of the user a request is about. Nobody is the user with the nil id. -/
def Grants (rule : Rule) (claims : Claims) (subject : Option UserId) : Prop :=
  match rule with
  | .any => True
  | .adminOnly => claims.roles.admin = true
  | .userOnly => claims.roles.user = true
  | .adminOrSubject => claims.roles.admin = true ∨ (subject = some claims.subject ∧ claims.subject ≠ .nil)

theorem evaluate_eq_ok_iff {rule : Rule} {request : AccessRequest} :
    rule.evaluate request = .ok () ↔ (rule.verdict request).1 = true := by
  rw [evaluate]
  rcases rule.verdict request with ⟨granted, reason⟩
  cases granted with
  | false => simp
  | true => simp

theorem requireRole_fst (role : Role) (claims : Claims) : (requireRole role claims).1 = claims.hasRole role := by
  unfold requireRole
  split
  · simp [*]
  · simp [*]

/-- The subject of a request is somebody when it is the user asked for and not the nil id. -/
theorem about_subject_eq_some_iff {claims : Claims} {subject : Option UserId} {id : UserId} :
    (AccessRequest.about claims subject).subject = some id ↔ subject = some id ∧ id ≠ .nil := by
  simp [AccessRequest.about, Option.filter_eq_some_iff, UserId.isNil]

theorem evaluate_about_eq_ok_iff {rule : Rule} {claims : Claims} {subject : Option UserId} :
    rule.evaluate (.about claims subject) = .ok () ↔ rule.Grants claims subject := by
  rw [evaluate_eq_ok_iff]
  cases rule with
  | any => simp [verdict, Grants]
  | adminOnly => rw [verdict, requireRole_fst]; rfl
  | userOnly => rw [verdict, requireRole_fst]; rfl
  | adminOrSubject =>
      have hclaims : (AccessRequest.about claims subject).claims = claims := rfl
      simp only [verdict, Grants, hclaims, Claims.hasRole_admin]
      split
      · rename_i hadmin
        simp [hadmin]
      · rename_i hadmin
        rw [← about_subject_eq_some_iff]
        cases hsubject : (AccessRequest.about claims subject).subject with
        | none => simp [hadmin]
        | some id =>
            by_cases hid : id = claims.subject
            · simp [hid]
            · simp [hadmin, hid]

end Rule

end TokenAuthority
