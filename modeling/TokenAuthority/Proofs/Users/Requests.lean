import TokenAuthority.Proofs.Basic
import TokenAuthority.Proofs.Text.Normal
import TokenAuthority.Users.User

/-!
# Requests to register a user

A request makes the user it is for, with all fields in normal form, or is refused for the first thing that is wrong with
it. Main statements: `NewUser.toUser_eq_ok_iff`, `NewUser.toUser_eq_error_iff`.
-/

namespace TokenAuthority.NewUser

/-- The user a request is for: its fields in normal form, under an id and with a time of creation. -/
def asUser (request : NewUser) (id : UserId) (now : Instant) : User where
  id := id
  email := normalizeEmail request.email
  displayName := Text.trim request.displayName
  roles := .ofList request.roles
  createdAt := now

/-- The address of a request is one. -/
structure Addressed (request : NewUser) : Prop where
  ne_empty : normalizeEmail request.email ≠ ""
  marked : '@' ∈ (normalizeEmail request.email).toList

/-- The display name of a request is not blank. -/
def Named (request : NewUser) : Prop := ∃ c ∈ request.displayName.toList, Text.isBlank c = false

/-- A request in which nothing is wrong. -/
structure Acceptable (request : NewUser) : Prop where
  addressed : request.Addressed
  named : request.Named
  privileged : request.roles ≠ []

/-- The first thing that is wrong with a request. -/
inductive FirstFault (request : NewUser) : Fault → Prop
  | email (h : ¬ request.Addressed) : FirstFault request .email
  | displayName (haddressed : request.Addressed) (h : ¬ request.Named) : FirstFault request .displayName
  | noRoles (haddressed : request.Addressed) (hnamed : request.Named) (h : request.roles = []) :
      FirstFault request .noRoles

variable {request : NewUser} {id : UserId} {now : Instant} {user : User} {fault : Fault}

theorem isEmpty_ofList {listed : List Role} : (RoleSet.ofList listed).isEmpty = true ↔ listed = [] := by
  constructor
  · intro h
    simp only [RoleSet.isEmpty, RoleSet.ofList, Bool.and_eq_true, Bool.not_eq_true', List.contains_eq_mem,
      decide_eq_false_iff_not] at h
    refine List.eq_nil_iff_forall_not_mem.2 fun role hrole => ?_
    cases role with
    | admin => exact h.1 hrole
    | user => exact h.2 hrole
  · rintro rfl
    rfl

theorem addressed_iff :
    request.Addressed ↔ ¬ (normalizeEmail request.email = "" ∨ '@' ∉ (normalizeEmail request.email).toList) := by
  rw [not_or, not_not]
  exact ⟨fun h => ⟨h.ne_empty, h.marked⟩, fun h => ⟨h.1, h.2⟩⟩

theorem named_iff : request.Named ↔ ¬ Text.trim request.displayName = "" := Text.trim_ne_empty_iff.symm

theorem toUser_of_acceptable (h : request.Acceptable) :
    request.toUser id now = .ok (request.asUser id now) := by
  simp only [toUser, asUser, if_neg (addressed_iff.1 h.addressed), if_neg (named_iff.1 h.named),
    if_neg (mt isEmpty_ofList.1 h.privileged)]

theorem toUser_of_firstFault (h : request.FirstFault fault) : request.toUser id now = .error fault := by
  cases h with
  | email haddress => simp only [toUser, if_pos (not_not.1 (mt addressed_iff.2 haddress))]
  | displayName haddressed hname =>
      simp only [toUser, if_neg (addressed_iff.1 haddressed), if_pos (not_not.1 (mt named_iff.2 hname))]
  | noRoles haddressed hnamed hroles =>
      simp only [toUser, if_neg (addressed_iff.1 haddressed), if_neg (named_iff.1 hnamed),
        if_pos (isEmpty_ofList.2 hroles)]

theorem acceptable_or_firstFault (request : NewUser) : request.Acceptable ∨ ∃ fault, request.FirstFault fault := by
  by_cases haddressed : request.Addressed
  · by_cases hnamed : request.Named
    · by_cases hroles : request.roles = []
      · exact .inr ⟨_, .noRoles haddressed hnamed hroles⟩
      · exact .inl ⟨haddressed, hnamed, hroles⟩
    · exact .inr ⟨_, .displayName haddressed hnamed⟩
  · exact .inr ⟨_, .email haddressed⟩

theorem toUser_eq_ok_iff :
    request.toUser id now = .ok user ↔ request.Acceptable ∧ user = request.asUser id now :=
  Outcome.eq_ok_iff_of_cases toUser_of_acceptable (fun _ => toUser_of_firstFault) (acceptable_or_firstFault request)

theorem toUser_eq_error_iff : request.toUser id now = .error fault ↔ request.FirstFault fault :=
  Outcome.eq_error_iff_of_cases toUser_of_acceptable (fun _ => toUser_of_firstFault)
    (acceptable_or_firstFault request)

end TokenAuthority.NewUser
