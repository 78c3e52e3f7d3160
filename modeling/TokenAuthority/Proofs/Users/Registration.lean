import TokenAuthority.Proofs.Text.Normal
import TokenAuthority.Proofs.Users.Tables

/-!
# Registered users

However requests to register users come and are refused, the users of a table stay in normal form and no two of them
share an e-mail address. Main statement: `UserRegister.users_of_reached`.
-/

namespace TokenAuthority

/-! ## Normal form -/

namespace NewUser

theorem normalizeEmail_normalizeEmail (email : String) :
    normalizeEmail (normalizeEmail email) = normalizeEmail email := by
  have htrimmed : Text.trimChars (Text.lowerChars (Text.trimChars email.toList)) =
      Text.lowerChars (Text.trimChars email.toList) := (Text.trimmed_trimChars _).lowerChars.trimChars_eq
  simp only [normalizeEmail, Text.lower, Text.trim, String.toList_ofList]
  rw [htrimmed, Text.lowerChars_lowerChars]

end NewUser

/-- A user in normal form: the address is one and is compared as it is kept, the name is not blank and is kept
without white space around it, and there is a role. -/
structure User.Normal (user : User) : Prop where
  address : '@' ∈ user.email.toList
  normalized : NewUser.normalizeEmail user.email = user.email
  named : user.displayName ≠ ""
  trimmed : Text.Trimmed user.displayName.toList
  privileged : ∃ role, role ∈ user.roles

/-- The user whom a request makes. -/
structure NewUser.Makes (request : NewUser) (id : UserId) (now : Instant) (user : User) : Prop where
  made : user = ⟨id, normalizeEmail request.email, Text.trim request.displayName, .ofList request.roles, now⟩
  address : '@' ∈ user.email.toList
  named : user.displayName ≠ ""
  privileged : request.roles ≠ []

namespace NewUser

variable {request : NewUser} {id : UserId} {now : Instant} {user : User}

theorem makes_of_toUser (h : request.toUser id now = .ok user) : request.Makes id now user := by
  obtain ⟨hacceptable, rfl⟩ := toUser_eq_ok_iff.1 h
  exact ⟨rfl, hacceptable.addressed.marked, named_iff.1 hacceptable.named, hacceptable.privileged⟩

theorem Makes.normal (h : request.Makes id now user) : user.Normal where
  address := h.address
  normalized := by rw [h.made, normalizeEmail_normalizeEmail]
  named := h.named
  trimmed := by
    rw [h.made]
    exact Text.trimmed_of_trim (Text.trim_trim _)
  privileged := by
    obtain ⟨role, hrole⟩ := List.exists_mem_of_ne_nil _ h.privileged
    rw [h.made]
    exact ⟨role, RoleSet.mem_ofList.2 hrole⟩

end NewUser

theorem UserTable.makes_of_create {table after : UserTable} {request : NewUser} {id : UserId} {now : Instant}
    {user : User} (h : table.create request id now = .ok (user, after)) :
    request.Makes id now user ∧ table.Free user.email ∧ after = table.insert user := by
  obtain ⟨⟨hacceptable, hfree⟩, rfl, rfl⟩ := create_eq_ok_iff.1 h
  exact ⟨NewUser.makes_of_toUser (NewUser.toUser_of_acceptable hacceptable), hfree, rfl⟩

/-! ## Registration -/

/-- A call that is to register a user, with the id that is drawn for it. -/
structure Registration where
  request : NewUser
  id : UserId
  now : Instant

/-- A table in use: its users, and the requests it has accepted, the latest first. -/
structure UserRegister where
  table : UserTable
  accepted : List NewUser

namespace UserRegister

/-- A table without users that has accepted nothing. -/
def start : UserRegister := ⟨.empty, []⟩

/-- What one registration makes of a table; one that is refused leaves it as it is. -/
def step (register : UserRegister) (call : Registration) : UserRegister :=
  match register.table.create call.request call.id call.now with
  | .ok (_, table) => ⟨table, call.request :: register.accepted⟩
  | .error _ => register

/-- What some registrations make of a table, one after another. -/
def run (register : UserRegister) (calls : List Registration) : UserRegister :=
  calls.foldl step register

/-- What becomes of a table without users when no id is drawn twice. -/
def Reached (register : UserRegister) : Prop :=
  ∃ calls : List Registration, (calls.map Registration.id).Nodup ∧ start.run calls = register

/-- A register of users in normal form with distinct addresses, which are those of the accepted requests. The ids
still to be drawn are given. -/
structure Sound (register : UserRegister) (fresh : List UserId) : Prop where
  normal : ∀ user ∈ register.table.users, user.Normal
  distinct : (register.table.users.map User.email).Nodup
  accepted : register.table.users.map User.email =
    register.accepted.map fun request => NewUser.normalizeEmail request.email
  unused : ∀ user ∈ register.table.users, user.id ∉ fresh

variable {register : UserRegister}

theorem sound_start (fresh : List UserId) : Sound start fresh :=
  ⟨by simp [start, UserTable.empty], by simp [start, UserTable.empty], rfl, by simp [start, UserTable.empty]⟩

theorem Sound.step {call : Registration} {fresh : List UserId} (h : Sound register (call.id :: fresh))
    (hnew : call.id ∉ fresh) : Sound (register.step call) fresh := by
  unfold UserRegister.step
  cases hcreate : register.table.create call.request call.id call.now with
  | error error => exact ⟨h.normal, h.distinct, h.accepted, fun user huser hmem => h.unused user huser (.tail _ hmem)⟩
  | ok made =>
      obtain ⟨user, table⟩ := made
      obtain ⟨hmakes, hfree, rfl⟩ := UserTable.makes_of_create hcreate
      have hid : user.id = call.id := by rw [hmakes.made]
      have husers : (register.table.insert user).users = user :: register.table.users := by
        refine UserTable.users_insert fun other hother heq => ?_
        exact h.unused other hother (heq.trans hid ▸ .head _)
      constructor
      · rw [husers, List.forall_mem_cons]
        exact ⟨hmakes.normal, h.normal⟩
      · rw [husers, List.map_cons, List.nodup_cons]
        refine ⟨fun hmem => ?_, h.distinct⟩
        obtain ⟨other, hother, hemail⟩ := List.mem_map.1 hmem
        exact hfree other hother hemail
      · have hemail : user.email = NewUser.normalizeEmail call.request.email := by rw [hmakes.made]
        rw [husers, List.map_cons, List.map_cons, h.accepted, hemail]
      · rw [husers, List.forall_mem_cons]
        exact ⟨hid ▸ hnew, fun other hother hmem => h.unused other hother (.tail _ hmem)⟩

theorem Sound.run {calls : List Registration} (h : Sound register (calls.map Registration.id))
    (hfresh : (calls.map Registration.id).Nodup) : Sound (register.run calls) [] := by
  induction calls generalizing register with
  | nil => exact h
  | cons call calls ih =>
      rw [List.map_cons] at h
      rw [List.map_cons, List.nodup_cons] at hfresh
      rw [UserRegister.run, List.foldl_cons]
      exact ih (h.step hfresh.1) hfresh.2

theorem sound_of_reached (h : Reached register) : Sound register [] := by
  obtain ⟨calls, hfresh, rfl⟩ := h
  exact (sound_start _).run hfresh

/-- In a table in use the addresses that are not free are those of the requests it has accepted. -/
theorem free_iff_of_reached (h : Reached register) {email : String} :
    register.table.Free email ↔ ∀ request ∈ register.accepted, NewUser.normalizeEmail request.email ≠ email := by
  have haccepted := (sound_of_reached h).accepted
  calc register.table.Free email
      ↔ email ∉ register.table.users.map User.email := by simp [UserTable.Free, eq_comm]
    _ ↔ email ∉ register.accepted.map fun request => NewUser.normalizeEmail request.email := by rw [haccepted]
    _ ↔ ∀ request ∈ register.accepted, NewUser.normalizeEmail request.email ≠ email := by simp

/-- Whatever requests to register users a table has met, every user in it is kept under the user's own id and is in
normal form, no two users have the same e-mail address, and no two requests that were accepted had addresses with the
same normal form. -/
theorem users_of_reached (h : Reached register) :
    (∀ user ∈ register.table.users, register.table.find? user.id = some user) ∧
    (∀ id user, register.table.find? id = some user → user ∈ register.table.users ∧ user.id = id) ∧
    (∀ user ∈ register.table.users,
      '@' ∈ user.email.toList ∧ NewUser.normalizeEmail user.email = user.email ∧
      user.displayName ≠ "" ∧ Text.Trimmed user.displayName.toList ∧ ∃ role, role ∈ user.roles) ∧
    (register.table.users.map User.email).Nodup ∧
    (register.accepted.map fun request => NewUser.normalizeEmail request.email).Nodup := by
  have hsound := sound_of_reached h
  refine ⟨fun user huser => ?_, fun id user hfind => ?_, fun user huser => ?_, hsound.distinct, ?_⟩
  · exact UserTable.find?_eq_some_iff.2 ⟨huser, rfl⟩
  · exact UserTable.find?_eq_some_iff.1 hfind
  · have hnormal := hsound.normal user huser
    exact ⟨hnormal.address, hnormal.normalized, hnormal.named, hnormal.trimmed, hnormal.privileged⟩
  · rw [← hsound.accepted]
    exact hsound.distinct

/-! ## A sample -/

/-- A nanosecond into the second second of 1970. -/
def sampleNow : Instant := ⟨1, 1, by decide, by decide, by decide, by decide⟩

/-- Two addresses that differ in letters and white space alone, one with sigmas and a dotted capital I, and none. -/
def sampleCalls : List Registration := [
  ⟨⟨" ALICE@example.org\t", " Alice ", [.user, .user]⟩, ⟨1⟩, sampleNow⟩,
  ⟨⟨"alice@Example.ORG", "Other", [.admin]⟩, ⟨2⟩, sampleNow⟩,
  ⟨⟨"\u03a3\u0391\u03a3@\u0130.\u03a3", "Sigma", [.admin]⟩, ⟨3⟩, sampleNow⟩,
  ⟨⟨"nobody", "Nobody", [.user]⟩, ⟨4⟩, sampleNow⟩]

theorem users_sampleCalls : (start.run sampleCalls).table.users.map User.email =
    ["\u03c3\u03b1\u03c2@i\u0307.\u03c2", "alice@example.org"] := by decide +kernel

theorem users_of_reached_sample : Reached (start.run sampleCalls) ∧
    (start.run sampleCalls).accepted.length = 2 ∧
    NewUser.normalizeEmail "\u03c3\u03b1\u03c2@i\u0307.\u03c2" = "\u03c3\u03b1\u03c2@i\u0307.\u03c2" := by
  have hreached : Reached (start.run sampleCalls) := ⟨sampleCalls, by decide, rfl⟩
  obtain ⟨_, _, hnormal, _, _⟩ := users_of_reached hreached
  obtain ⟨user, huser, hemail⟩ : ∃ user ∈ (start.run sampleCalls).table.users,
      user.email = "\u03c3\u03b1\u03c2@i\u0307.\u03c2" := by
    rw [← List.mem_map, users_sampleCalls]
    exact .head _
  refine ⟨hreached, by decide +kernel, ?_⟩
  rw [← hemail]
  exact (hnormal user huser).2.1

end UserRegister

end TokenAuthority
