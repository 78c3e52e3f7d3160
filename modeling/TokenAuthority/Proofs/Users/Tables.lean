import TokenAuthority.Proofs.Users.Requests
import TokenAuthority.Users.Store

/-!
# Users in a store

Which users a store holds. A table takes the user of a request, or refuses it for the first thing that is wrong with it;
under a fresh id that is the one user more, and the store keeps all others. Main statements:
`UserTable.create_eq_ok_iff`, `UserTable.create_eq_error_iff`, `UserTable.gains_of_create`,
`UserStore.holds_of_create`.
-/

namespace TokenAuthority

namespace UserTable

variable {table : UserTable} {id : UserId} {user : User}

theorem find?_eq_some_iff : table.find? id = some user ↔ user ∈ table.users ∧ user.id = id :=
  Keyed.find?_eq_some_iff table.distinct

theorem mem_insert_iff {other : User} :
    other ∈ (table.insert user).users ↔ other = user ∨ (other ∈ table.users ∧ other.id ≠ user.id) := by
  simp [insert]

theorem users_insert (h : ∀ other ∈ table.users, other.id ≠ user.id) :
    (table.insert user).users = user :: table.users := by
  have hkept : (table.users.filter fun other => other.id ≠ user.id) = table.users :=
    List.filter_eq_self.2 (by simpa using h)
  exact congrArg (user :: ·) hkept

theorem find?_insert_of_ne (h : id ≠ user.id) : (table.insert user).find? id = table.find? id := by
  refine Option.ext fun other => ?_
  rw [find?_eq_some_iff, find?_eq_some_iff, mem_insert_iff]
  constructor
  · rintro ⟨rfl | ⟨hmem, _⟩, rfl⟩
    · exact absurd rfl h
    · exact ⟨hmem, rfl⟩
  · rintro ⟨hmem, rfl⟩
    exact ⟨.inr ⟨hmem, h⟩, rfl⟩

/-! ## Users who are created -/

/-- No user of a table has an address. -/
def Free (table : UserTable) (email : String) : Prop := ∀ user ∈ table.users, user.email ≠ email

/-- Why a table refuses a request: the first thing that is wrong with it, or else that its address is taken. -/
inductive Refuses (table : UserTable) (request : NewUser) : UserStoreError → Prop
  | invalid {fault : NewUser.Fault} (h : request.FirstFault fault) :
      Refuses table request (.invalid (.validation fault))
  | taken (hacceptable : request.Acceptable) (h : ¬ table.Free (NewUser.normalizeEmail request.email)) :
      Refuses table request (.duplicate (NewUser.normalizeEmail request.email))

variable {after : UserTable} {request : NewUser} {now : Instant} {error : UserStoreError}

theorem any_email_eq_iff {email : String} :
    (table.users.any fun other => other.email = email) = true ↔ ¬ table.Free email := by
  simp [Free]

theorem create_of_acceptable (hacceptable : request.Acceptable)
    (hfree : table.Free (NewUser.normalizeEmail request.email)) :
    table.create request id now = .ok (request.asUser id now, table.insert (request.asUser id now)) := by
  have hnone : table.Free (request.asUser id now).email := hfree
  simp only [create, NewUser.toUser_of_acceptable hacceptable]
  rw [if_neg (mt any_email_eq_iff.1 (not_not.2 hnone))]

theorem create_of_refuses (h : table.Refuses request error) : table.create request id now = .error error := by
  cases h with
  | invalid hfault => rw [create, NewUser.toUser_of_firstFault hfault]
  | taken hacceptable htaken =>
      have hsome : ¬ table.Free (request.asUser id now).email := htaken
      simp only [create, NewUser.toUser_of_acceptable hacceptable]
      rw [if_pos (any_email_eq_iff.2 hsome), NewUser.asUser]

theorem acceptable_or_refuses (table : UserTable) (request : NewUser) :
    (request.Acceptable ∧ table.Free (NewUser.normalizeEmail request.email)) ∨
      ∃ error, table.Refuses request error := by
  rcases NewUser.acceptable_or_firstFault request with hacceptable | ⟨fault, hfault⟩
  · by_cases hfree : table.Free (NewUser.normalizeEmail request.email)
    · exact .inl ⟨hacceptable, hfree⟩
    · exact .inr ⟨_, .taken hacceptable hfree⟩
  · exact .inr ⟨_, .invalid hfault⟩

theorem create_eq_ok_iff : table.create request id now = .ok (user, after) ↔
    (request.Acceptable ∧ table.Free (NewUser.normalizeEmail request.email)) ∧
      user = request.asUser id now ∧ after = table.insert user := by
  have hmade : table.create request id now = .ok (user, after) ↔
      (request.Acceptable ∧ table.Free (NewUser.normalizeEmail request.email)) ∧
        (user, after) = (request.asUser id now, table.insert (request.asUser id now)) :=
    Outcome.eq_ok_iff_of_cases (fun haccepted => create_of_acceptable haccepted.1 haccepted.2)
      (fun _ => create_of_refuses) (acceptable_or_refuses table request)
  rw [hmade, Prod.mk.injEq]
  refine and_congr_right fun _ => and_congr_right fun huser => ?_
  rw [huser]

theorem exists_create_iff : (∃ made, table.create request id now = .ok made) ↔
    request.Acceptable ∧ table.Free (NewUser.normalizeEmail request.email) := by
  constructor
  · rintro ⟨_, h⟩
    exact (create_eq_ok_iff.1 h).1
  · rintro ⟨hacceptable, hfree⟩
    exact ⟨_, create_of_acceptable hacceptable hfree⟩

theorem create_eq_error_iff : table.create request id now = .error error ↔ table.Refuses request error :=
  Outcome.eq_error_iff_of_cases (fun haccepted => create_of_acceptable haccepted.1 haccepted.2)
    (fun _ => create_of_refuses) (acceptable_or_refuses table request)

/-- A user who is created has the id that was drawn and is put into the table. -/
theorem of_create (h : table.create request id now = .ok (user, after)) : user.id = id ∧ after = table.insert user := by
  obtain ⟨_, rfl, rfl⟩ := create_eq_ok_iff.1 h
  exact ⟨rfl, rfl⟩

end UserTable

/-! ## Stores -/

namespace UserStore

variable {users : UserStore} {id : UserId} {user : User}

/-- A store in which a user is kept under the user's own id. -/
def Holds (users : UserStore) (user : User) : Prop := users.find user.id = .ok user

theorem find_memory_eq_ok_iff {table : UserTable} :
    (UserStore.memory table).find id = .ok user ↔ user ∈ table.users ∧ user.id = id := by
  rw [← UserTable.find?_eq_some_iff, find]
  cases table.find? id with
  | none => simp
  | some other => simp

theorem holds_memory_iff {table : UserTable} : (UserStore.memory table).Holds user ↔ user ∈ table.users := by
  rw [Holds, find_memory_eq_ok_iff, and_iff_left rfl]

theorem id_of_find (h : users.find id = .ok user) : user.id = id := by
  cases users with
  | memory table => exact (find_memory_eq_ok_iff.1 h).2
  | failing error => cases h
  | stalled => cases h

theorem holds_of_find (h : users.find id = .ok user) : users.Holds user := by
  rw [Holds, id_of_find h, h]

theorem find_of_findInTime (h : users.findInTime id = .found user) : users.find id = .ok user := by
  unfold findInTime at h
  split at h
  · cases h
  · split at h
    · rename_i hfind
      cases h
      exact hfind
    · cases h

theorem findInTime_memory_eq_found_iff {table : UserTable} :
    (UserStore.memory table).findInTime id = .found user ↔ table.find? id = some user := by
  simp only [findInTime, find]
  cases table.find? id with
  | none => simp
  | some other => simp

/-- Creating a user under a fresh id takes no other user out of the store. -/
theorem holds_of_create {request : NewUser} {now : Instant} {made : User} {after : UserStore}
    (hcreate : users.create request id now = .ok (made, after)) (hheld : users.Holds user) (hfresh : user.id ≠ id) :
    after.Holds user := by
  cases users with
  | memory table =>
      rw [create, Outcome.map_eq_ok] at hcreate
      obtain ⟨⟨made', table'⟩, hmade, heq⟩ := hcreate
      cases heq
      obtain ⟨hid, rfl⟩ := UserTable.of_create hmade
      rw [holds_memory_iff, UserTable.mem_insert_iff]
      exact .inr ⟨holds_memory_iff.1 hheld, hid ▸ hfresh⟩
  | failing error => cases hcreate
  | stalled => cases hcreate

end UserStore

/-- A table has one user more. -/
structure UserTable.Gains (table : UserTable) (user : User) (after : UserTable) : Prop where
  users : after.users = user :: table.users
  found : (UserStore.memory after).find user.id = .ok user
  others : ∀ id, id ≠ user.id → (UserStore.memory after).find id = (UserStore.memory table).find id

theorem UserTable.gains_of_create {table after : UserTable} {request : NewUser} {id : UserId} {now : Instant}
    {user : User} (hcreate : table.create request id now = .ok (user, after))
    (hfresh : ∀ other ∈ table.users, other.id ≠ id) : table.Gains user after := by
  obtain ⟨_, huser, rfl⟩ := create_eq_ok_iff.1 hcreate
  have hid : user.id = id := by rw [huser, NewUser.asUser]
  constructor
  case users => exact users_insert (hid ▸ hfresh)
  case found => exact UserStore.find_memory_eq_ok_iff.2 ⟨mem_insert_iff.2 (.inl rfl), rfl⟩
  case others =>
    intro other hother
    simp only [UserStore.find, find?_insert_of_ne hother]

end TokenAuthority
