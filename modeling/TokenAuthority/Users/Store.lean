import TokenAuthority.Log.Event
import TokenAuthority.Users.Error

/-!
# User stores

Where users are looked up, listed and created. A store in memory keeps users by id and refuses an e-mail address
that is taken. A store may also be out of order: it fails every call, or its lookups do not end in time.
-/

namespace TokenAuthority

/-- The users kept in memory, one for each id. -/
structure UserTable where
  users : List User
  distinct : (users.map User.id).Nodup

namespace UserTable

/-- The table without users. -/
def empty : UserTable := ⟨[], by simp⟩

/-- The user of an id. -/
def find? (table : UserTable) (id : UserId) : Option User :=
  table.users.find? fun user => user.id = id

/-- Puts a user in, in place of the one with the same id. -/
def insert (table : UserTable) (user : User) : UserTable where
  users := user :: table.users.filter fun other => other.id ≠ user.id
  distinct := by
    rw [List.map_cons, List.nodup_cons]
    refine ⟨by simp, table.distinct.sublist (List.Sublist.map _ List.filter_sublist)⟩

/-- The users sorted by e-mail address. -/
def sorted (table : UserTable) : List User :=
  table.users.mergeSort fun a b => a.email ≤ b.email

/-- Creates the user of a request under a fresh id. -/
def create (table : UserTable) (request : NewUser) (id : UserId) (now : Instant) :
    Except UserStoreError (User × UserTable) :=
  match request.toUser id now with
  | .error fault => .error (.invalid (.validation fault))
  | .ok user =>
      if table.users.any fun other => other.email = user.email then .error (.duplicate user.email)
      else .ok (user, table.insert user)

/-- The event of a user that was created. -/
def createdEvent (user : User) : Log.Event :=
  ⟨.info, "user created", [("user_id", user.id.toText)]⟩

end UserTable

/-- A store of users. -/
inductive UserStore
  | memory (table : UserTable)
  /-- Every call fails. -/
  | failing (error : UserStoreError)
  /-- Lookups do not end within a time limit and find nobody without one; no user can be created. -/
  | stalled

namespace UserStore

/-- The answer of a lookup. -/
inductive Lookup
  | found (user : User)
  | failed (error : UserStoreError)
  | timedOut

/-- The user of an id, without a time limit. -/
def find (store : UserStore) (id : UserId) : Except UserStoreError User :=
  match store with
  | .memory table => match table.find? id with
    | some user => .ok user
    | none => .error (.notFound id)
  | .failing error => .error error
  | .stalled => .error (.notFound id)

/-- The user of an id, within the time limit of one request. -/
def findInTime (store : UserStore) (id : UserId) : Lookup :=
  match store with
  | .stalled => .timedOut
  | store => match store.find id with
    | .ok user => .found user
    | .error error => .failed error

/-- All users, sorted by e-mail address. -/
def all (store : UserStore) : Except UserStoreError (List User) :=
  match store with
  | .memory table => .ok table.sorted
  | .failing error => .error error
  | .stalled => .ok []

/-- Creates the user of a request under a fresh id. -/
def create (store : UserStore) (request : NewUser) (id : UserId) (now : Instant) :
    Except UserStoreError (User × UserStore) :=
  match store with
  | .memory table => (table.create request id now).map fun (user, table) => (user, .memory table)
  | .failing error => .error error
  | .stalled => .error (.unavailable "read only")

end UserStore

end TokenAuthority
