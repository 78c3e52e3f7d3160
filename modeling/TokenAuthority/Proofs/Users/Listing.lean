import TokenAuthority.Proofs.Encoding.Exact
import TokenAuthority.Proofs.Users.Registration

/-!
# Users in a list

No two users of a table share an address, so that sorting by address leaves one order only, whatever order a table keeps
its users in. Main statement: `UserStore.listing_of_reachable`.
-/

namespace TokenAuthority

variable {table table' after : UserTable} {user : User}

namespace UserTable

/-- The tables that calls to create users lead to, whatever ids are drawn and in whatever order a table comes to keep
its users. Calls that fail leave a table as it is. -/
inductive Reachable : UserTable → Prop
  | empty : Reachable .empty
  | create {table after : UserTable} {request : NewUser} {id : UserId} {now : Instant} {user : User}
      (h : Reachable table) (hcreate : table.create request id now = .ok (user, after)) : Reachable after
  | reorder {table after : UserTable} (h : Reachable table) (hperm : after.users.Perm table.users) : Reachable after

/-! ## Addresses -/

theorem nodup_emails_insert (h : (table.users.map User.email).Nodup) (hfree : table.Free user.email) :
    ((table.insert user).users.map User.email).Nodup := by
  -- A user of the same id is taken out, which leaves the addresses of the others apart.
  have hkept : (table.users.filter fun other => other.id ≠ user.id).Sublist table.users := List.filter_sublist
  rw [insert, List.map_cons, List.nodup_cons]
  refine ⟨?_, h.sublist (hkept.map User.email)⟩
  intro hmem
  obtain ⟨other, hother, hemail⟩ := List.mem_map.1 hmem
  exact hfree other (hkept.subset hother) hemail

theorem Reachable.nodup_emails (h : Reachable table) : (table.users.map User.email).Nodup := by
  induction h with
  | empty => simp [UserTable.empty]
  | create _ hcreate ih =>
      obtain ⟨_, hfree, rfl⟩ := makes_of_create hcreate
      exact nodup_emails_insert ih hfree
  | reorder _ hperm ih => exact (hperm.map User.email).nodup_iff.2 ih

/-! ## The order of a list -/

theorem mem_sorted_iff : user ∈ table.sorted ↔ user ∈ table.users := by
  rw [sorted, List.mem_mergeSort]

theorem perm_sorted (table : UserTable) : table.sorted.Perm table.users := List.mergeSort_perm _ _

theorem Reachable.ascending_sorted (h : Reachable table) : table.sorted.Pairwise fun a b => a.email < b.email :=
  Keyed.ascending_mergeSort h.nodup_emails

/-- A table that holds the users of another one is the other one in some order. -/
theorem perm_of_mem_iff (hmem : ∀ user, user ∈ table'.users ↔ user ∈ table.users) : table'.users.Perm table.users := by
  have hnodup (table : UserTable) : table.users.Nodup := table.distinct.of_map User.id
  exact (List.perm_ext_iff_of_nodup (hnodup table') (hnodup table)).2 hmem

theorem Reachable.sorted_eq (h : Reachable table) (hmem : ∀ user, user ∈ table'.users ↔ user ∈ table.users) :
    table'.sorted = table.sorted := by
  have h' : Reachable table' := h.reorder (perm_of_mem_iff hmem)
  apply Keyed.eq_of_ascending h'.ascending_sorted h.ascending_sorted
  intro user
  rw [mem_sorted_iff, mem_sorted_iff, hmem]

/-! ## Calls one after another -/

theorem Reachable.step {register : UserRegister} (h : Reachable register.table) (call : Registration) :
    Reachable (register.step call).table := by
  unfold UserRegister.step
  cases hcreate : register.table.create call.request call.id call.now with
  | error error => exact h
  | ok made =>
      obtain ⟨user, after⟩ := made
      exact h.create hcreate

theorem Reachable.run {register : UserRegister} (h : Reachable register.table) (calls : List Registration) :
    Reachable (register.run calls).table := by
  induction calls generalizing register with
  | nil => exact h
  | cons call calls ih =>
      rw [UserRegister.run, List.foldl_cons]
      exact ih (h.step call)

end UserTable

open UserTable UserStore

/-- A list of a store's users has every user of the store once and nobody else, in ascending order of the bytes of their
addresses. It is the list of every store that holds the same users, and it shows what look-ups by id find. -/
theorem UserStore.listing_of_reachable (h : table.Reachable) : ∃ listed, (memory table).all = .ok listed ∧
    listed.Perm table.users ∧ listed.Nodup ∧
    (listed.Pairwise fun a b => Text.Utf8.bytes a.email < Text.Utf8.bytes b.email) ∧
    (∀ table' : UserTable, (∀ user, user ∈ table'.users ↔ user ∈ table.users) → (memory table').all = .ok listed) ∧
    (∀ user ∈ listed, (memory table).find user.id = .ok user) ∧
    ∀ id user, (memory table).find id = .ok user → user ∈ listed ∧ user.id = id := by
  have hascending := h.ascending_sorted
  refine ⟨table.sorted, rfl, perm_sorted table, Keyed.nodup_of_ascending hascending, ?_, ?_, ?_, ?_⟩
  · exact hascending.imp Text.Utf8.bytes_lt_bytes
  · intro table' hmem
    rw [all, h.sorted_eq hmem]
  · intro user hlisted
    exact find_memory_eq_ok_iff.2 ⟨mem_sorted_iff.1 hlisted, rfl⟩
  · intro id user hfind
    obtain ⟨huser, hid⟩ := find_memory_eq_ok_iff.1 hfind
    exact ⟨mem_sorted_iff.2 huser, hid⟩

/-! ## A sample -/

open UserRegister (start sampleCalls users_sampleCalls)

theorem UserStore.listing_of_reachable_sample : (start.run sampleCalls).table.Reachable ∧
    ∃ listed, (memory (start.run sampleCalls).table).all = .ok listed ∧
      listed.map User.email = ["alice@example.org", "\u03c3\u03b1\u03c2@i\u0307.\u03c2"] := by
  have hreachable : (start.run sampleCalls).table.Reachable := Reachable.run .empty sampleCalls
  obtain ⟨listed, hall, hperm, hnodup, hascending, _⟩ := listing_of_reachable hreachable
  refine ⟨hreachable, listed, hall, ?_⟩
  have hemails := hperm.map User.email
  rw [users_sampleCalls] at hemails
  have hlisted : (listed.map User.email).Pairwise fun a b => id a < id b :=
    List.pairwise_map.2 (hascending.imp Text.Utf8.bytes_lt_bytes_iff.1)
  apply Keyed.eq_of_ascending hlisted (by decide)
  intro email
  rw [hemails.mem_iff]
  simp [or_comm]

end TokenAuthority
