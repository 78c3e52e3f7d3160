import Mathlib.Data.List.Nodup
import Mathlib.Data.String.Basic

/-!
# Outcomes and keyed lists

A chain of steps that may fail succeeds when each of its steps does, and a list is mapped when each of its entries is.
An outcome that is known in every case tells which case it is. In a list whose keys are distinct a look-up by key finds
the one entry that has it, and sorting the list by its keys depends on the entries alone.
-/

namespace TokenAuthority

/-! ## Outcomes -/

namespace Outcome

variable {ε α β : Type}

theorem bind_eq_ok {x : Except ε α} {f : α → Except ε β} {b : β} :
    x >>= f = .ok b ↔ ∃ a, x = .ok a ∧ f a = .ok b := by
  cases x with
  | error fault => simp [bind, Except.bind]
  | ok a => simp [bind, Except.bind]

theorem map_eq_ok {x : Except ε α} {f : α → β} {b : β} : x.map f = .ok b ↔ ∃ a, x = .ok a ∧ f a = b := by
  cases x with
  | error fault => simp [Except.map]
  | ok a => simp [Except.map]

theorem foldlM_cons_eq_ok {f : β → α → Except ε β} {a : α} {as : List α} {start result : β} :
    (a :: as).foldlM f start = .ok result ↔ ∃ next, f start a = .ok next ∧ as.foldlM f next = .ok result := by
  rw [List.foldlM_cons, bind_eq_ok]

/-- A list is mapped when each of its entries is. -/
theorem mapM_eq_some_iff {f : α → Option β} {as : List α} {bs : List β} :
    as.mapM f = some bs ↔ as.map f = bs.map some := by
  induction as generalizing bs with
  | nil => cases bs <;> simp
  | cons a as ih =>
      cases ha : f a with
      | none => cases bs <;> simp [ha]
      | some b => cases bs <;> simp [ha, Option.bind_eq_some_iff, ih, and_comm]

/-- What a list has been mapped to leads back to it, when each of its entries is led back to. -/
theorem map_eq_of_mapM {f : α → Option β} {g : β → α} {as : List α} {bs : List β}
    (hback : ∀ a b, f a = some b → g b = a) (h : as.mapM f = some bs) : bs.map g = as := by
  induction as generalizing bs with
  | nil =>
      cases h
      rfl
  | cons a as ih =>
      rw [mapM_eq_some_iff] at h
      cases bs with
      | nil => cases h
      | cons b bs =>
          obtain ⟨hhead, htail⟩ := List.cons.inj h
          rw [List.map_cons, hback a b hhead, ih (mapM_eq_some_iff.2 htail)]

theorem mapM_eq_none_iff {f : α → Option β} {as : List α} : as.mapM f = none ↔ ∃ a ∈ as, f a = none := by
  induction as with
  | nil => simp
  | cons a as ih =>
      cases ha : f a with
      | none => simp [ha]
      | some b =>
          rw [List.exists_mem_cons_iff, ← ih]
          cases hrest : as.mapM f <;> simp [ha, hrest]

section

variable {x : Except ε α} {succeeds : Prop} {result : α} {fails : ε → Prop} (hok : succeeds → x = .ok result)
  (herror : ∀ e, fails e → x = .error e) (hcases : succeeds ∨ ∃ e, fails e)

include hok herror hcases

/-- What makes an outcome, when there is nothing else that could be, is what it takes. -/
theorem eq_ok_iff_of_cases {a : α} : x = .ok a ↔ succeeds ∧ a = result := by
  constructor
  · intro h
    rcases hcases with hsucceeds | ⟨e, he⟩
    · exact ⟨hsucceeds, Except.ok.inj (h.symm.trans (hok hsucceeds))⟩
    · cases h.symm.trans (herror e he)
  · rintro ⟨hsucceeds, rfl⟩
    exact hok hsucceeds

theorem eq_error_iff_of_cases {e : ε} : x = .error e ↔ fails e := by
  constructor
  · intro h
    rcases hcases with hsucceeds | ⟨first, hfirst⟩
    · cases h.symm.trans (hok hsucceeds)
    · exact Except.error.inj (h.symm.trans (herror first hfirst)) ▸ hfirst
  · exact herror e

end

theorem exists_of_isSome {x : Except ε α} (h : x.toOption.isSome = true) : ∃ a, x = .ok a := by
  cases x with
  | error fault => cases h
  | ok a => exact ⟨a, rfl⟩

end Outcome

/-! ## Keyed lists -/

namespace Keyed

variable {α κ : Type} [DecidableEq κ]

theorem find?_eq_some_iff {key : α → κ} {entries : List α} (hdistinct : (entries.map key).Nodup) {k : κ} {a : α} :
    entries.find? (fun entry => key entry = k) = some a ↔ a ∈ entries ∧ key a = k := by
  constructor
  · intro h
    exact ⟨List.mem_of_find?_eq_some h, by simpa using List.find?_some h⟩
  · rintro ⟨hmem, rfl⟩
    cases hfind : entries.find? fun entry => key entry = key a with
    | none => simpa using List.find?_eq_none.1 hfind a hmem
    | some other =>
        have hkey : key other = key a := by simpa using List.find?_some hfind
        rw [List.inj_on_of_nodup_map hdistinct (List.mem_of_find?_eq_some hfind) hmem hkey]

section

variable {name : α → String} {entries entries' : List α}

theorem ascending_mergeSort (hdistinct : (entries.map name).Nodup) :
    (entries.mergeSort fun a b => name a ≤ name b).Pairwise fun a b => name a < name b := by
  have hperm : (entries.mergeSort fun a b => name a ≤ name b).Perm entries := List.mergeSort_perm _ _
  have hne := List.pairwise_map.1 ((hperm.map name).nodup_iff.2 hdistinct)
  have hsorted : (entries.mergeSort fun a b => name a ≤ name b).Pairwise
      fun a b => decide (name a ≤ name b) = true := by
    apply List.pairwise_mergeSort
    · intro a b c hab hbc
      simp only [decide_eq_true_eq] at *
      exact le_trans hab hbc
    · intro a b
      simpa using le_total (name a) (name b)
  exact (hsorted.and hne).imp fun h => lt_of_le_of_ne (of_decide_eq_true h.1) h.2

theorem nodup_of_ascending (h : entries.Pairwise fun a b => name a < name b) : entries.Nodup :=
  h.imp fun hlt heq => hlt.ne (congrArg name heq)

/-- A list in ascending order is determined by its entries. -/
theorem eq_of_ascending (h : entries.Pairwise fun a b => name a < name b)
    (h' : entries'.Pairwise fun a b => name a < name b) (hmem : ∀ a, a ∈ entries ↔ a ∈ entries') :
    entries = entries' := by
  have hperm := (List.perm_ext_iff_of_nodup (nodup_of_ascending h) (nodup_of_ascending h')).2 hmem
  apply hperm.eq_of_pairwise _ h h'
  intro a b _ _ hab hba
  exact absurd hba hab.asymm

end

end Keyed

end TokenAuthority
