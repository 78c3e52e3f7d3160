import TokenAuthority.Proofs.Startup

/-!
# The history of a registry

Operations on a registry overlap: a reload reads its source and builds a key set first, and publishes it any number
of other operations later. Each operation still takes effect as a whole at the instant it completes, on the registry
of that instant, so none undoes another. Main statement: `SharedRegistry.history_of_reached`.
-/

namespace TokenAuthority

/-! ## Operations -/

/-- An operation on a registry; a reload goes with what its source held when it was read. -/
inductive KeyOperation
  | rotate (kid : String)
  | reload (reading : KeyReading) (kid? : Option String)

namespace KeyOperation

/-- The registry that an operation makes of another, or its failure. -/
def run (operation : KeyOperation) (registry : Registry) : Except KeyError Registry :=
  match operation with
  | .rotate kid => registry.rotate kid
  | .reload reading kid? => registry.reload reading kid?

/-- What it takes for an operation to succeed. A key id to rotate to must be in the current key set, one to reload
with in the new one. -/
def Possible (operation : KeyOperation) (registry : Registry) : Prop :=
  match operation with
  | .rotate kid => ∃ pair ∈ registry.keys.pairs, pair.kid = kid
  | .reload reading none => ∃ keys, KeySet.load reading = .ok keys
  | .reload reading (some kid) => ∃ keys, KeySet.load reading = .ok keys ∧ ∃ pair ∈ keys.pairs, pair.kid = kid

end KeyOperation

theorem KeySet.contains_iff {keys : KeySet} {kid : String} :
    keys.contains kid = true ↔ ∃ pair ∈ keys.pairs, pair.kid = kid := by
  rw [contains, Option.isSome_iff_exists]
  constructor
  · rintro ⟨pair, hfind⟩
    exact ⟨pair, KeySet.find?_eq_some_iff.1 hfind⟩
  · rintro ⟨pair, hpair⟩
    exact ⟨pair, KeySet.find?_eq_some_iff.2 hpair⟩

section

variable {registry after : Registry} {reading : KeyReading} {keys : KeySet} {kid : String} {kid? : Option String}

theorem Registry.rotate_eq_ok_iff :
    registry.rotate kid = .ok after ↔
      (∃ pair ∈ registry.keys.pairs, pair.kid = kid) ∧ after = ⟨registry.keys, kid⟩ := by
  rw [← KeySet.contains_iff, rotate]
  split
  · rename_i hcontains
    simp [hcontains, eq_comm]
  · rename_i hcontains
    simp [hcontains]

theorem Registry.publish_none (registry : Registry) (keys : KeySet) :
    registry.publish keys none = .ok ⟨keys, registry.activeKid⟩ := rfl

theorem Registry.publish_some_eq_ok_iff :
    registry.publish keys (some kid) = .ok after ↔ (∃ pair ∈ keys.pairs, pair.kid = kid) ∧ after = ⟨keys, kid⟩ := by
  rw [← KeySet.contains_iff, publish]
  split
  · rename_i hcontains
    simp [hcontains, eq_comm]
  · rename_i hcontains
    simp [hcontains]

theorem Registry.keys_of_publish (h : registry.publish keys kid? = .ok after) : after.keys = keys := by
  cases kid? with
  | none =>
      cases h
      rfl
  | some kid => rw [(publish_some_eq_ok_iff.1 h).2]

theorem Registry.reload_of_load (hload : KeySet.load reading = .ok keys) :
    registry.reload reading kid? = registry.publish keys kid? := by
  rw [reload, hload]
  rfl

theorem Registry.reload_of_load_error {error : KeyError} (hload : KeySet.load reading = .error error) :
    registry.reload reading kid? = .error error := by
  rw [reload, hload]
  rfl

theorem Registry.load_of_reload (h : registry.reload reading kid? = .ok after) :
    ∃ keys, KeySet.load reading = .ok keys ∧ registry.publish keys kid? = .ok after :=
  Outcome.bind_eq_ok.1 h

end

/-- An operation succeeds exactly when it is possible. -/
theorem KeyOperation.run_eq_ok_iff {operation : KeyOperation} {registry : Registry} :
    (∃ after, operation.run registry = .ok after) ↔ operation.Possible registry := by
  cases operation with
  | rotate kid =>
      constructor
      · rintro ⟨after, h⟩
        exact (Registry.rotate_eq_ok_iff.1 h).1
      · intro h
        exact ⟨_, Registry.rotate_eq_ok_iff.2 ⟨h, rfl⟩⟩
  | reload reading kid? =>
      cases kid? with
      | none =>
          constructor
          · rintro ⟨after, h⟩
            obtain ⟨keys, hload, _⟩ := Registry.load_of_reload h
            exact ⟨keys, hload⟩
          · rintro ⟨keys, hload⟩
            exact ⟨_, Registry.reload_of_load hload⟩
      | some kid =>
          constructor
          · rintro ⟨after, h⟩
            obtain ⟨keys, hload, hpublish⟩ := Registry.load_of_reload h
            exact ⟨keys, hload, (Registry.publish_some_eq_ok_iff.1 hpublish).1⟩
          · rintro ⟨keys, hload, hkid⟩
            exact ⟨_, (Registry.reload_of_load hload).trans (Registry.publish_some_eq_ok_iff.2 ⟨hkid, rfl⟩)⟩

namespace KeyOperation

/-- The key id that an operation asks to make active. -/
def kid? : KeyOperation → Option String
  | .rotate kid => some kid
  | .reload _ kid? => kid?

/-- An operation that names no key id leaves the active one of the registry that it meets. -/
theorem activeKid_of_run {operation : KeyOperation} {registry after : Registry}
    (h : operation.run registry = .ok after) : after.activeKid = operation.kid?.getD registry.activeKid := by
  cases operation with
  | rotate kid =>
      rw [(Registry.rotate_eq_ok_iff.1 h).2]
      rfl
  | reload reading kid? =>
      obtain ⟨keys, _, hpublish⟩ := Registry.load_of_reload h
      cases kid? with
      | none =>
          cases hpublish
          rfl
      | some kid =>
          rw [(Registry.publish_some_eq_ok_iff.1 hpublish).2]
          rfl

end KeyOperation

/-! ## Overlapping operations -/

/-- A reload that has built its key set and not published it yet. -/
structure PendingReload where
  reading : KeyReading
  kid? : Option String
  keys : KeySet
  built : KeySet.load reading = .ok keys

/-- An operation that is over, and how it ended. -/
structure Completion where
  operation : KeyOperation
  outcome : Except KeyError Unit

/-- A registry in use: the reloads under way and the operations completed so far, the latest last. -/
structure SharedRegistry where
  current : Registry
  pending : List PendingReload
  completed : List Completion

/-- What happens to a registry in use. -/
inductive KeyEvent
  | rotate (kid : String)
  /-- A reload begins: its source is read, with this result. -/
  | read (reading : KeyReading) (kid? : Option String)
  /-- The reload at a place among those under way publishes its key set. -/
  | publish (place : Nat)

namespace SharedRegistry

/-- A registry in which nothing is under way or completed. -/
def start (registry : Registry) : SharedRegistry := ⟨registry, [], []⟩

/-- Completes an operation, which replaces the current registry if it succeeds. -/
def complete (shared : SharedRegistry) (operation : KeyOperation) (result : Except KeyError Registry) :
    SharedRegistry where
  current := match result with
    | .ok registry => registry
    | .error _ => shared.current
  pending := shared.pending
  completed := shared.completed ++ [⟨operation, result.map fun _ => ()⟩]

/-- What one event makes of a registry. A reload whose source cannot be loaded is completed when it reads. -/
def step (shared : SharedRegistry) : KeyEvent → SharedRegistry
  | .rotate kid => shared.complete (.rotate kid) (shared.current.rotate kid)
  | .read reading kid? => match hload : KeySet.load reading with
    | .ok keys => { shared with pending := shared.pending ++ [⟨reading, kid?, keys, hload⟩] }
    | .error error => shared.complete (.reload reading kid?) (.error error)
  | .publish place => match shared.pending[place]? with
    | some reload => { shared with pending := shared.pending.eraseIdx place }.complete
        (.reload reload.reading reload.kid?) (shared.current.publish reload.keys reload.kid?)
    | none => shared

/-- What some events make of a registry, one after another. -/
def run (shared : SharedRegistry) (events : List KeyEvent) : SharedRegistry :=
  events.foldl step shared

/-- What becomes of a registry that was loaded from a source. -/
def Reached (source : KeyReading) (activeKid : String) (shared : SharedRegistry) : Prop :=
  ∃ registry events, Registry.load source activeKid = .ok registry ∧ (start registry).run events = shared

/-! ## One event -/

/-- The end of an operation: it puts the registry that it makes of the current one in its place, or it fails and
leaves the current one as it is. -/
structure Completes (before after : SharedRegistry) (operation : KeyOperation) : Prop where
  succeeds : operation.Possible before.current → operation.run before.current = .ok after.current ∧
    after.completed = before.completed ++ [⟨operation, .ok ()⟩]
  fails : ¬ operation.Possible before.current → ∃ error, operation.run before.current = .error error ∧
    after.current = before.current ∧ after.completed = before.completed ++ [⟨operation, .error error⟩]

variable {shared : SharedRegistry}

theorem completes_of_run {before after : SharedRegistry} {operation : KeyOperation} {result : Except KeyError Registry}
    (hresult : operation.run before.current = result)
    (hcurrent : after.current = (before.complete operation result).current)
    (hcompleted : after.completed = (before.complete operation result).completed) :
    Completes before after operation := by
  cases result with
  | ok registry =>
      refine ⟨fun _ => ⟨?_, hcompleted⟩, fun himpossible => ?_⟩
      · rw [hresult, hcurrent]
        rfl
      · exact absurd (KeyOperation.run_eq_ok_iff.1 ⟨registry, hresult⟩) himpossible
  | error error =>
      refine ⟨fun hpossible => ?_, fun _ => ⟨error, hresult, hcurrent, hcompleted⟩⟩
      obtain ⟨registry, hok⟩ := KeyOperation.run_eq_ok_iff.2 hpossible
      rw [hok] at hresult
      cases hresult

theorem step_rotate (shared : SharedRegistry) (kid : String) :
    Completes shared (shared.step (.rotate kid)) (.rotate kid) :=
  completes_of_run rfl rfl rfl

theorem step_read_eq_complete {reading : KeyReading} {kid? : Option String} {error : KeyError}
    (hload : KeySet.load reading = .error error) :
    shared.step (.read reading kid?) = shared.complete (.reload reading kid?) (.error error) := by
  rw [step]
  split
  · rename_i keys hkeys
    rw [hload] at hkeys
    cases hkeys
  · rename_i error' herror
    rw [hload] at herror
    cases herror
    rfl

theorem step_read_of_error {reading : KeyReading} {kid? : Option String} {error : KeyError}
    (hload : KeySet.load reading = .error error) :
    Completes shared (shared.step (.read reading kid?)) (.reload reading kid?) := by
  rw [step_read_eq_complete hload]
  exact completes_of_run (Registry.reload_of_load_error hload) rfl rfl

theorem step_read_of_ok {reading : KeyReading} {kid? : Option String} {keys : KeySet}
    (hload : KeySet.load reading = .ok keys) :
    shared.step (.read reading kid?) = { shared with pending := shared.pending ++ [⟨reading, kid?, keys, hload⟩] } := by
  rw [step]
  split
  · rename_i keys' hkeys
    have hsame : keys' = keys := Except.ok.inj (hkeys.symm.trans hload)
    subst hsame
    rfl
  · rename_i error herror
    rw [hload] at herror
    cases herror

theorem step_publish_of_some {place : Nat} {reload : PendingReload} (hplace : shared.pending[place]? = some reload) :
    shared.step (.publish place) = { shared with pending := shared.pending.eraseIdx place }.complete
      (.reload reload.reading reload.kid?) (shared.current.publish reload.keys reload.kid?) := by
  rw [step, hplace]

/-- What was read before is published over the registry of now. -/
theorem step_publish {place : Nat} {reload : PendingReload} (hplace : shared.pending[place]? = some reload) :
    Completes shared (shared.step (.publish place)) (.reload reload.reading reload.kid?) := by
  rw [step_publish_of_some hplace]
  exact completes_of_run (Registry.reload_of_load reload.built) rfl rfl

theorem current_step_publish {place : Nat} {reload : PendingReload} (hplace : shared.pending[place]? = some reload) :
    shared.current.publish reload.keys reload.kid? = .ok (shared.step (.publish place)).current ∨
    (∃ error, shared.current.publish reload.keys reload.kid? = .error error ∧
      (shared.step (.publish place)).current = shared.current) := by
  rw [step_publish_of_some hplace]
  cases hpublish : shared.current.publish reload.keys reload.kid? with
  | ok registry => exact .inl rfl
  | error error => exact .inr ⟨error, rfl, rfl⟩

theorem step_publish_of_none {place : Nat} (hplace : shared.pending[place]? = none) :
    shared.step (.publish place) = shared := by
  rw [step, hplace]

/-- An event completes an operation, or nothing can be told from the registry and the record yet. -/
theorem step_cases (shared : SharedRegistry) (event : KeyEvent) :
    (∃ operation, Completes shared (shared.step event) operation) ∨
      ((shared.step event).current = shared.current ∧ (shared.step event).completed = shared.completed) := by
  cases event with
  | rotate kid => exact .inl ⟨_, step_rotate shared kid⟩
  | read reading kid? =>
      cases hload : KeySet.load reading with
      | error error => exact .inl ⟨_, step_read_of_error hload⟩
      | ok keys => exact .inr (by rw [step_read_of_ok hload]; exact ⟨rfl, rfl⟩)
  | publish place =>
      cases hplace : shared.pending[place]? with
      | some reload => exact .inl ⟨_, step_publish hplace⟩
      | none => exact .inr (by rw [step_publish_of_none hplace]; exact ⟨rfl, rfl⟩)

theorem keys_step_rotate (shared : SharedRegistry) (kid : String) :
    (shared.step (.rotate kid)).current.keys = shared.current.keys := by
  have hcompletes := step_rotate shared kid
  by_cases hpossible : (KeyOperation.rotate kid).Possible shared.current
  · obtain ⟨_, hafter⟩ := Registry.rotate_eq_ok_iff.1 (hcompletes.succeeds hpossible).1
    rw [hafter]
  · obtain ⟨_, _, hcurrent, _⟩ := hcompletes.fails hpossible
    rw [hcurrent]

theorem current_step_read (shared : SharedRegistry) (reading : KeyReading) (kid? : Option String) :
    (shared.step (.read reading kid?)).current = shared.current := by
  cases hload : KeySet.load reading with
  | ok keys => rw [step_read_of_ok hload]
  | error error =>
      have himpossible : ¬ (KeyOperation.reload reading kid?).Possible shared.current := by
        intro hpossible
        obtain ⟨after, hrun⟩ := KeyOperation.run_eq_ok_iff.2 hpossible
        obtain ⟨keys, hkeys, _⟩ := Registry.load_of_reload hrun
        rw [hload] at hkeys
        cases hkeys
      obtain ⟨_, _, hcurrent, _⟩ := (step_read_of_error hload).fails himpossible
      exact hcurrent

end SharedRegistry

/-! ## The record -/

namespace Completion

/-- The source of a reload that succeeded. -/
def published? : Completion → Option KeyReading
  | ⟨.reload reading _, .ok _⟩ => some reading
  | _ => none

/-- The key id that an operation made active. -/
def named? : Completion → Option String
  | ⟨.rotate kid, .ok _⟩ => some kid
  | ⟨.reload _ kid?, .ok _⟩ => kid?
  | _ => none

/-- The source published last. -/
def lastPublished (source : KeyReading) (completed : List Completion) : KeyReading :=
  (completed.filterMap published?).getLast?.getD source

/-- The key id made active last. -/
def lastNamed (activeKid : String) (completed : List Completion) : String :=
  (completed.filterMap named?).getLast?.getD activeKid

theorem lastPublished_append (source : KeyReading) (completed : List Completion) (last : Completion) :
    lastPublished source (completed ++ [last]) = last.published?.getD (lastPublished source completed) := by
  cases hlast : last.published? with
  | none => simp [lastPublished, hlast]
  | some reading => simp [lastPublished, hlast]

theorem lastNamed_append (activeKid : String) (completed : List Completion) (last : Completion) :
    lastNamed activeKid (completed ++ [last]) = last.named?.getD (lastNamed activeKid completed) := by
  cases hlast : last.named? with
  | none => simp [lastNamed, hlast]
  | some kid => simp [lastNamed, hlast]

end Completion

namespace SharedRegistry

open Completion

variable {source : KeyReading} {activeKid : String} {shared after : SharedRegistry}

/-- A registry that is what its record says: built from the source published last, with the key id made active
last. -/
structure Recorded (source : KeyReading) (activeKid : String) (shared : SharedRegistry) : Prop where
  keys : KeySet.load (lastPublished source shared.completed) = .ok shared.current.keys
  active : shared.current.activeKid = lastNamed activeKid shared.completed

theorem recorded_start {registry : Registry} (hload : Registry.load source activeKid = .ok registry) :
    Recorded source activeKid (start registry) := by
  obtain ⟨keys, hkeys, h⟩ := Outcome.bind_eq_ok.1 hload
  cases h
  exact ⟨hkeys, rfl⟩

theorem Recorded.of_completes {operation : KeyOperation} (h : Recorded source activeKid shared)
    (hcompletes : Completes shared after operation) : Recorded source activeKid after := by
  by_cases hpossible : operation.Possible shared.current
  · obtain ⟨hrun, hcompleted⟩ := hcompletes.succeeds hpossible
    refine ⟨?_, ?_⟩
    · rw [hcompleted, lastPublished_append]
      cases operation with
      | rotate kid =>
          rw [(Registry.rotate_eq_ok_iff.1 hrun).2]
          exact h.keys
      | reload reading kid? =>
          obtain ⟨keys, hload, hpublish⟩ := Registry.load_of_reload hrun
          rw [Registry.keys_of_publish hpublish]
          exact hload
    · -- A reload that names no key id keeps the one of now, which may have been made active since the source was read.
      rw [hcompleted, lastNamed_append, KeyOperation.activeKid_of_run hrun, h.active]
      cases operation <;> rfl
  · obtain ⟨error, _, hcurrent, hcompleted⟩ := hcompletes.fails hpossible
    refine ⟨?_, ?_⟩
    · rw [hcompleted, lastPublished_append, hcurrent]
      cases operation <;> exact h.keys
    · rw [hcompleted, lastNamed_append, hcurrent]
      cases operation <;> exact h.active

theorem Recorded.step (h : Recorded source activeKid shared) (event : KeyEvent) :
    Recorded source activeKid (shared.step event) := by
  rcases step_cases shared event with ⟨operation, hcompletes⟩ | ⟨hcurrent, hcompleted⟩
  · exact h.of_completes hcompletes
  · exact ⟨by rw [hcurrent, hcompleted]; exact h.keys, by rw [hcurrent, hcompleted]; exact h.active⟩

theorem Recorded.run (h : Recorded source activeKid shared) (events : List KeyEvent) :
    Recorded source activeKid (shared.run events) := by
  induction events generalizing shared with
  | nil => exact h
  | cons event events ih => exact ih (h.step event)

theorem recorded_of_reached (h : Reached source activeKid shared) : Recorded source activeKid shared := by
  obtain ⟨registry, events, hload, rfl⟩ := h
  exact (recorded_start hload).run events

/-- However its operations overlap, a registry holds the keys of the source published last and the key id made active
last. From there a rotation and the publication of what was read succeed exactly when they are possible, and an
operation that fails changes nothing. -/
theorem history_of_reached (h : Reached source activeKid shared) :
    KeySet.load (lastPublished source shared.completed) = .ok shared.current.keys ∧
    shared.current.activeKid = lastNamed activeKid shared.completed ∧
    (∀ kid, Completes shared (shared.step (.rotate kid)) (.rotate kid)) ∧
    (∀ reading kid? error, KeySet.load reading = .error error →
      Completes shared (shared.step (.read reading kid?)) (.reload reading kid?)) ∧
    (∀ reading kid? keys, (hload : KeySet.load reading = .ok keys) → shared.step (.read reading kid?) =
      { shared with pending := shared.pending ++ [⟨reading, kid?, keys, hload⟩] }) ∧
    (∀ place reload, shared.pending[place]? = some reload →
      Completes shared (shared.step (.publish place)) (.reload reload.reading reload.kid?)) := by
  have hrecorded := recorded_of_reached h
  refine ⟨hrecorded.keys, hrecorded.active, step_rotate shared, fun reading kid? error hload => ?_,
    fun reading kid? keys hload => ?_, fun place reload hplace => ?_⟩
  · exact step_read_of_error hload
  · exact step_read_of_ok hload
  · exact step_publish hplace

/-! ## A sample -/

open Authority (sampleRegistry sampleKid)

/-- A source that holds the sample key under an id. -/
def sampleSource (kid : String) : KeyReading := .ok [⟨kid, Startup.samplePem⟩]

theorem load_sampleSource (kid : String) : KeySet.load (sampleSource kid) = .ok (sampleRegistry kid).keys :=
  Startup.load_entry Startup.ofPem?_samplePem Authority.sampleKey_coprime

/-- The sample registry, with an id active under which there is no key. -/
def sampleStart : Registry := ⟨(sampleRegistry sampleKid).keys, "j"⟩

/-- A rotation between the two steps of a reload. -/
def sampleEvents : List KeyEvent := [.read (sampleSource "k2") none, .rotate sampleKid, .publish 0]

/-- What those events make of that registry. -/
def sampleShared : SharedRegistry := (start sampleStart).run sampleEvents

theorem reached_sampleShared : Reached (sampleSource sampleKid) "j" sampleShared := by
  refine ⟨sampleStart, sampleEvents, ?_, rfl⟩
  rw [Registry.load, load_sampleSource]
  rfl

theorem completed_sampleShared :
    sampleShared.completed = [⟨.rotate sampleKid, .ok ()⟩, ⟨.reload (sampleSource "k2") none, .ok ()⟩] := by
  have hread : (start sampleStart).step (.read (sampleSource "k2") none) =
      ⟨sampleStart, [⟨sampleSource "k2", none, (sampleRegistry "k2").keys, load_sampleSource "k2"⟩], []⟩ :=
    step_read_of_ok (load_sampleSource "k2")
  have hrotate : sampleStart.rotate sampleKid = .ok ⟨sampleStart.keys, sampleKid⟩ :=
    Registry.rotate_eq_ok_iff.2 ⟨⟨_, List.mem_singleton.2 rfl, rfl⟩, rfl⟩
  simp only [sampleShared, sampleEvents, run, List.foldl_cons, List.foldl_nil, hread]
  simp only [step, complete, hrotate]
  rfl

theorem keys_sampleShared : sampleShared.current.keys = (sampleRegistry "k2").keys := by
  have hkeys := (recorded_of_reached reached_sampleShared).keys
  rw [completed_sampleShared] at hkeys
  exact Except.ok.inj (hkeys.symm.trans (load_sampleSource "k2"))

/-- The rotation is kept, and so is the reload that began before it. -/
theorem history_of_reached_sample : Reached (sampleSource sampleKid) "j" sampleShared ∧
    KeySet.load (sampleSource "k2") = .ok sampleShared.current.keys ∧ sampleShared.current.activeKid = sampleKid := by
  obtain ⟨hkeys, hactive, _⟩ := history_of_reached reached_sampleShared
  rw [completed_sampleShared] at hkeys hactive
  exact ⟨reached_sampleShared, hkeys, hactive⟩

end SharedRegistry

end TokenAuthority
