import TokenAuthority.Proofs.Keys.Loading
import TokenAuthority.Proofs.Token.Rotation

/-!
# Retired keys

A key that is taken out of the source is gone from the registry with the next reload, and its tokens with it. It comes
back without the source if another reload read the source before the key was taken out and publishes what it read
later: the reads and the publications of two reloads need not be in the same order. Main statement:
`SourcedRegistry.retires_iff`.
-/

namespace TokenAuthority

/-- A source offers nothing under a key id: it cannot be read, or no entry of it has the key id. -/
def SourceLacks (source : KeyReading) (kid : String) : Prop :=
  ∀ entries, source = .ok entries → ∀ entry ∈ entries, entry.kid ≠ kid

namespace PendingReload

/-- The publication of the reload would succeed and register a key id. -/
def Brings (reload : PendingReload) (kid : String) : Prop :=
  reload.keys.contains kid = true ∧ ∀ named, reload.kid? = some named → reload.keys.contains named = true

variable {reload : PendingReload} {kid : String}

theorem contains_of_lacks (h : SourceLacks reload.reading kid) : reload.keys.contains kid = false := by
  obtain ⟨entries, hentries, hholds⟩ := KeySet.holdsEntries_of_load reload.built
  rw [Bool.eq_false_iff, ne_eq, KeySet.contains_iff]
  rintro ⟨pair, hmem, hkid⟩
  obtain ⟨entry, hentry, hread⟩ := hholds.origin pair hmem
  exact h entries hentries entry hentry ((KeyPair.kid_of_ofEntry hread).symm.trans hkid)

theorem not_brings_of_lacks (h : SourceLacks reload.reading kid) : ¬ reload.Brings kid := by
  rintro ⟨hcontains, _⟩
  rw [contains_of_lacks h] at hcontains
  cases hcontains

end PendingReload

/-! ## What a publication registers -/

namespace SharedRegistry

variable {shared : SharedRegistry} {place : Nat} {reload : PendingReload} {kid : String}

/-- The publication of a reload puts its key set in place, or it fails and keeps the one of now. -/
theorem keys_step_publish (hplace : shared.pending[place]? = some reload) :
    ((∀ named, reload.kid? = some named → reload.keys.contains named = true) ∧
      (shared.step (.publish place)).current.keys = reload.keys) ∨
    (shared.step (.publish place)).current.keys = shared.current.keys := by
  rcases current_step_publish hplace with hpublish | ⟨_, _, hcurrent⟩
  · refine .inl ⟨fun named hnamed => ?_, Registry.keys_of_publish hpublish⟩
    rw [hnamed] at hpublish
    exact KeySet.contains_iff.2 (Registry.publish_some_eq_ok_iff.1 hpublish).1
  · exact .inr (by rw [hcurrent])

theorem contains_of_brings (hplace : shared.pending[place]? = some reload) (h : reload.Brings kid) :
    (shared.step (.publish place)).current.keys.contains kid = true := by
  have hpublish : ∃ registry, shared.current.publish reload.keys reload.kid? = .ok registry := by
    cases hnamed : reload.kid? with
    | none => exact ⟨_, Registry.publish_none shared.current reload.keys⟩
    | some named =>
        exact ⟨_, Registry.publish_some_eq_ok_iff.2 ⟨KeySet.contains_iff.1 (h.2 named hnamed), rfl⟩⟩
  obtain ⟨registry, hpublish⟩ := hpublish
  rcases current_step_publish hplace with hcurrent | ⟨error, herror, _⟩
  · rw [Registry.keys_of_publish hcurrent]
    exact h.1
  · rw [hpublish] at herror
    cases herror

/-- A reload that the record says has succeeded has put its key set in place. -/
theorem keys_of_completed (hplace : shared.pending[place]? = some reload)
    (hreturned : (shared.step (.publish place)).completed =
      shared.completed ++ [⟨.reload reload.reading reload.kid?, .ok ()⟩]) :
    (shared.step (.publish place)).current.keys = reload.keys := by
  have hcompletes := step_publish hplace
  by_cases hpossible : (KeyOperation.reload reload.reading reload.kid?).Possible shared.current
  · obtain ⟨keys, hload, hpublish⟩ := Registry.load_of_reload (hcompletes.succeeds hpossible).1
    rw [Registry.keys_of_publish hpublish]
    exact Except.ok.inj (hload.symm.trans reload.built)
  · obtain ⟨error, _, _, hcompleted⟩ := hcompletes.fails hpossible
    rw [hcompleted, List.append_cancel_left_eq, List.cons.injEq, Completion.mk.injEq] at hreturned
    cases hreturned.1.2

/-- What is under way was so before, or it is a reload that has just read its source. -/
theorem mem_pending_step {event : KeyEvent} (h : reload ∈ (shared.step event).pending) :
    reload ∈ shared.pending ∨ event = .read reload.reading reload.kid? := by
  cases event with
  | rotate kid => exact .inl h
  | read reading kid? =>
      cases hload : KeySet.load reading with
      | error error => exact .inl (by rwa [step_read_eq_complete hload] at h)
      | ok keys =>
          rw [step_read_of_ok hload, List.mem_append, List.mem_singleton] at h
          rcases h with hbefore | rfl
          · exact .inl hbefore
          · exact .inr rfl
  | publish place =>
      cases hplace : shared.pending[place]? with
      | none => exact .inl (by rwa [step_publish_of_none hplace] at h)
      | some published =>
          rw [step_publish_of_some hplace] at h
          exact .inl (List.mem_of_mem_eraseIdx h)

end SharedRegistry

/-! ## A registry and its source -/

/-- A registry in use, and the source that its reloads read, as it is now. -/
structure SourcedRegistry where
  source : KeyReading
  shared : SharedRegistry

/-- What happens to a registry in use and to its source. -/
inductive SourceEvent
  /-- What the source holds changes. -/
  | change (source : KeyReading)
  | rotate (kid : String)
  /-- A reload begins: the source is read as it is now. -/
  | read (kid? : Option String)
  /-- The reload at a place among those under way publishes its key set. -/
  | publish (place : Nat)

/-- The event does not put a key id into the source. -/
def SourceEvent.Withholds (kid : String) : SourceEvent → Prop
  | .change source => SourceLacks source kid
  | _ => True

namespace SourcedRegistry

/-- What one event makes of a registry and its source; a reload reads the source as it is then. -/
def step (sourced : SourcedRegistry) : SourceEvent → SourcedRegistry
  | .change source => { sourced with source := source }
  | .rotate kid => { sourced with shared := sourced.shared.step (.rotate kid) }
  | .read kid? => { sourced with shared := sourced.shared.step (.read sourced.source kid?) }
  | .publish place => { sourced with shared := sourced.shared.step (.publish place) }

/-- What some events make of a registry and its source, one after another. -/
def run (sourced : SourcedRegistry) (events : List SourceEvent) : SourcedRegistry :=
  events.foldl step sourced

/-- A key id is retired for good: as long as nothing puts it into the source again, it is not registered, and tokens
that name it are refused for that. -/
def Retires (sourced : SourcedRegistry) (kid : String) : Prop :=
  ∀ events, (∀ event ∈ events, SourceEvent.Withholds kid event) →
    (sourced.run events).shared.current.keys.contains kid = false ∧
    ∀ authority token now, Authority.Names token kid →
      Authority.verify authority (sourced.run events).shared.current token now = .error (.keyNotFound (.unknown kid))

variable {sourced : SourcedRegistry} {event : SourceEvent} {events : List SourceEvent} {kid : String}

/-- A key id that neither the registry nor the source has, nor any reload under way brings. -/
structure Free (sourced : SourcedRegistry) (kid : String) : Prop where
  source : SourceLacks sourced.source kid
  unregistered : sourced.shared.current.keys.contains kid = false
  pending : ∀ reload ∈ sourced.shared.pending, ¬ reload.Brings kid

theorem lacks_step (h : SourceLacks sourced.source kid) (hevent : event.Withholds kid) :
    SourceLacks (sourced.step event).source kid := by
  cases event with
  | change source => exact hevent
  | rotate kid => exact h
  | read kid? => exact h
  | publish place => exact h

/-- What is under way was so before, or it has just read the source. -/
theorem mem_pending_step {reload : PendingReload} (h : reload ∈ (sourced.step event).shared.pending) :
    reload ∈ sourced.shared.pending ∨ reload.reading = sourced.source := by
  cases event with
  | change source => exact .inl h
  | rotate kid => exact (SharedRegistry.mem_pending_step h).imp_right fun hread => by cases hread
  | read kid? =>
      refine (SharedRegistry.mem_pending_step h).imp_right fun hread => ?_
      rw [KeyEvent.read.injEq] at hread
      exact hread.1.symm
  | publish place => exact (SharedRegistry.mem_pending_step h).imp_right fun hread => by cases hread

/-- While a key id is not in the source, no reload that brings it begins. -/
theorem mem_pending_run {reload : PendingReload} (hsource : SourceLacks sourced.source kid)
    (hevents : ∀ event ∈ events, SourceEvent.Withholds kid event) (hbrings : reload.Brings kid)
    (h : reload ∈ (sourced.run events).shared.pending) : reload ∈ sourced.shared.pending := by
  induction events generalizing sourced with
  | nil => exact h
  | cons event events ih =>
      obtain ⟨hevent, hevents⟩ := List.forall_mem_cons.1 hevents
      rcases mem_pending_step (ih (lacks_step hsource hevent) hevents h) with hbefore | hread
      · exact hbefore
      · exact absurd hbrings (PendingReload.not_brings_of_lacks (hread ▸ hsource))

theorem Free.step (h : sourced.Free kid) (hevent : event.Withholds kid) : (sourced.step event).Free kid where
  source := lacks_step h.source hevent
  unregistered := by
    cases event with
    | change source => exact h.unregistered
    | rotate named =>
        rw [SourcedRegistry.step, SharedRegistry.keys_step_rotate]
        exact h.unregistered
    | read kid? =>
        rw [SourcedRegistry.step, SharedRegistry.current_step_read]
        exact h.unregistered
    | publish place =>
        rw [SourcedRegistry.step]
        cases hplace : sourced.shared.pending[place]? with
        | none =>
            rw [SharedRegistry.step_publish_of_none hplace]
            exact h.unregistered
        | some reload =>
            rcases SharedRegistry.keys_step_publish hplace with ⟨hpossible, hkeys⟩ | hkeys
            · -- A key set that goes live without the key id: with it, its reload would have brought the key id.
              rw [hkeys, Bool.eq_false_iff]
              exact fun hcontains => h.pending reload (List.mem_of_getElem? hplace) ⟨hcontains, hpossible⟩
            · rw [hkeys]
              exact h.unregistered
  pending reload hreload := by
    rcases mem_pending_step hreload with hbefore | hread
    · exact h.pending reload hbefore
    · exact PendingReload.not_brings_of_lacks (hread ▸ h.source)

theorem Free.run (h : sourced.Free kid) (hevents : ∀ event ∈ events, SourceEvent.Withholds kid event) :
    (sourced.run events).Free kid := by
  induction events generalizing sourced with
  | nil => exact h
  | cons event events ih =>
      obtain ⟨hevent, hevents⟩ := List.forall_mem_cons.1 hevents
      exact ih (h.step hevent) hevents

theorem Free.retires (h : sourced.Free kid) : sourced.Retires kid := by
  intro events hevents
  have hunregistered := (h.run hevents).unregistered
  refine ⟨hunregistered, fun authority token now => ?_⟩
  rintro ⟨s, hcomposed, hnamed⟩
  refine Authority.verify_of_unregistered hcomposed hnamed (Registry.publicKey?_eq_none_iff.2 fun pair hmem hkid => ?_)
  rw [KeySet.contains_iff.2 ⟨pair, hmem, hkid⟩] at hunregistered
  cases hunregistered

theorem lacks_run (h : SourceLacks sourced.source kid) (hevents : ∀ event ∈ events, SourceEvent.Withholds kid event) :
    SourceLacks (sourced.run events).source kid := by
  induction events generalizing sourced with
  | nil => exact h
  | cons event events ih =>
      obtain ⟨hevent, hevents⟩ := List.forall_mem_cons.1 hevents
      exact ih (lacks_step h hevent) hevents

/-- A reload that begins when a key id is not in the source and succeeds, with the key id out of the source since then,
retires it if and only if no other reload that would bring it is under way still. Such a reload was under way already
when this one began. -/
theorem retires_iff {keys : KeySet} {kid? : Option String} {place : Nat} {last returned : SourcedRegistry}
    (hsource : SourceLacks sourced.source kid) (hload : KeySet.load sourced.source = .ok keys)
    (hevents : ∀ event ∈ events, SourceEvent.Withholds kid event)
    (hrun : (sourced.step (.read kid?)).run events = last)
    (hplace : last.shared.pending[place]? = some ⟨sourced.source, kid?, keys, hload⟩)
    (hreturned : last.step (.publish place) = returned)
    (hsucceeded : returned.shared.completed =
      last.shared.completed ++ [⟨.reload sourced.source kid?, .ok ()⟩]) :
    (returned.Retires kid ↔ ∀ reload ∈ returned.shared.pending, ¬ reload.Brings kid) ∧
    ∀ reload ∈ returned.shared.pending, reload.Brings kid → reload ∈ sourced.shared.pending := by
  have hcourse : ∀ event ∈ .read kid? :: events, SourceEvent.Withholds kid event :=
    List.forall_mem_cons.2 ⟨trivial, hevents⟩
  have hlast : sourced.run (.read kid? :: events) = last := hrun
  have hlacks : SourceLacks last.source kid := hlast ▸ lacks_run hsource hcourse
  subst hreturned
  refine ⟨⟨fun hretires reload hmem hbrings => ?_, fun hnone => ?_⟩, fun reload hmem hbrings => ?_⟩
  · -- The other reload has only to be published.
    obtain ⟨other, hother⟩ := List.mem_iff_getElem?.1 hmem
    have hcontains := SharedRegistry.contains_of_brings hother hbrings
    have hnever := (hretires [.publish other] (by simp [SourceEvent.Withholds])).1
    exact absurd hcontains (Bool.eq_false_iff.1 hnever)
  · refine Free.retires ⟨hlacks, ?_, hnone⟩
    rw [step, SharedRegistry.keys_of_completed hplace hsucceeded]
    exact @PendingReload.contains_of_lacks ⟨sourced.source, kid?, keys, hload⟩ kid hsource
  · rcases mem_pending_step hmem with hbefore | hread
    · exact mem_pending_run hsource hcourse hbrings (hlast ▸ hbefore)
    · exact absurd hbrings (PendingReload.not_brings_of_lacks (hread ▸ hlacks))

/-! ## A sample -/

open Authority (sampleKid sampleRegistry sampleAuthority sampleClaims)

open SharedRegistry (sampleSource sampleStart load_sampleSource)

theorem lacks_sampleSource : SourceLacks (sampleSource "k2") sampleKid := by
  intro entries hentries entry hmem
  cases hentries
  rw [List.mem_singleton.1 hmem]
  decide

/-- A reload that has read the sample key under an id. -/
def sampleReload (kid : String) : PendingReload :=
  ⟨sampleSource kid, none, (sampleRegistry kid).keys, load_sampleSource kid⟩

theorem brings_sampleReload : (sampleReload sampleKid).Brings sampleKid :=
  ⟨KeySet.contains_iff.2 ⟨_, List.mem_singleton.2 rfl, rfl⟩, fun _ h => by cases h⟩

/-- A registry whose source has just lost a key, with some reloads under way. -/
def sampleSourced (pending : List PendingReload) : SourcedRegistry := ⟨sampleSource "k2", sampleStart, pending, []⟩

theorem read_sampleSourced (pending : List PendingReload) :
    (sampleSourced pending).step (.read none) = sampleSourced (pending ++ [sampleReload "k2"]) := by
  rw [step, sampleSourced, SharedRegistry.step_read_of_ok (load_sampleSource "k2")]
  rfl

/-- What the reload that reads the changed source leaves when it has returned before the others. -/
def sampleReturned (pending : List PendingReload) : SourcedRegistry :=
  ⟨sampleSource "k2", ⟨⟨(sampleRegistry "k2").keys, "j"⟩, pending, [⟨.reload (sampleSource "k2") none, .ok ()⟩]⟩⟩

/-- A reload on its own retires the key that its source has lost, and one that overtakes another does not. -/
theorem retires_iff_sample : (sampleReturned []).Retires sampleKid ∧
    ¬ (sampleReturned [sampleReload sampleKid]).Retires sampleKid := by
  constructor
  · have hplace : (sampleSourced [sampleReload "k2"]).shared.pending[0]? = some (sampleReload "k2") := rfl
    obtain ⟨hretires, _⟩ : _ ∧ ∀ reload ∈ (sampleReturned []).shared.pending, _ :=
      retires_iff lacks_sampleSource (load_sampleSource "k2") (List.forall_mem_nil _) (read_sampleSourced [])
        hplace rfl rfl
    exact hretires.2 (List.forall_mem_nil _)
  · have hplace : (sampleSourced [sampleReload sampleKid, sampleReload "k2"]).shared.pending[1]? =
        some (sampleReload "k2") := rfl
    obtain ⟨hretires, _⟩ : _ ∧ ∀ reload ∈ (sampleReturned [sampleReload sampleKid]).shared.pending, _ :=
      retires_iff lacks_sampleSource (load_sampleSource "k2") (List.forall_mem_nil _)
        (read_sampleSourced [sampleReload sampleKid]) hplace rfl rfl
    exact fun h => hretires.1 h _ (List.mem_singleton.2 rfl) brings_sampleReload

/-- A reload has read the source, the key is taken out of the source, and another reload reads it and succeeds. Then
the first one publishes what it read: the key is back without ever being back in the source, and its token is accepted
again. -/
theorem retired_key_returns : ∃ token now,
    (SourcedRegistry.mk (sampleSource sampleKid) (SharedRegistry.start sampleStart)).run
      [.read none, .change (sampleSource "k2"), .read none, .publish 1] = sampleReturned [sampleReload sampleKid] ∧
    SourceLacks (sampleSource "k2") sampleKid ∧
    sampleAuthority.verify (sampleReturned [sampleReload sampleKid]).shared.current token now =
      .error (.keyNotFound (.unknown sampleKid)) ∧
    sampleAuthority.verify ((sampleReturned [sampleReload sampleKid]).step (.publish 0)).shared.current token now =
      .ok sampleClaims := by
  obtain ⟨token, hissue⟩ := Authority.exists_issue_sample
  obtain ⟨s, pair, haccepted⟩ : ∃ s pair, Authority.Accepted sampleAuthority (sampleRegistry sampleKid) token
      sampleClaims.issuedAt sampleClaims s pair :=
    Authority.accepted_of_issue rfl rfl rfl (by decide) hissue (by decide)
  have hpair : pair = Authority.samplePair sampleKid := List.mem_singleton.1 haccepted.registered
  subst hpair
  refine ⟨token, sampleClaims.issuedAt, ?_, lacks_sampleSource, ?_, ?_⟩
  · have hread : (SourcedRegistry.mk (sampleSource sampleKid) (SharedRegistry.start sampleStart)).step (.read none) =
        ⟨sampleSource sampleKid, sampleStart, [sampleReload sampleKid], []⟩ := by
      rw [step, SharedRegistry.step_read_of_ok (load_sampleSource sampleKid)]
      rfl
    rw [run, List.foldl_cons, hread, List.foldl_cons, List.foldl_cons]
    exact congrArg (fun sourced => List.foldl step sourced [SourceEvent.publish 1])
      (read_sampleSourced [sampleReload sampleKid])
  · refine Authority.verify_of_unregistered haccepted.composed haccepted.named ?_
    rw [Registry.publicKey?_eq_none_iff]
    intro other hother
    rw [List.mem_singleton.1 hother]
    decide
  · rw [← Authority.verify_of_accepted haccepted]
    exact Authority.verify_congr fun _ _ => rfl

end SourcedRegistry

end TokenAuthority
