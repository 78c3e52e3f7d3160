import Mathlib.Data.String.Basic
import TokenAuthority.Proofs.Keys.History
import TokenAuthority.Proofs.Keys.Loading

/-!
# The views of a registry

The look-ups, the list of key ids, the published keys and the signing pair of a registry agree with one another after
any history, and the event of the last publication says whether it can sign. Only a reload that names no key takes
that away. Main statement: `ReportedRegistry.views_of_reached`.
-/

namespace TokenAuthority

/-! ## Sorted views -/

namespace Registry

variable {registry : Registry} {kid : String} {pair : KeyPair} {key : PublishedKey}

theorem mem_kids_iff : kid ∈ registry.kids ↔ ∃ pair ∈ registry.keys.pairs, pair.kid = kid := by
  rw [kids, KeySet.kids, List.mem_mergeSort, List.mem_map]

theorem kids_ascending (registry : Registry) : registry.kids.Pairwise (· < ·) := by
  have hdistinct : (registry.keys.pairs.map KeyPair.kid).Nodup := registry.keys.distinct
  exact Keyed.ascending_mergeSort (by rwa [List.map_id'])

theorem map_kid_publicKeys (registry : Registry) : registry.publicKeys.map PublishedKey.kid = registry.kids := by
  rw [publicKeys, List.map_map, kids, KeySet.kids]
  exact List.map_mergeSort fun a _ b _ => rfl

theorem mem_publicKeys_iff : key ∈ registry.publicKeys ↔ ∃ pair ∈ registry.keys.pairs,
    ⟨pair.kid, KeyPair.algorithm, pair.kid = registry.activeKid, pair.publicPem⟩ = key := by
  rw [publicKeys, List.mem_map]
  simp only [List.mem_mergeSort]

theorem signingPair_eq_ok_iff : registry.signingPair = .ok pair ↔
    pair ∈ registry.keys.pairs ∧ pair.kid = registry.activeKid := by
  rw [← KeySet.find?_eq_some_iff, signingPair]
  cases registry.keys.find? registry.activeKid with
  | none => simp
  | some other => simp

/-- Whether a registry can sign. -/
def Signs (registry : Registry) : Prop := ∃ pair, registry.signingPair = .ok pair

theorem signs_iff : registry.Signs ↔ ∃ pair ∈ registry.keys.pairs, pair.kid = registry.activeKid := by
  simp only [Signs, signingPair_eq_ok_iff]

theorem kid_of_active (h : key ∈ registry.publicKeys) (hactive : key.active = true) :
    key.kid = registry.activeKid := by
  obtain ⟨pair, _, rfl⟩ := mem_publicKeys_iff.1 h
  exact of_decide_eq_true hactive

theorem exists_active_iff : (∃ key ∈ registry.publicKeys, key.active = true) ↔ registry.Signs := by
  rw [signs_iff]
  constructor
  · rintro ⟨key, hkey, hactive⟩
    obtain ⟨pair, hmem, rfl⟩ := mem_publicKeys_iff.1 hkey
    exact ⟨pair, hmem, of_decide_eq_true hactive⟩
  · rintro ⟨pair, hmem, hkid⟩
    exact ⟨_, mem_publicKeys_iff.2 ⟨pair, hmem, rfl⟩, decide_eq_true hkid⟩

/-- Only the active key id is flagged, so among distinct key ids one at most. -/
theorem length_filter_active (registry : Registry) :
    (registry.publicKeys.filter PublishedKey.active).length ≤ 1 := by
  have hkids : (registry.publicKeys.map PublishedKey.kid).Nodup := by
    rw [map_kid_publicKeys]
    exact (kids_ascending registry).imp ne_of_lt
  have hflagged : ((registry.publicKeys.filter PublishedKey.active).map PublishedKey.kid).Nodup :=
    hkids.sublist (List.filter_sublist.map _)
  have hactive : ∀ kid ∈ (registry.publicKeys.filter PublishedKey.active).map PublishedKey.kid,
      kid = registry.activeKid := by
    intro kid hkid
    obtain ⟨key, hkey, rfl⟩ := List.mem_map.1 hkid
    obtain ⟨hkey, hflag⟩ := List.mem_filter.1 hkey
    exact kid_of_active hkey hflag
  rw [← List.length_map PublishedKey.kid]
  rw [List.eq_replicate_of_mem hactive] at hflagged
  simpa using List.nodup_replicate.1 hflagged

/-- A registry whose views agree: the look-ups, the sorted key ids, the published keys with their flags, and the
pair that signs. -/
structure Coherent (registry : Registry) : Prop where
  nonempty : registry.keys.pairs ≠ []
  ownKid : ∀ kid pair, registry.keys.find? kid = some pair → pair.kid = kid
  ascending : registry.kids.Pairwise (· < ·)
  publishedKids : registry.publicKeys.map PublishedKey.kid = registry.kids
  checks : ∀ kid, (∃ pair, registry.checkingPair kid = .ok pair) ↔ kid ∈ registry.kids
  checkedPem : ∀ kid pair, registry.checkingPair kid = .ok pair →
    pair.kid = kid ∧ ∃ key ∈ registry.publicKeys, key.kid = kid ∧ key.pem = pair.publicPem
  oneActive : (registry.publicKeys.filter PublishedKey.active).length ≤ 1
  active : (∃ key ∈ registry.publicKeys, key.active = true) ↔ registry.activeKid ∈ registry.kids
  signs : registry.Signs ↔ registry.activeKid ∈ registry.kids
  signingKey : ∀ pair, registry.signingPair = .ok pair → pair.kid = registry.activeKid ∧
    ∃ key ∈ registry.publicKeys, key.active = true ∧ key.kid = pair.kid ∧ key.pem = pair.publicPem

theorem coherent_of_pairs (h : registry.keys.pairs ≠ []) : registry.Coherent where
  nonempty := h
  ownKid kid pair hfind := (KeySet.find?_eq_some_iff.1 hfind).2
  ascending := kids_ascending registry
  publishedKids := map_kid_publicKeys registry
  checks kid := by
    rw [mem_kids_iff]
    simp only [checkingPair_eq_ok_iff]
  checkedPem kid pair hpair := by
    obtain ⟨hmem, hkid⟩ := checkingPair_eq_ok_iff.1 hpair
    exact ⟨hkid, _, mem_publicKeys_iff.2 ⟨pair, hmem, rfl⟩, hkid, rfl⟩
  oneActive := length_filter_active registry
  active := by rw [exists_active_iff, signs_iff, mem_kids_iff]
  signs := by rw [signs_iff, mem_kids_iff]
  signingKey pair hpair := by
    obtain ⟨hmem, hkid⟩ := signingPair_eq_ok_iff.1 hpair
    exact ⟨hkid, _, mem_publicKeys_iff.2 ⟨pair, hmem, rfl⟩, decide_eq_true hkid, rfl, rfl⟩

/-- The event of a publication is a warning exactly when nothing can be signed. -/
theorem level_publishedEvent (registry : Registry) (message : String) :
    (registry.Signs → (registry.publishedEvent message).level = .info) ∧
    (¬ registry.Signs → (registry.publishedEvent message).level = .warn) := by
  rw [signs_iff, ← KeySet.contains_iff, publishedEvent]
  constructor
  · intro hcontains
    rw [if_pos hcontains]
  · intro hcontains
    rw [if_neg hcontains]

end Registry

/-! ## Losing the signing pair -/

namespace SharedRegistry

variable {shared : SharedRegistry}

/-- A registry that can sign stops doing so only when a reload that names no key is published and its key set lacks
the active key id. -/
theorem exists_publish_of_not_signs {event : KeyEvent} (hbefore : shared.current.Signs)
    (hafter : ¬ (shared.step event).current.Signs) :
    ∃ place reload, event = .publish place ∧ shared.pending[place]? = some reload ∧ reload.kid? = none ∧
      ∀ pair ∈ reload.keys.pairs, pair.kid ≠ shared.current.activeKid := by
  have hsame : (shared.step event).current ≠ shared.current := fun heq => hafter (heq ▸ hbefore)
  cases event with
  | rotate kid =>
      exfalso
      by_cases hpossible : (KeyOperation.rotate kid).Possible shared.current
      · -- A rotation that succeeds makes a registered key id active.
        obtain ⟨⟨pair, hmem, hkid⟩, hregistry⟩ :=
          Registry.rotate_eq_ok_iff.1 ((step_rotate shared kid).succeeds hpossible).1
        rw [hregistry, Registry.signs_iff] at hafter
        exact hafter ⟨pair, hmem, hkid⟩
      · obtain ⟨_, _, hcurrent, _⟩ := (step_rotate shared kid).fails hpossible
        exact hsame hcurrent
  | read reading kid? => exact absurd (current_step_read shared reading kid?) hsame
  | publish place =>
      cases hplace : shared.pending[place]? with
      | none => exact absurd (congrArg current (step_publish_of_none hplace)) hsame
      | some reload =>
          refine ⟨place, reload, rfl, hplace, ?_⟩
          rcases current_step_publish hplace with hpublish | ⟨_, _, hcurrent⟩
          · cases hkid : reload.kid? with
            | none =>
                rw [hkid, Registry.publish_none, Except.ok.injEq] at hpublish
                rw [← hpublish, Registry.signs_iff] at hafter
                exact ⟨rfl, fun pair hmem heq => hafter ⟨pair, hmem, heq⟩⟩
            | some kid =>
                rw [hkid] at hpublish
                obtain ⟨hregistered, hregistry⟩ := Registry.publish_some_eq_ok_iff.1 hpublish
                rw [hregistry, Registry.signs_iff] at hafter
                exact absurd hregistered hafter
          · exact absurd hcurrent hsame

end SharedRegistry

/-! ## Publications and their events -/

/-- A registry in use, with what was last published, by the load or by a reload, and the event that reported it. -/
structure ReportedRegistry where
  shared : SharedRegistry
  published : Registry
  report : Log.Event

namespace ReportedRegistry

/-- A registry that has just been loaded and reported. -/
def start (registry : Registry) : ReportedRegistry :=
  ⟨SharedRegistry.start registry, registry, registry.loadedEvent⟩

/-- What an event publishes, if it is the end of a reload that succeeds. -/
def published? (shared : SharedRegistry) : KeyEvent → Option Registry
  | .publish place => shared.pending[place]?.bind fun reload =>
      (shared.current.publish reload.keys reload.kid?).toOption
  | _ => none

/-- What one event makes of a registry and its latest report; only the end of a reload that succeeds is reported. -/
def step (reported : ReportedRegistry) (event : KeyEvent) : ReportedRegistry :=
  match published? reported.shared event with
  | some registry => ⟨reported.shared.step event, registry, registry.reloadedEvent⟩
  | none => { reported with shared := reported.shared.step event }

/-- What some events make of a registry and its latest report, one after another. -/
def run (reported : ReportedRegistry) (events : List KeyEvent) : ReportedRegistry :=
  events.foldl step reported

/-- What becomes of a registry that was loaded from a source. -/
def Reached (source : KeyReading) (activeKid : String) (reported : ReportedRegistry) : Prop :=
  ∃ registry events, Registry.load source activeKid = .ok registry ∧ (start registry).run events = reported

variable {source : KeyReading} {activeKid : String} {reported : ReportedRegistry}

theorem shared_step (reported : ReportedRegistry) (event : KeyEvent) :
    (reported.step event).shared = reported.shared.step event := by
  rw [step]
  split
  · rfl
  · rfl

theorem shared_run (reported : ReportedRegistry) (events : List KeyEvent) :
    (reported.run events).shared = reported.shared.run events := by
  induction events generalizing reported with
  | nil => rfl
  | cons event events ih =>
      rw [run, List.foldl_cons, SharedRegistry.run, List.foldl_cons, ← shared_step]
      exact ih (reported.step event)

theorem Reached.shared (h : Reached source activeKid reported) :
    SharedRegistry.Reached source activeKid reported.shared := by
  obtain ⟨registry, events, hload, rfl⟩ := h
  exact ⟨registry, events, hload, (shared_run (start registry) events).symm⟩

/-- A report that tells whether what it reports can sign. -/
def Honest (reported : ReportedRegistry) : Prop :=
  (reported.published.Signs → reported.report.level = .info) ∧
  (¬ reported.published.Signs → reported.report.level = .warn)

theorem honest_step (h : reported.Honest) (event : KeyEvent) : (reported.step event).Honest := by
  unfold step
  split
  · rename_i registry _
    exact registry.level_publishedEvent _
  · exact h

theorem keys_published_step (h : reported.published.keys = reported.shared.current.keys) (event : KeyEvent) :
    (reported.step event).published.keys = (reported.step event).shared.current.keys := by
  rw [shared_step]
  cases event with
  | rotate kid => exact h.trans (SharedRegistry.keys_step_rotate reported.shared kid).symm
  | read reading kid? => rw [SharedRegistry.current_step_read]; exact h
  | publish place =>
      cases hplace : reported.shared.pending[place]? with
      | none =>
          rw [SharedRegistry.step_publish_of_none hplace, step, published?, hplace]
          exact h
      | some reload =>
          rw [step, published?, hplace]
          rcases SharedRegistry.current_step_publish hplace with hpublish | ⟨error, hpublish, hcurrent⟩
          · rw [Option.bind_some, hpublish]
            rfl
          · rw [Option.bind_some, hpublish, hcurrent]
            exact h

/-- What was published last holds the keys of now, and its report is honest. -/
theorem reported_of_reached (h : Reached source activeKid reported) :
    reported.published.keys = reported.shared.current.keys ∧ reported.Honest := by
  obtain ⟨registry, events, _, rfl⟩ := h
  have hstart : (start registry).Honest := registry.level_publishedEvent _
  have hkeys : (start registry).published.keys = (start registry).shared.current.keys := rfl
  generalize start registry = reported at hstart hkeys
  induction events generalizing reported with
  | nil => exact ⟨hkeys, hstart⟩
  | cons event events ih => exact ih _ (honest_step hstart event) (keys_published_step hkeys event)

/-- After any history the views of a registry agree, each entry of the source published last is found under its key id
as the pair that it was read as, and the last publication, with the keys of now, was reported as a warning exactly if
it could not sign. From there only a reload that names no key, with a key set that lacks the active key id, takes the
signing pair away. -/
theorem views_of_reached (h : Reached source activeKid reported) :
    reported.shared.current.Coherent ∧
    (∃ entries, Completion.lastPublished source reported.shared.completed = .ok entries ∧
      reported.shared.current.keys.HoldsEntries entries) ∧
    reported.published.keys = reported.shared.current.keys ∧
    (reported.report.level = .info ↔ reported.published.Signs) ∧
    (reported.report.level = .warn ↔ ¬ reported.published.Signs) ∧
    (∀ event, reported.shared.current.Signs → ¬ (reported.step event).shared.current.Signs →
      ∃ place reload, event = .publish place ∧ reported.shared.pending[place]? = some reload ∧ reload.kid? = none ∧
        ∀ pair ∈ reload.keys.pairs, pair.kid ≠ reported.shared.current.activeKid) := by
  obtain ⟨entries, hentries, hholds⟩ :=
    KeySet.holdsEntries_of_load (SharedRegistry.recorded_of_reached h.shared).keys
  obtain ⟨hpublished, hinfo, hwarn⟩ := reported_of_reached h
  refine ⟨Registry.coherent_of_pairs hholds.pairs_ne_nil, ⟨entries, hentries, hholds⟩, hpublished,
    ⟨fun hlevel => ?_, hinfo⟩, ⟨fun hlevel hsigns => ?_, hwarn⟩, fun event hbefore hafter => ?_⟩
  · by_contra hsigns
    rw [hwarn hsigns] at hlevel
    cases hlevel
  · rw [hinfo hsigns] at hlevel
    cases hlevel
  · rw [shared_step] at hafter
    exact SharedRegistry.exists_publish_of_not_signs hbefore hafter

/-! ## A sample -/

open SharedRegistry (sampleSource sampleStart sampleEvents sampleShared)

/-- The sample registry after the sample events, with its latest report. -/
def sampleReported : ReportedRegistry := (start sampleStart).run sampleEvents

theorem reached_sampleReported : Reached (sampleSource Authority.sampleKid) "j" sampleReported := by
  refine ⟨sampleStart, sampleEvents, ?_, rfl⟩
  rw [Registry.load, SharedRegistry.load_sampleSource]
  rfl

theorem shared_sampleReported : sampleReported.shared = sampleShared :=
  shared_run (start sampleStart) sampleEvents

/-- The reload drops the key that the rotation made active. -/
theorem not_signs_sampleShared : ¬ sampleShared.current.Signs := by
  have hactive := (SharedRegistry.recorded_of_reached SharedRegistry.reached_sampleShared).active
  rw [SharedRegistry.completed_sampleShared] at hactive
  rw [Registry.signs_iff, SharedRegistry.keys_sampleShared, hactive]
  rintro ⟨pair, hmem, hkid⟩
  rw [List.mem_singleton.1 hmem] at hkid
  exact absurd hkid (by decide)

/-- The views agree also when the registry cannot sign, and no pair is found under the active key id then. -/
theorem views_of_reached_sample : Reached (sampleSource Authority.sampleKid) "j" sampleReported ∧
    sampleReported.shared.current.activeKid ∉ sampleReported.shared.current.kids := by
  obtain ⟨hcoherent, _⟩ := views_of_reached reached_sampleReported
  refine ⟨reached_sampleReported, fun hmem => ?_⟩
  have hsigns := hcoherent.signs.2 hmem
  rw [shared_sampleReported] at hsigns
  exact not_signs_sampleShared hsigns

end ReportedRegistry

end TokenAuthority
