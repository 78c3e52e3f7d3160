import TokenAuthority.Proofs.Token.Verification

/-!
# Loaded key sets

A source is loaded as a whole or not at all: every entry holds a key and no key id is repeated, or the first entry of
which this is not so is reported. A key set that is loaded holds the pair of each entry under the entry's key id, and
nothing else. Main statements: `KeySet.load_eq_ok_iff`, `KeySet.load_eq_error_iff`, `KeySet.holdsEntries_of_load`.
-/

namespace TokenAuthority

variable {entry : KeyEntry} {entries earlier : List KeyEntry} {pair : KeyPair} {fault : MaterialFault}

theorem KeyPair.kid_of_ofEntry (h : KeyPair.ofEntry entry = .ok pair) : pair.kid = entry.kid := by
  unfold ofEntry at h
  split at h
  · cases h
  · split at h
    · cases h
      rfl
    · cases h

theorem KeyPair.ofEntry_of_ofPem? {kid pem : String} {key : Rsa.PrivateKey}
    (hkey : Rsa.PrivateKey.ofPem? pem = some key) (hcoprime : Nat.Coprime key.factor1 key.factor2) :
    KeyPair.ofEntry ⟨kid, pem⟩ = .ok ⟨kid, key, hcoprime⟩ := by
  rw [ofEntry, hkey]
  exact dif_pos hcoprime

/-! ## What can be loaded -/

namespace KeyEntry

/-- Entries that can be loaded together: each holds a key, and their key ids are distinct. -/
structure Loadable (entries : List KeyEntry) : Prop where
  parsed : ∀ entry ∈ entries, ∃ pair, KeyPair.ofEntry entry = .ok pair
  distinct : (entries.map kid).Nodup

/-- What is wrong with an entry that comes after others: it holds no key, or it holds one under a key id of theirs. -/
inductive Offence (earlier : List KeyEntry) (entry : KeyEntry) : MaterialFault → Prop
  | unparsed {fault : MaterialFault} (hfault : KeyPair.ofEntry entry = .error fault) : Offence earlier entry fault
  | repeated {pair : KeyPair} (hpair : KeyPair.ofEntry entry = .ok pair) (hkid : entry.kid ∈ earlier.map kid) :
      Offence earlier entry .duplicate

theorem loadable_nil : Loadable [] := ⟨by simp, by simp⟩

theorem nodup_kids_append_singleton_iff : ((earlier ++ [entry]).map kid).Nodup ↔
    entry.kid ∉ earlier.map kid ∧ (earlier.map kid).Nodup := by
  rw [List.map_append, List.map_singleton, List.nodup_append_comm, List.singleton_append, List.nodup_cons]

theorem loadable_append_singleton_iff : Loadable (earlier ++ [entry]) ↔
    Loadable earlier ∧ (∃ pair, KeyPair.ofEntry entry = .ok pair) ∧ entry.kid ∉ earlier.map kid := by
  constructor
  · rintro ⟨hparsed, hdistinct⟩
    obtain ⟨hkid, hdistinct⟩ := nodup_kids_append_singleton_iff.1 hdistinct
    exact ⟨⟨fun e he => hparsed e (by simp [he]), hdistinct⟩, hparsed entry (by simp), hkid⟩
  · rintro ⟨⟨hparsed, hdistinct⟩, hentry, hkid⟩
    refine ⟨fun e he => ?_, nodup_kids_append_singleton_iff.2 ⟨hkid, hdistinct⟩⟩
    rcases List.mem_append.1 he with he | he
    · exact hparsed e he
    · rw [List.mem_singleton.1 he]
      exact hentry

theorem Loadable.perm {entries' : List KeyEntry} (h : Loadable entries) (hperm : entries.Perm entries') :
    Loadable entries' :=
  ⟨fun entry hentry => h.parsed entry (hperm.mem_iff.2 hentry), (hperm.map kid).nodup_iff.1 h.distinct⟩

/-- After entries that can be loaded, an entry adds to them or is at fault. -/
theorem Loadable.append_singleton_or_offence (h : Loadable earlier) (entry : KeyEntry) :
    Loadable (earlier ++ [entry]) ∨ ∃ fault, Offence earlier entry fault := by
  cases hentry : KeyPair.ofEntry entry with
  | error fault => exact .inr ⟨fault, .unparsed hentry⟩
  | ok pair =>
      by_cases hkid : entry.kid ∈ earlier.map kid
      · exact .inr ⟨.duplicate, .repeated hentry hkid⟩
      · exact .inl (loadable_append_singleton_iff.2 ⟨h, ⟨pair, hentry⟩, hkid⟩)

/-- Entries that cannot be loaded together have a first one that is at fault. -/
theorem loadable_or_offence (entries : List KeyEntry) : Loadable entries ∨ ∃ earlier entry later fault,
    entries = earlier ++ entry :: later ∧ Loadable earlier ∧ Offence earlier entry fault := by
  induction entries using List.reverseRecOn with
  | nil => exact .inl loadable_nil
  | append_singleton entries last ih =>
      rcases ih with hloadable | ⟨earlier, entry, later, fault, rfl, hearlier, hfault⟩
      · rcases hloadable.append_singleton_or_offence last with hloadable' | ⟨fault, hfault⟩
        · exact .inl hloadable'
        · exact .inr ⟨entries, last, [], fault, rfl, hloadable, hfault⟩
      · exact .inr ⟨earlier, entry, later ++ [last], fault, by simp, hearlier, hfault⟩

end KeyEntry

/-! ## Entry by entry -/

namespace KeySet

open KeyEntry (Loadable Offence)

variable {keys after : KeySet} {error : KeyError} {kid : String}

/-- A key set that holds the pairs that some entries are read as, one for each, and no other. -/
def Mirrors (keys : KeySet) (entries : List KeyEntry) : Prop :=
  (keys.pairs.map Except.ok).Perm (entries.map KeyPair.ofEntry)

namespace Mirrors

variable (h : keys.Mirrors entries)
include h

theorem mem_iff : pair ∈ keys.pairs ↔ ∃ entry ∈ entries, KeyPair.ofEntry entry = .ok pair := by
  rw [← List.mem_map, ← List.Perm.mem_iff h]
  simp

theorem parsed (hentry : entry ∈ entries) : ∃ pair ∈ keys.pairs, KeyPair.ofEntry entry = .ok pair := by
  obtain ⟨pair, hpair, heq⟩ := List.mem_map.1 ((List.Perm.mem_iff h).2 (List.mem_map_of_mem hentry))
  exact ⟨pair, hpair, heq.symm⟩

theorem exists_kid_iff : (∃ pair ∈ keys.pairs, pair.kid = kid) ↔ kid ∈ entries.map KeyEntry.kid := by
  rw [List.mem_map]
  constructor
  · rintro ⟨pair, hpair, rfl⟩
    obtain ⟨entry, hentry, hread⟩ := h.mem_iff.1 hpair
    exact ⟨entry, hentry, (KeyPair.kid_of_ofEntry hread).symm⟩
  · rintro ⟨entry, hentry, rfl⟩
    obtain ⟨pair, hpair, hread⟩ := h.parsed hentry
    exact ⟨pair, hpair, KeyPair.kid_of_ofEntry hread⟩

theorem find?_eq_some_iff :
    keys.find? kid = some pair ↔ ∃ entry ∈ entries, entry.kid = kid ∧ KeyPair.ofEntry entry = .ok pair := by
  rw [KeySet.find?_eq_some_iff, h.mem_iff]
  constructor
  · rintro ⟨⟨entry, hentry, hread⟩, hkid⟩
    exact ⟨entry, hentry, (KeyPair.kid_of_ofEntry hread).symm.trans hkid, hread⟩
  · rintro ⟨entry, hentry, hkid, hread⟩
    exact ⟨⟨entry, hentry, hread⟩, (KeyPair.kid_of_ofEntry hread).trans hkid⟩

end Mirrors

theorem insert?_of_mem (h : ∃ other ∈ keys.pairs, other.kid = pair.kid) : keys.insert? pair = none :=
  dif_pos (List.mem_map.2 h)

theorem insert?_of_notMem (h : ¬ ∃ other ∈ keys.pairs, other.kid = pair.kid) :
    ∃ after, keys.insert? pair = some after ∧ after.pairs = pair :: keys.pairs :=
  ⟨_, dif_neg fun hmem => h (List.mem_map.1 hmem), rfl⟩

/-- An entry that adds to those before it puts its pair into their key set. -/
theorem Mirrors.addEntry (h : keys.Mirrors earlier) (hread : KeyPair.ofEntry entry = .ok pair)
    (hkid : entry.kid ∉ earlier.map KeyEntry.kid) :
    ∃ after, keys.addEntry entry = .ok after ∧ after.Mirrors (earlier ++ [entry]) := by
  rw [← KeyPair.kid_of_ofEntry hread, ← h.exists_kid_iff] at hkid
  obtain ⟨after, hinsert, hpairs⟩ := insert?_of_notMem hkid
  refine ⟨after, by simp only [KeySet.addEntry, hread, hinsert], ?_⟩
  rw [Mirrors, hpairs, List.map_cons, List.map_append, List.map_singleton, hread]
  exact (h.cons _).trans (List.perm_append_singleton _ _).symm

/-- An entry that is at fault after those of a key set is refused with its fault. -/
theorem Mirrors.addEntry_of_offence (h : keys.Mirrors earlier) (hfault : Offence earlier entry fault) :
    keys.addEntry entry = .error (.material entry.kid fault) := by
  cases hfault with
  | unparsed hread => simp only [KeySet.addEntry, hread]
  | repeated hread hkid =>
      rw [← KeyPair.kid_of_ofEntry hread, ← h.exists_kid_iff] at hkid
      simp only [KeySet.addEntry, hread, insert?_of_mem hkid]

theorem mirrors_empty : empty.Mirrors [] := .refl _

/-- Entries that can be loaded together leave a key set of their pairs. -/
theorem foldlM_of_loadable (h : Loadable entries) :
    ∃ keys, entries.foldlM addEntry empty = .ok keys ∧ keys.Mirrors entries := by
  induction entries using List.reverseRecOn with
  | nil => exact ⟨empty, rfl, mirrors_empty⟩
  | append_singleton entries last ih =>
      obtain ⟨hloadable, ⟨pair, hread⟩, hkid⟩ := KeyEntry.loadable_append_singleton_iff.1 h
      obtain ⟨keys, hkeys, hmirrors⟩ := ih hloadable
      obtain ⟨after, hadd, hafter⟩ := hmirrors.addEntry hread hkid
      refine ⟨after, ?_, hafter⟩
      rw [List.foldlM_append, Outcome.bind_eq_ok]
      exact ⟨keys, hkeys, Outcome.foldlM_cons_eq_ok.2 ⟨after, hadd, rfl⟩⟩

/-- What comes after an entry at fault makes no difference. -/
theorem foldlM_of_offence {later : List KeyEntry} (h : Loadable earlier) (hfault : Offence earlier entry fault) :
    (earlier ++ entry :: later).foldlM addEntry empty = .error (.material entry.kid fault) := by
  obtain ⟨keys, hkeys, hmirrors⟩ := foldlM_of_loadable h
  rw [List.foldlM_append, hkeys]
  simp only [bind, Except.bind, List.foldlM_cons, hmirrors.addEntry_of_offence hfault]

/-! ## Whole sources -/

theorem load_of_ne_nil (h : entries ≠ []) : load (.ok entries) = entries.foldlM addEntry empty := by
  cases entries with
  | nil => exact absurd rfl h
  | cons entry entries => rfl

theorem load_of_loadable (hne : entries ≠ []) (h : Loadable entries) :
    ∃ keys, load (.ok entries) = .ok keys ∧ keys.Mirrors entries := by
  rw [load_of_ne_nil hne]
  exact foldlM_of_loadable h

/-- What a source is refused with: why it cannot be read, that it has no entry, or what is wrong with the first entry
at fault. -/
inductive Refusal : KeyReading → KeyError → Prop
  | source {fault : SourceFault} : Refusal (.error fault) (.source fault)
  | noKeys : Refusal (.ok []) .noKeys
  | material {earlier later : List KeyEntry} {entry : KeyEntry} {fault : MaterialFault} (hearlier : Loadable earlier)
      (hfault : Offence earlier entry fault) :
      Refusal (.ok (earlier ++ entry :: later)) (.material entry.kid fault)

theorem Refusal.load_eq {reading : KeyReading} (h : Refusal reading error) : load reading = .error error := by
  cases h with
  | source => rfl
  | noKeys => rfl
  | material hearlier hfault =>
      rw [load_of_ne_nil (by simp)]
      exact foldlM_of_offence hearlier hfault

/-- A source is loaded, with the pairs of its entries, or refused. -/
theorem load_cases (reading : KeyReading) :
    (∃ entries keys, reading = .ok entries ∧ entries ≠ [] ∧ Loadable entries ∧ load reading = .ok keys ∧
      keys.Mirrors entries) ∨ ∃ error, Refusal reading error := by
  cases reading with
  | error fault => exact .inr ⟨_, .source⟩
  | ok entries =>
      by_cases hne : entries = []
      · subst hne
        exact .inr ⟨_, .noKeys⟩
      · rcases KeyEntry.loadable_or_offence entries with
          hloadable | ⟨earlier, entry, later, fault, rfl, hearlier, hfault⟩
        · obtain ⟨keys, hload, hmirrors⟩ := load_of_loadable hne hloadable
          exact .inl ⟨entries, keys, rfl, hne, hloadable, hload, hmirrors⟩
        · exact .inr ⟨_, .material hearlier hfault⟩

theorem load_eq_error_iff {reading : KeyReading} : load reading = .error error ↔ Refusal reading error := by
  constructor
  · intro h
    rcases load_cases reading with ⟨_, keys, _, _, _, hload, _⟩ | ⟨error', hrefusal⟩
    · rw [h] at hload
      cases hload
    · rw [hrefusal.load_eq] at h
      cases h
      exact hrefusal
  · exact Refusal.load_eq

theorem mirrors_of_load {reading : KeyReading} (h : load reading = .ok keys) :
    ∃ entries, reading = .ok entries ∧ entries ≠ [] ∧ Loadable entries ∧ keys.Mirrors entries := by
  rcases load_cases reading with ⟨entries, keys', hreading, hne, hloadable, hload, hmirrors⟩ | ⟨error, hrefusal⟩
  · rw [hload] at h
    cases h
    exact ⟨entries, hreading, hne, hloadable, hmirrors⟩
  · rw [hrefusal.load_eq] at h
    cases h

theorem load_eq_ok_iff {reading : KeyReading} :
    (∃ keys, load reading = .ok keys) ↔ ∃ entries, reading = .ok entries ∧ entries ≠ [] ∧ Loadable entries := by
  constructor
  · rintro ⟨keys, hload⟩
    obtain ⟨entries, hreading, hne, hloadable, _⟩ := mirrors_of_load hload
    exact ⟨entries, hreading, hne, hloadable⟩
  · rintro ⟨entries, rfl, hne, hloadable⟩
    obtain ⟨keys, hload, _⟩ := load_of_loadable hne hloadable
    exact ⟨keys, hload⟩

/-- A key set that holds just the pairs of some entries, each under the entry's key id. -/
structure HoldsEntries (keys : KeySet) (entries : List KeyEntry) : Prop where
  nonempty : entries ≠ []
  found : ∀ entry ∈ entries, ∃ pair,
    KeyPair.ofEntry entry = .ok pair ∧ pair.kid = entry.kid ∧ keys.find? entry.kid = some pair
  origin : ∀ pair ∈ keys.pairs, ∃ entry ∈ entries, KeyPair.ofEntry entry = .ok pair

theorem holdsEntries_of_load {reading : KeyReading} (h : load reading = .ok keys) :
    ∃ entries, reading = .ok entries ∧ keys.HoldsEntries entries := by
  obtain ⟨entries, hreading, hne, _, hmirrors⟩ := mirrors_of_load h
  refine ⟨entries, hreading, hne, fun entry hentry => ?_, fun pair hpair => hmirrors.mem_iff.1 hpair⟩
  obtain ⟨pair, _, hread⟩ := hmirrors.parsed hentry
  exact ⟨pair, hread, KeyPair.kid_of_ofEntry hread, hmirrors.find?_eq_some_iff.2 ⟨entry, hentry, rfl, hread⟩⟩

theorem HoldsEntries.pairs_ne_nil (h : keys.HoldsEntries entries) : keys.pairs ≠ [] := by
  obtain ⟨entry, hentry⟩ := List.exists_mem_of_ne_nil _ h.nonempty
  obtain ⟨pair, _, _, hfind⟩ := h.found entry hentry
  exact List.ne_nil_of_mem (KeySet.find?_eq_some_iff.1 hfind).1

end KeySet

end TokenAuthority
