import TokenAuthority.Proofs.Encoding.Exact
import TokenAuthority.Proofs.Startup

/-!
# What sources give

A source is loaded as a whole or refused for the first entry at fault. A directory gives its key files in the order of
their key ids, however the host lists them, so the entry at fault is the one with the least key id, and no key id is
repeated. Main statements: `KeySet.load_all_or_nothing`, `Directory.read_key_files`.
-/

namespace TokenAuthority

/-! ## All or nothing -/

namespace KeySet

open KeyEntry (Loadable Offence)

variable {keys : KeySet} {entries entries' : List KeyEntry}

/-- The order of the entries makes no difference to what is found. -/
theorem exists_load_of_perm (hne : entries ≠ []) (h : Loadable entries) (hmirrors : keys.Mirrors entries)
    (hperm : entries.Perm entries') :
    ∃ keys', load (.ok entries') = .ok keys' ∧ ∀ kid, keys'.find? kid = keys.find? kid := by
  have hne' : entries' ≠ [] := fun hnil => hne (hnil ▸ hperm).eq_nil
  obtain ⟨keys', hload, hmirrors'⟩ := load_of_loadable hne' (h.perm hperm)
  refine ⟨keys', hload, fun kid => Option.ext fun pair => ?_⟩
  rw [hmirrors'.find?_eq_some_iff, hmirrors.find?_eq_some_iff]
  simp only [hperm.mem_iff]

/-- A source is loaded if and only if it can be read, has entries, and these can be loaded together. Then the key set
has one pair for each entry, the one that its material is read as, under its key id, in whatever order the entries are.
Otherwise the source is refused with its own fault, for having no entries, or for the first entry at fault. -/
theorem load_all_or_nothing (reading : KeyReading) :
    ((∃ keys, load reading = .ok keys) ↔ ∃ entries, reading = .ok entries ∧ entries ≠ [] ∧ Loadable entries) ∧
    (∀ keys, load reading = .ok keys → ∃ entries, reading = .ok entries ∧ keys.Mirrors entries ∧
      (∀ kid pair, keys.find? kid = some pair ↔
        ∃ entry ∈ entries, entry.kid = kid ∧ KeyPair.ofEntry entry = .ok pair) ∧
      ∀ entries', entries.Perm entries' →
        ∃ keys', load (.ok entries') = .ok keys' ∧ ∀ kid, keys'.find? kid = keys.find? kid) ∧
    (∀ error, load reading = .error error ↔ Refusal reading error) ∧
    MaterialFault.duplicate.message = "duplicate kid" := by
  refine ⟨load_eq_ok_iff, fun keys hload => ?_, fun error => load_eq_error_iff, rfl⟩
  obtain ⟨entries, hreading, hne, hloadable, hmirrors⟩ := mirrors_of_load hload
  exact ⟨entries, hreading, hmirrors, fun kid pair => hmirrors.find?_eq_some_iff,
    fun entries' hperm => exists_load_of_perm hne hloadable hmirrors hperm⟩

theorem ofEntry_empty (kid : String) : KeyPair.ofEntry ⟨kid, ""⟩ = .error .unreadable := by
  have hkey : Rsa.PrivateKey.ofPem? "" = none := by decide +kernel
  rw [KeyPair.ofEntry, hkey]

theorem exists_ofEntry_sample (kid : String) : ∃ pem pair, KeyPair.ofEntry ⟨kid, pem⟩ = .ok pair :=
  ⟨_, _, KeyPair.ofEntry_of_ofPem? Startup.ofPem?_samplePem Authority.sampleKey_coprime⟩

/-- Of a key id that is there twice and an entry without a key the first is reported, from either end. -/
theorem load_all_or_nothing_sample : ∃ pem,
    load (.ok [⟨"k", pem⟩, ⟨"k", pem⟩, ⟨"j", ""⟩]) = .error (.material "k" .duplicate) ∧
    load (.ok [⟨"j", ""⟩, ⟨"k", pem⟩, ⟨"k", pem⟩]) = .error (.material "j" .unreadable) := by
  obtain ⟨pem, pair, hread⟩ := exists_ofEntry_sample "k"
  obtain ⟨_, _, hrepeated, _⟩ := load_all_or_nothing (.ok ([⟨"k", pem⟩] ++ ⟨"k", pem⟩ :: [⟨"j", ""⟩]))
  obtain ⟨_, _, hunread, _⟩ := load_all_or_nothing (.ok ([] ++ ⟨"j", ""⟩ :: [⟨"k", pem⟩, ⟨"k", pem⟩]))
  have hloadable : Loadable [⟨"k", pem⟩] := ⟨by simp [hread], by simp⟩
  exact ⟨pem, (hrepeated _).2 (.material hloadable (.repeated hread (by simp))),
    (hunread _).2 (.material KeyEntry.loadable_nil (.unparsed (ofEntry_empty "j")))⟩

end KeySet

/-! ## Directories -/

namespace Directory

variable {entries : List Entry} {keys : List KeyEntry} {kid : String} {contents : List UInt8} {path : String}

/-- A regular file of a directory that is named after a key id. -/
def HasKeyFile (entries : List Entry) (kid : String) (contents : List UInt8) : Prop :=
  kid ≠ "" ∧ ⟨kid ++ ".pem", some contents⟩ ∈ entries

/-- The key files of a directory, in the order of the bytes of their key ids. -/
structure Gives (entries : List Entry) (keys : List KeyEntry) : Prop where
  ascending : keys.Pairwise fun a b => Text.Utf8.bytes a.kid < Text.Utf8.bytes b.kid
  genuine : ∀ key ∈ keys, HasKeyFile entries key.kid (Text.Utf8.bytes key.pem)
  complete : ∀ kid contents, HasKeyFile entries kid contents →
    ∃ key ∈ keys, key.kid = kid ∧ Text.Utf8.bytes key.pem = contents

/-- Every key file of a directory is a text. -/
def AllTexts (entries : List Entry) : Prop :=
  ∀ kid contents, HasKeyFile entries kid contents → ∃ text, contents = Text.Utf8.bytes text

/-- What is wrong with the key file whose key id is the least of those that hold no key. -/
structure LeastAtFault (entries : List Entry) (kid : String) (fault : MaterialFault) : Prop where
  texts : AllTexts entries
  malformed : ∃ pem, HasKeyFile entries kid (Text.Utf8.bytes pem) ∧ KeyPair.ofEntry ⟨kid, pem⟩ = .error fault
  least : ∀ kid' pem, HasKeyFile entries kid' (Text.Utf8.bytes pem) → Text.Utf8.bytes kid' < Text.Utf8.bytes kid →
    ∃ pair, KeyPair.ofEntry ⟨kid', pem⟩ = .ok pair

/-! ### File names -/

theorem kid?_eq_some_iff {name : String} : kid? name = some kid ↔ kid ≠ "" ∧ name = kid ++ ".pem" := by
  have hextension : ".pem".toList = extension := by decide
  constructor
  · intro h
    simp only [kid?] at h
    split at h
    · rename_i hname
      cases h
      refine ⟨fun hempty => hname.1 (by simpa using hempty), String.toList_injective ?_⟩
      rw [String.toList_append, String.toList_ofList, hextension]
      exact hname.2
    · cases h
  · rintro ⟨hne, rfl⟩
    have hlist : (kid ++ ".pem").toList = kid.toList ++ extension := by rw [String.toList_append, hextension]
    have hstem : (kid.toList ++ extension).take ((kid.toList ++ extension).length - extension.length) = kid.toList := by
      rw [List.length_append, Nat.add_sub_cancel, List.take_left]
    have hstem' : kid.toList ≠ [] := by simpa using hne
    simp only [kid?, hlist, hstem, String.ofList_toList]
    exact if_pos ⟨hstem', trivial⟩

theorem keyFile?_eq_some_iff {entry : Entry} :
    keyFile? entry = some (kid, contents) ↔ kid ≠ "" ∧ entry = ⟨kid ++ ".pem", some contents⟩ := by
  obtain ⟨name, found⟩ := entry
  simp only [keyFile?, Option.bind_eq_bind, Option.bind_eq_some_iff, kid?_eq_some_iff, Option.some.injEq,
    Prod.mk.injEq, Entry.mk.injEq]
  constructor
  · rintro ⟨_, ⟨hne, hname⟩, _, hfound, rfl, rfl⟩
    exact ⟨hne, hname, hfound⟩
  · rintro ⟨hne, hname, hfound⟩
    exact ⟨kid, ⟨hne, hname⟩, contents, hfound, rfl, rfl⟩

theorem mem_keyFiles_iff : (kid, contents) ∈ entries.filterMap keyFile? ↔ HasKeyFile entries kid contents := by
  rw [List.mem_filterMap, HasKeyFile]
  constructor
  · rintro ⟨entry, hentry, hfile⟩
    obtain ⟨hne, rfl⟩ := keyFile?_eq_some_iff.1 hfile
    exact ⟨hne, hentry⟩
  · rintro ⟨hne, hentry⟩
    exact ⟨_, hentry, keyFile?_eq_some_iff.2 ⟨hne, rfl⟩⟩

/-- A key id stands for one file name, so no two files have it. -/
theorem nodup_keyFiles (hdistinct : (entries.map Entry.name).Nodup) :
    ((entries.filterMap keyFile?).map Prod.fst).Nodup := by
  rw [List.Nodup, List.pairwise_map] at hdistinct ⊢
  rw [List.pairwise_filterMap]
  refine hdistinct.imp fun {a b} hname => ?_
  rintro ⟨kid, contents⟩ ha ⟨kid', contents'⟩ hb rfl
  obtain ⟨_, rfl⟩ := keyFile?_eq_some_iff.1 ha
  obtain ⟨_, rfl⟩ := keyFile?_eq_some_iff.1 hb
  exact hname rfl

/-! ### Readings -/

theorem entry?_eq_some_iff {file : String × List UInt8} {key : KeyEntry} :
    entry? file = some key ↔ file = (key.kid, Text.Utf8.bytes key.pem) := by
  obtain ⟨kid, contents⟩ := file
  obtain ⟨kid', pem⟩ := key
  simp only [Option.map_eq_some_iff, entry?, Text.Utf8.text?_eq_some_iff, Prod.mk.injEq, KeyEntry.mk.injEq]
  constructor
  · rintro ⟨_, rfl, rfl, rfl⟩
    exact ⟨rfl, rfl⟩
  · rintro ⟨rfl, rfl⟩
    exact ⟨pem, rfl, rfl, rfl⟩

/-- A directory is read as its key files, sorted, when all of them are texts. -/
theorem read_eq_ok {found : List KeyEntry} (h : (entries.filterMap keyFile?).mapM entry? = some found) :
    read path (.ok entries) = .ok (found.mergeSort fun a b => a.kid ≤ b.kid) := by
  simp only [read, h]

theorem read_of_none (h : (entries.filterMap keyFile?).mapM entry? = none) :
    read path (.ok entries) = .error (.notText path) := by
  simp only [read, h]

/-! ### The key files in order -/

theorem Gives.mem_iff (h : Gives entries keys) {key : KeyEntry} :
    key ∈ keys ↔ HasKeyFile entries key.kid (Text.Utf8.bytes key.pem) := by
  constructor
  · exact h.genuine key
  · intro hfile
    obtain ⟨found, hfound, hkid, hpem⟩ := h.complete _ _ hfile
    obtain rfl : found = key := by
      cases found
      cases key
      exact congrArg₂ KeyEntry.mk hkid (Text.Utf8.bytes_inj hpem)
    exact hfound

theorem Gives.pairwise_lt (h : Gives entries keys) : keys.Pairwise fun a b => a.kid < b.kid :=
  h.ascending.imp Text.Utf8.bytes_lt_bytes_iff.1

/-- The key files of a directory can be given in one way only. -/
theorem Gives.unique {keys' : List KeyEntry} (h : Gives entries keys) (h' : Gives entries keys') : keys = keys' := by
  apply Keyed.eq_of_ascending h.pairwise_lt h'.pairwise_lt
  intro key
  rw [h.mem_iff, h'.mem_iff]

theorem Gives.perm {entries' : List Entry} (h : Gives entries keys) (hperm : entries.Perm entries') :
    Gives entries' keys where
  ascending := h.ascending
  genuine key hkey := ⟨(h.genuine key hkey).1, hperm.mem_iff.1 (h.genuine key hkey).2⟩
  complete kid contents hfile := h.complete kid contents ⟨hfile.1, hperm.mem_iff.2 hfile.2⟩

/-- Key files of texts are given by their entries in order. -/
theorem gives_of_mapM {found : List KeyEntry} (hdistinct : (entries.map Entry.name).Nodup)
    (h : (entries.filterMap keyFile?).mapM entry? = some found) :
    Gives entries (found.mergeSort fun a b => a.kid ≤ b.kid) := by
  have hfiles : entries.filterMap keyFile? = found.map fun key => (key.kid, Text.Utf8.bytes key.pem) :=
    (Outcome.map_eq_of_mapM (fun file key hentry => (entry?_eq_some_iff.1 hentry).symm) h).symm
  have hperm : (found.mergeSort fun a b => a.kid ≤ b.kid).Perm found := List.mergeSort_perm _ _
  constructor
  · have hkids : (found.map KeyEntry.kid).Nodup := by
      simpa [hfiles, Function.comp_def] using nodup_keyFiles hdistinct
    exact (Keyed.ascending_mergeSort hkids).imp Text.Utf8.bytes_lt_bytes
  · intro key hkey
    rw [← mem_keyFiles_iff, hfiles]
    exact List.mem_map_of_mem (hperm.mem_iff.1 hkey)
  · intro kid contents hfile
    rw [← mem_keyFiles_iff, hfiles] at hfile
    obtain ⟨key, hkey, heq⟩ := List.mem_map.1 hfile
    cases heq
    exact ⟨key, hperm.mem_iff.2 hkey, rfl, rfl⟩

theorem Gives.allTexts (h : Gives entries keys) : AllTexts entries := by
  intro kid contents hfile
  obtain ⟨key, _, _, rfl⟩ := h.complete kid contents hfile
  exact ⟨key.pem, rfl⟩

theorem mapM_entry?_eq_none_iff : (entries.filterMap keyFile?).mapM entry? = none ↔ ¬ AllTexts entries := by
  have hentry (kid : String) (contents : List UInt8) :
      entry? (kid, contents) = none ↔ ¬ ∃ text, contents = Text.Utf8.bytes text := by
    simp only [Option.eq_none_iff_forall_ne_some, Ne, entry?_eq_some_iff, Prod.mk.injEq, not_exists]
    exact ⟨fun h text htext => h ⟨kid, text⟩ ⟨rfl, htext⟩, fun h key hkey => h key.pem hkey.2⟩
  rw [Outcome.mapM_eq_none_iff, AllTexts]
  push Not
  constructor
  · rintro ⟨⟨kid, contents⟩, hfile, hnone⟩
    exact ⟨kid, contents, mem_keyFiles_iff.1 hfile, by simpa using (hentry kid contents).1 hnone⟩
  · rintro ⟨kid, contents, hfile, htexts⟩
    exact ⟨(kid, contents), mem_keyFiles_iff.2 hfile, (hentry kid contents).2 (by simpa using htexts)⟩

/-- A directory is read as its key files in order, or refused for one that is no text. -/
theorem read_cases (hdistinct : (entries.map Entry.name).Nodup) (path : String) :
    (∃ keys, read path (.ok entries) = .ok keys ∧ Gives entries keys) ∨
      read path (.ok entries) = .error (.notText path) ∧ ¬ AllTexts entries := by
  cases h : (entries.filterMap keyFile?).mapM entry? with
  | none => exact .inr ⟨read_of_none h, mapM_entry?_eq_none_iff.1 h⟩
  | some found => exact .inl ⟨_, read_eq_ok h, gives_of_mapM hdistinct h⟩

theorem read_eq_ok_iff (hdistinct : (entries.map Entry.name).Nodup) :
    read path (.ok entries) = .ok keys ↔ Gives entries keys := by
  rcases read_cases hdistinct path with ⟨keys', hread, hgives⟩ | ⟨hread, htexts⟩
  · rw [hread, Except.ok.injEq]
    exact ⟨fun h => h ▸ hgives, hgives.unique⟩
  · rw [hread]
    exact ⟨fun h => (nomatch h), fun h => absurd h.allTexts htexts⟩

theorem read_eq_error_iff (hdistinct : (entries.map Entry.name).Nodup) {fault : SourceFault} :
    read path (.ok entries) = .error fault ↔ fault = .notText path ∧ ¬ AllTexts entries := by
  rcases read_cases hdistinct path with ⟨keys, hread, hgives⟩ | ⟨hread, htexts⟩
  · rw [hread]
    exact ⟨fun h => (nomatch h), fun h => absurd hgives.allTexts h.2⟩
  · rw [hread, Except.error.injEq, eq_comm]
    exact ⟨fun h => ⟨h, htexts⟩, fun h => h.1⟩

theorem read_perm {entries' : List Entry} (hdistinct : (entries.map Entry.name).Nodup) (hperm : entries.Perm entries') :
    read path (.ok entries') = read path (.ok entries) := by
  have hdistinct' : (entries'.map Entry.name).Nodup := (hperm.map Entry.name).nodup_iff.1 hdistinct
  cases hread : read path (.ok entries) with
  | ok keys => exact (read_eq_ok_iff hdistinct').2 (((read_eq_ok_iff hdistinct).1 hread).perm hperm)
  | error fault =>
      obtain ⟨rfl, htexts⟩ := (read_eq_error_iff hdistinct).1 hread
      refine (read_eq_error_iff hdistinct').2 ⟨rfl, fun htexts' => htexts fun kid contents hfile => ?_⟩
      exact htexts' kid contents ⟨hfile.1, hperm.mem_iff.1 hfile.2⟩

/-! ### Loading a directory -/

/-- The key files before one of them are those with smaller key ids. -/
theorem Gives.mem_earlier_iff {earlier later : List KeyEntry} {entry key : KeyEntry}
    (h : Gives entries (earlier ++ entry :: later)) (hkey : key ∈ earlier ++ entry :: later) :
    key ∈ earlier ↔ key.kid < entry.kid := by
  obtain ⟨_, hlater, hlt⟩ := List.pairwise_append.1 h.pairwise_lt
  constructor
  · exact fun hmem => hlt key hmem entry List.mem_cons_self
  · intro hbefore
    rcases List.mem_append.1 hkey with hmem | hmem
    · exact hmem
    · rcases List.mem_cons.1 hmem with rfl | hmem
      · exact absurd hbefore (lt_irrefl _)
      · exact absurd hbefore ((List.pairwise_cons.1 hlater).1 key hmem).asymm

theorem Gives.loadable_earlier_iff {earlier later : List KeyEntry} {entry : KeyEntry}
    (h : Gives entries (earlier ++ entry :: later)) : KeyEntry.Loadable earlier ↔
      ∀ kid pem, HasKeyFile entries kid (Text.Utf8.bytes pem) → Text.Utf8.bytes kid < Text.Utf8.bytes entry.kid →
        ∃ pair, KeyPair.ofEntry ⟨kid, pem⟩ = .ok pair := by
  constructor
  · intro hloadable kid pem hfile hlt
    have hkey : (⟨kid, pem⟩ : KeyEntry) ∈ earlier ++ entry :: later := h.mem_iff.2 hfile
    exact hloadable.parsed _ ((h.mem_earlier_iff hkey).2 (Text.Utf8.bytes_lt_bytes_iff.1 hlt))
  · intro hparsed
    refine ⟨fun key hmem => ?_, ?_⟩
    · have hkey := List.mem_append_left (entry :: later) hmem
      exact hparsed key.kid key.pem (h.mem_iff.1 hkey) (Text.Utf8.bytes_lt_bytes ((h.mem_earlier_iff hkey).1 hmem))
    · exact List.pairwise_map.2 ((List.pairwise_append.1 h.pairwise_lt).1.imp fun hlt => hlt.ne)

/-- No key id of a directory is repeated, so what is wrong with an entry is its own. -/
theorem Gives.ofEntry_of_offence {earlier later : List KeyEntry} {entry : KeyEntry} {fault : MaterialFault}
    (h : Gives entries (earlier ++ entry :: later)) (hfault : KeyEntry.Offence earlier entry fault) :
    KeyPair.ofEntry entry = .error fault := by
  cases hfault with
  | unparsed hread => exact hread
  | repeated _ hkid =>
      obtain ⟨key, hkey, hkid⟩ := List.mem_map.1 hkid
      have hlt := (h.mem_earlier_iff (List.mem_append_left _ hkey)).1 hkey
      exact absurd hkid hlt.ne

theorem load_material_iff (hdistinct : (entries.map Entry.name).Nodup) {fault : MaterialFault} :
    KeySet.load (read path (.ok entries)) = .error (.material kid fault) ↔ LeastAtFault entries kid fault := by
  rw [KeySet.load_eq_error_iff]
  constructor
  · generalize hread : read path (.ok entries) = reading
    intro hrefusal
    cases hrefusal with
    | material hearlier hfault =>
        have hgives := (read_eq_ok_iff hdistinct).1 hread
        exact ⟨hgives.allTexts, ⟨_, hgives.genuine _ (by simp), hgives.ofEntry_of_offence hfault⟩,
          hgives.loadable_earlier_iff.1 hearlier⟩
  · rintro ⟨htexts, ⟨pem, hfile, hread⟩, hleast⟩
    rcases read_cases hdistinct path with ⟨keys, hkeys, hgives⟩ | ⟨_, hnot⟩
    · obtain ⟨earlier, later, rfl⟩ := List.append_of_mem (hgives.mem_iff.2 hfile : (⟨kid, pem⟩ : KeyEntry) ∈ keys)
      rw [hkeys]
      exact .material (hgives.loadable_earlier_iff.2 hleast) (.unparsed hread)
    · exact absurd htexts hnot

theorem ofEntry_ne_duplicate (entry : KeyEntry) : KeyPair.ofEntry entry ≠ .error .duplicate := by
  unfold KeyPair.ofEntry
  split
  · exact fun h => nomatch h
  · split <;> exact fun h => nomatch h

/-- A directory, whose file names are distinct, is read as its key files in the order of the bytes of their key ids,
when they are texts, and cannot be read otherwise or when it cannot be listed. In whatever order it is listed the
reading is the same, so that loading it never finds a key id twice and reports the malformed key file with the least
key id. -/
theorem read_key_files (hdistinct : (entries.map Entry.name).Nodup) (path : String) :
    (∀ keys, read path (.ok entries) = .ok keys ↔ Gives entries keys) ∧
    (∀ fault, read path (.ok entries) = .error fault ↔ fault = .notText path ∧ ¬ AllTexts entries) ∧
    (∀ fault, ∃ cause, read path (.error fault) = .error cause) ∧
    ∀ entries', entries.Perm entries' → read path (.ok entries') = read path (.ok entries) ∧
      (∀ kid, KeySet.load (read path (.ok entries')) ≠ .error (.material kid .duplicate)) ∧
      ∀ kid fault, KeySet.load (read path (.ok entries')) = .error (.material kid fault) ↔
        LeastAtFault entries kid fault := by
  refine ⟨fun keys => read_eq_ok_iff hdistinct, fun fault => read_eq_error_iff hdistinct, fun fault => ?_,
    fun entries' hperm => ?_⟩
  · cases fault <;> exact ⟨_, rfl⟩
  · rw [read_perm hdistinct hperm]
    refine ⟨rfl, fun kid hload => ?_, fun kid fault => load_material_iff hdistinct⟩
    obtain ⟨pem, _, hread⟩ := ((load_material_iff hdistinct).1 hload).malformed
    exact ofEntry_ne_duplicate _ hread

/-- Files with several dots in their names, with nothing before the extension and a directory named like a key file. -/
def sampleEntries : List Entry := [⟨"b.pem", some []⟩, ⟨".pem", some []⟩, ⟨"a.b.pem", some []⟩, ⟨"a.pem", none⟩]

theorem hasKeyFile_sampleEntries (h : HasKeyFile sampleEntries kid contents) :
    (kid = "b" ∨ kid = "a.b") ∧ contents = [] := by
  have hmem : (kid, contents) ∈ sampleEntries.filterMap keyFile? := mem_keyFiles_iff.2 h
  rw [show sampleEntries.filterMap keyFile? = [("b", []), ("a.b", [])] by decide] at hmem
  simpa [← or_and_right] using hmem

theorem leastAtFault_sampleEntries : LeastAtFault sampleEntries "a.b" .unreadable := by
  refine ⟨fun kid contents hfile => ⟨"", (hasKeyFile_sampleEntries hfile).2⟩,
    ⟨"", ⟨by decide, by decide⟩, KeySet.ofEntry_empty _⟩, fun kid pem hfile hlt => ?_⟩
  rcases (hasKeyFile_sampleEntries hfile).1 with rfl | rfl
  · exact absurd hlt (by decide)
  · exact absurd hlt (by decide)

theorem read_key_files_sample : (sampleEntries.map Entry.name).Nodup ∧
    KeySet.load (read "keys" (.ok sampleEntries)) = .error (.material "a.b" .unreadable) ∧
    KeySet.load (read "keys" (.ok sampleEntries.reverse)) = .error (.material "a.b" .unreadable) := by
  have hdistinct : (sampleEntries.map Entry.name).Nodup := by decide
  obtain ⟨_, _, _, hperm⟩ := read_key_files hdistinct "keys"
  obtain ⟨_, _, hload⟩ := hperm sampleEntries (.refl _)
  obtain ⟨_, _, hload'⟩ := hperm sampleEntries.reverse (List.reverse_perm _).symm
  exact ⟨hdistinct, (hload _ _).2 leastAtFault_sampleEntries, (hload' _ _).2 leastAtFault_sampleEntries⟩

end Directory

end TokenAuthority
