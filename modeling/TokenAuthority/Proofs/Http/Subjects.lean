import TokenAuthority.Proofs.Http.Checks
import TokenAuthority.Proofs.Identity.Spellings

/-!
# How subjects are named

A user is named by the same texts in a path, in claims and in the body of a check, and each text names the same user in
all of them. Main statement: `Http.subjects_named_alike`.
-/

namespace TokenAuthority

open Json (Document Source Value)

/-! ## Ids in JSON -/

theorem UserId.decodeWhole_eq_ok_iff {source : Source} {s : String} {id : UserId} (h : source.Spells (.text (some s))) :
    Json.decodeWhole decoder source = .ok id ↔ ofText s = .ok id := by
  have hcomplete : ∀ v id, decoder v = .ok id → v.isComplete = true := by
    intro v id hdecode
    obtain ⟨_, rfl, _⟩ := decoder_eq_ok_iff.1 hdecode
    rfl
  rw [Json.decodeWhole_eq_ok_iff_of_complete hcomplete]
  constructor
  · rintro ⟨v, hspells, hdecode⟩
    obtain ⟨s', rfl, hread⟩ := decoder_eq_ok_iff.1 hdecode
    cases h.eq hspells
    exact hread
  · intro hread
    exact ⟨_, h, decoder_eq_ok_iff.2 ⟨s, rfl, hread⟩⟩

theorem UserId.optional_eq_ok_some_iff {v : Value} {id : UserId} :
    Json.Decoder.optional decoder v = .ok (some id) ↔ ∃ s, v = .text (some s) ∧ ofText s = .ok id := by
  by_cases hnull : v = .null
  · simp [hnull, Json.Decoder.optional]
  · rw [Json.Decoder.optional_of_ne_null hnull, Outcome.map_eq_ok]
    simp [decoder_eq_ok_iff]

theorem Claims.exists_subject_of_decoder {v : Value} {claims : Claims} (h : decoder v = .ok claims) :
    ∃ s, Json.Record.member? slots "sub" v = some (.text (some s)) ∧ UserId.ofText s = .ok claims.subject := by
  obtain ⟨_, member, hsaid, hmember⟩ := decoder_eq_ok_iff_members.1 h
  obtain ⟨s, hsub, hread⟩ := hsaid.subject
  exact ⟨s, hsub ▸ hmember "sub" (by decide), hread⟩

namespace Http

theorem Endpoint.Check.subject_eq_some_iff {v : Value} {check : Endpoint.Check} (h : decoder v = .ok check)
    {id : UserId} : check.subject = some id ↔
      ∃ s, Json.Record.member? slots "user_id" v = some (.text (some s)) ∧ UserId.ofText s = .ok id := by
  obtain ⟨draft, hread, h⟩ := Outcome.bind_eq_ok.1 h
  obtain ⟨_, _, h⟩ := Outcome.bind_eq_ok.1 h
  obtain ⟨_, _, h⟩ := Outcome.bind_eq_ok.1 h
  cases h
  rw [Option.join_eq_some_iff, Json.Record.get_eq_some_iff keeps_subject apart_slots.nodup (by decide) rfl hread]
  simp only [UserId.optional_eq_ok_some_iff]
  constructor
  · rintro ⟨_, hmember, s, rfl, hid⟩
    exact ⟨s, hmember, hid⟩
  · rintro ⟨s, hmember, hid⟩
    exact ⟨_, hmember, s, rfl, hid⟩

/-! ## Subjects of requests -/

section

variable {users : UserStore} {s s' : String} {id : UserId} {user : User} {claims : Claims} {identity : Identity}
  {rule : Rule}

theorem Guard.ofText_of_loadSubject (h : loadSubject users s = .ok user) : UserId.ofText s = .ok user.id := by
  obtain ⟨id, hid, hfound⟩ := loadSubject_eq_ok_iff.1 h
  rw [hid, UserStore.id_of_find (UserStore.find_of_findInTime hfound)]

/-- A guard loads the same user for each text that names the same id. -/
theorem Guard.loadSubject_congr (h : UserId.ofText s = UserId.ofText s') :
    loadSubject users s = loadSubject users s' := by
  rw [loadSubject, h, loadSubject]

/-- Whom a guard lets through about a path meets the endpoint with the user whose id the path names. -/
theorem Guard.exists_subject_of_passes
    (h : ((Guard.subject rule).check users (some [("user_id", s)]) ⟨claims, none⟩).Passes identity) :
    ∃ user, identity = ⟨claims, some user⟩ ∧ UserId.ofText s = .ok user.id ∧ rule.Grants claims (some user.id) := by
  obtain ⟨user, hload, hidentity, hgrants⟩ := check_passes_iff.1 h
  exact ⟨user, hidentity, ofText_of_loadSubject hload, hgrants⟩

end

open UserId (ofText Spelling)

/-- A text is read as an id exactly if it is one of the four spellings, and two texts are read as the same id exactly if
they have the same digits but for the case of letters; an id is written as one of its own spellings. A string of JSON,
the subject of claims, the user of a check and a path are read alike, and the endpoint behind a guard serves the user
whose id the path names and whom the guard has decided about. -/
theorem subjects_named_alike :
    (∀ id : UserId, Spelling id.toText.toList id.digits ∧ ofText id.toText = .ok id) ∧
    (∀ s id, ofText s = .ok id ↔ ∃ ds, Spelling s.toList ds ∧ id.digits = ds.map Char.toLower) ∧
    (∀ s s' ds ds', Spelling s.toList ds → Spelling s'.toList ds' →
      (∃ id, ofText s = .ok id) ∧ (ofText s = ofText s' ↔ ds.map Char.toLower = ds'.map Char.toLower)) ∧
    (∀ source s, source.Spells (.text (some s)) → ∀ id,
      Json.decodeWhole UserId.decoder source = .ok id ↔ ofText s = .ok id) ∧
    (∀ v claims, Claims.decoder v = .ok claims →
      ∃ s, Json.Record.member? Claims.slots "sub" v = some (.text (some s)) ∧ ofText s = .ok claims.subject) ∧
    (∀ v check id, Endpoint.Check.decoder v = .ok check → (check.subject = some id ↔
      ∃ s, Json.Record.member? Endpoint.Check.slots "user_id" v = some (.text (some s)) ∧ ofText s = .ok id)) ∧
    (∀ users s s', ofText s = ofText s' → Guard.loadSubject users s = Guard.loadSubject users s') ∧
    ∀ (rule : Rule) users s claims identity,
      ((Guard.subject rule).check users (some [("user_id", s)]) ⟨claims, none⟩).Passes identity →
        ∃ user, ofText s = .ok user.id ∧ rule.Grants claims (some user.id) ∧
          ∀ service moment request,
            (CallerEndpoint.showUser.run service moment request identity).2.reply = .user user ∧
            (CallerEndpoint.mintToken.run service moment request identity).2.reply =
              (Endpoint.issueToken service.authority service.registry service.registry user moment.now).reply := by
  refine ⟨fun id => ⟨UserId.spelling_toText id, UserId.ofText_toText id⟩, fun s id => UserId.ofText_eq_ok_iff, ?_,
    ?_, fun v claims => Claims.exists_subject_of_decoder, fun v check id h => Endpoint.Check.subject_eq_some_iff h,
    fun users s s' => Guard.loadSubject_congr, ?_⟩
  · intro s s' ds ds' h h'
    obtain ⟨id, hid, _⟩ := UserId.exists_ofText h
    exact ⟨⟨id, hid⟩, UserId.ofText_eq_iff h h'⟩
  · intro source s h id
    exact UserId.decodeWhole_eq_ok_iff h
  · intro rule users s claims identity h
    obtain ⟨user, rfl, hid, hgrants⟩ := Guard.exists_subject_of_passes h
    exact ⟨user, hid, hgrants, fun service moment request => ⟨rfl, rfl⟩⟩

/-! ## A sample -/

/-- A spelling of an id in letters of either case. -/
def sampleSpelling : String := "UrN:uuid:0000000A-bCdE-0000-0000-00000000002a"

theorem spelling_sampleSpelling : Spelling sampleSpelling.toList "0000000AbCdE0000000000000000002a".toList := by
  have hgroups : UserId.Groups "0000000A-bCdE-0000-0000-00000000002a".toList
      "0000000AbCdE0000000000000000002a".toList :=
    @UserId.Groups.mk "0000000A".toList "bCdE".toList "0000".toList "0000".toList "00000000002a".toList
      rfl rfl rfl rfl rfl
  exact @Spelling.urn "UrN:uuid:".toList _ _ (by decide) hgroups (by decide)

theorem spelling_bare : Spelling "0000000aBcDe0000000000000000002A".toList "0000000aBcDe0000000000000000002A".toList :=
  .bare (by decide)

/-- The groups of an id in a string of JSON and its digits in a path, in other letters, name the same user; white space
in front of them names nobody. -/
theorem subjects_named_alike_sample : ∃ id : UserId, ofText "0000000aBcDe0000000000000000002A" = .ok id ∧
    Json.decodeWhole UserId.decoder (.ofChars (Document.text sampleSpelling).chars) = .ok id ∧
    (∀ users, Guard.loadSubject users "0000000aBcDe0000000000000000002A" = Guard.loadSubject users sampleSpelling) ∧
    ∀ id, ofText " 0000000aBcDe0000000000000000002A" ≠ .ok id := by
  obtain ⟨_, _, hsame, hjson, _, _, hloaded, _⟩ := subjects_named_alike
  obtain ⟨⟨id, hid⟩, hagree⟩ := hsame _ _ _ _ spelling_bare spelling_sampleSpelling
  have halike := hagree.2 (by decide)
  refine ⟨id, hid, ?_, fun users => hloaded users _ _ halike, ?_⟩
  · exact (hjson _ _ (Source.spells_chars (.text sampleSpelling)) id).2 (halike ▸ hid)
  · have hblank : (ofText " 0000000aBcDe0000000000000000002A").toOption = none := by decide +kernel
    intro id h
    rw [h] at hblank
    cases hblank

end Http

end TokenAuthority
