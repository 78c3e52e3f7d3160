import TokenAuthority.Proofs.Claims.Decoding
import TokenAuthority.Proofs.Time.Timestamps
import TokenAuthority.Users.Json

/-!
# Which texts are users

A text decodes to a user exactly if it spells a value that has each of the five members once. The time of creation is
the instant at which a clock with the offset of its timestamp shows what the timestamp says. The text that a user is
written as decodes to that user. Main statement: `User.decoding_round_trip`.
-/

namespace TokenAuthority

open Json

/-- Whether a value is a timestamp of an instant, on a clock ahead of UTC by some offset. -/
def Instant.Stamped (t : Instant) (v : Value) : Prop :=
  ∃ s offset, v = .text (some s) ∧ Timestamp.Spells (t.clock offset) offset s.toList ∧
    Timestamp.InReach (t.clock offset).date offset

theorem Timestamp.decoder_eq_ok_iff {t : Instant} {v : Value} :
    Decoder.parsed read? v = .ok t ↔ t.Stamped v := by
  simp only [Decoder.parsed_eq_ok_iff, read?_eq_some_iff, Instant.Stamped, exists_and_left]

namespace User

/-! ## Written users -/

/-- Written users read back. -/
theorem decoder_toDocument (user : User) : decoder user.toDocument.toValue = .ok user := by
  have hid := UserId.decoder_toDocument user.id
  have hroles := RoleSet.decoder_toDocument user.roles
  have hcreated := Timestamp.read?_write user.createdAt
  simp [decoder, toDocument, Document.toValue, Document.fieldValues, Record.read, slots, Record.field, Slot.of,
    Record.required, Decoder.text, Decoder.parsed, hid, hroles, hcreated, bind, Except.bind, pure, Except.pure,
    Except.map]

theorem decodeWhole_write (user : User) : decodeWhole decoder (.ofString user.toDocument.write) = .ok user := by
  rw [Source.ofString, Document.write, String.toList_ofList, decodeWhole_chars, decoder_toDocument]

theorem decodeWhole_write_list (users : List User) :
    decodeWhole (.list decoder) (.ofString (Document.array (users.map toDocument)).write) = .ok users := by
  rw [Source.ofString, Document.write, String.toList_ofList, decodeWhole_chars]
  exact Decoder.list_toValue decoder_toDocument users

/-! ## Records of users -/

/-- What the members of a user say. -/
structure Said (member : String → Value) (user : User) : Prop where
  id : ∃ s, member "id" = .text (some s) ∧ UserId.ofText s = .ok user.id
  email : member "email" = .text (some user.email)
  displayName : member "display_name" = .text (some user.displayName)
  roles : user.roles.Listed (member "roles")
  createdAt : user.createdAt.Stamped (member "created_at")

theorem said_iff {member : String → Value} {user : User} : Said member user ↔
    UserId.decoder (member "id") = .ok user.id ∧ Decoder.text (member "email") = .ok user.email ∧
      Decoder.text (member "display_name") = .ok user.displayName ∧
      RoleSet.decoder (member "roles") = .ok user.roles ∧
      Decoder.parsed Timestamp.read? (member "created_at") = .ok user.createdAt := by
  rw [UserId.decoder_eq_ok_iff, Decoder.text_eq_ok_iff, Decoder.text_eq_ok_iff, RoleSet.decoder_eq_ok_iff,
    Timestamp.decoder_eq_ok_iff]
  exact ⟨fun ⟨hid, hemail, hname, hroles, hcreated⟩ => ⟨hid, hemail, hname, hroles, hcreated⟩,
    fun ⟨hid, hemail, hname, hroles, hcreated⟩ => ⟨hid, hemail, hname, hroles, hcreated⟩⟩

theorem apart_slots : Slot.Apart slots := by
  refine .of_parts (by decide) fun slot hslot => ?_
  simp only [slots, List.mem_cons, List.not_mem_nil, or_false] at hslot
  rcases hslot with rfl | rfl | rfl | rfl | rfl
  all_goals exact ⟨_, _, _, fun _ _ => rfl, fun _ _ => rfl, by simp [slots, Slot.of]⟩

theorem keeps_id : Slot.Keeps slots "id" Draft.id UserId.decoder := by
  refine .cons_of ?_ fun _ _ => rfl
  iterate 4 refine .cons_of_ne ?_ (by decide) fun _ _ => rfl
  exact .nil

theorem keeps_email : Slot.Keeps slots "email" Draft.email .text := by
  refine .cons_of_ne (.cons_of ?_ fun _ _ => rfl) (by decide) fun _ _ => rfl
  iterate 3 refine .cons_of_ne ?_ (by decide) fun _ _ => rfl
  exact .nil

theorem keeps_displayName : Slot.Keeps slots "display_name" Draft.displayName .text := by
  iterate 2 refine .cons_of_ne ?_ (by decide) fun _ _ => rfl
  refine .cons_of ?_ fun _ _ => rfl
  iterate 2 refine .cons_of_ne ?_ (by decide) fun _ _ => rfl
  exact .nil

theorem keeps_roles : Slot.Keeps slots "roles" Draft.roles RoleSet.decoder := by
  iterate 3 refine .cons_of_ne ?_ (by decide) fun _ _ => rfl
  exact .cons_of (.cons_of_ne .nil (by decide) fun _ _ => rfl) fun _ _ => rfl

theorem keeps_createdAt : Slot.Keeps slots "created_at" Draft.createdAt (.parsed Timestamp.read?) := by
  iterate 4 refine .cons_of_ne ?_ (by decide) fun _ _ => rfl
  exact .cons_of .nil fun _ _ => rfl

/-- The names of the members of a user, in the order of an array. -/
def names : List String := ["id", "email", "display_name", "roles", "created_at"]

/-- A record that is read makes a user if each of its members is there. -/
theorem decoder_eq_ok_iff_parts {v : Value} {draft : Draft}
    (h : Record.read slots ⟨none, none, none, none, none⟩ v = .ok draft) {user : User} : decoder v = .ok user ↔
      (∃ w, Record.member? slots "id" v = some w ∧ UserId.decoder w = .ok user.id) ∧
      (∃ w, Record.member? slots "email" v = some w ∧ Decoder.text w = .ok user.email) ∧
      (∃ w, Record.member? slots "display_name" v = some w ∧ Decoder.text w = .ok user.displayName) ∧
      (∃ w, Record.member? slots "roles" v = some w ∧ RoleSet.decoder w = .ok user.roles) ∧
      ∃ w, Record.member? slots "created_at" v = some w ∧ Decoder.parsed Timestamp.read? w = .ok user.createdAt := by
  have hnodup := apart_slots.nodup
  rw [← Record.get_eq_some_iff keeps_id hnodup (by decide) rfl h,
    ← Record.get_eq_some_iff keeps_email hnodup (by decide) rfl h,
    ← Record.get_eq_some_iff keeps_displayName hnodup (by decide) rfl h,
    ← Record.get_eq_some_iff keeps_roles hnodup (by decide) rfl h,
    ← Record.get_eq_some_iff keeps_createdAt hnodup (by decide) rfl h]
  rw [decoder, Outcome.bind_eq_ok]
  constructor
  · rintro ⟨_, hread, hdecode⟩
    cases h.symm.trans hread
    obtain ⟨_, hid, hdecode⟩ := Outcome.bind_eq_ok.1 hdecode
    obtain ⟨_, hemail, hdecode⟩ := Outcome.bind_eq_ok.1 hdecode
    obtain ⟨_, hname, hdecode⟩ := Outcome.bind_eq_ok.1 hdecode
    obtain ⟨_, hroles, hdecode⟩ := Outcome.bind_eq_ok.1 hdecode
    obtain ⟨_, hcreated, hdecode⟩ := Outcome.bind_eq_ok.1 hdecode
    cases hdecode
    exact ⟨Record.required_eq_ok_iff.1 hid, Record.required_eq_ok_iff.1 hemail, Record.required_eq_ok_iff.1 hname,
      Record.required_eq_ok_iff.1 hroles, Record.required_eq_ok_iff.1 hcreated⟩
  · rintro ⟨hid, hemail, hname, hroles, hcreated⟩
    refine ⟨draft, h, ?_⟩
    rw [hid, hemail, hname, hroles, hcreated]
    rfl

theorem decoder_eq_ok_iff_members {v : Value} {user : User} : decoder v = .ok user ↔
    ∃ member, Said member user ∧ (∃ draft, Record.read slots ⟨none, none, none, none, none⟩ v = .ok draft) ∧
      ∀ name ∈ names, Record.member? slots name v = some (member name) := by
  constructor
  · intro h
    obtain ⟨draft, hread, _⟩ := Outcome.bind_eq_ok.1 h
    obtain ⟨⟨id, hid, hid'⟩, ⟨email, hemail, hemail'⟩, ⟨name, hname, hname'⟩, ⟨listed, hlisted, hroles⟩,
      ⟨created, hcreated, hcreated'⟩⟩ := (decoder_eq_ok_iff_parts hread).1 h
    refine ⟨fun name => (Record.member? slots name v).getD .null, said_iff.2 ?_, ⟨draft, hread⟩, ?_⟩
    · simp only [hid, hemail, hname, hlisted, hcreated, Option.getD_some]
      exact ⟨hid', hemail', hname', hroles, hcreated'⟩
    · simp [names, hid, hemail, hname, hlisted, hcreated]
  · rintro ⟨member, hsaid, ⟨draft, hread⟩, hmember⟩
    obtain ⟨hid, hemail, hname, hroles, hcreated⟩ := said_iff.1 hsaid
    exact (decoder_eq_ok_iff_parts hread).2 ⟨⟨_, hmember "id" (by decide), hid⟩,
      ⟨_, hmember "email" (by decide), hemail⟩, ⟨_, hmember "display_name" (by decide), hname⟩,
      ⟨_, hmember "roles" (by decide), hroles⟩, ⟨_, hmember "created_at" (by decide), hcreated⟩⟩

theorem accepts_of_said {member : String → Value} {user : User} (h : Said member user) {slot : Slot Draft}
    (hslot : slot ∈ slots) : slot.Accepts (member slot.name) := by
  obtain ⟨hid, hemail, hname, hroles, hcreated⟩ := said_iff.1 h
  simp only [slots, List.mem_cons, List.not_mem_nil, or_false] at hslot
  rcases hslot with rfl | rfl | rfl | rfl | rfl
  · exact Slot.accepts_of hid
  · exact Slot.accepts_of hemail
  · exact Slot.accepts_of hname
  · exact Slot.accepts_of hroles
  · exact Slot.accepts_of hcreated

theorem decoder_eq_ok_iff {v : Value} {user : User} :
    decoder v = .ok user ↔ ∃ member, Record.LaidOut names member v ∧ Said member user := by
  have hnames : slots.map Slot.name = names := rfl
  have hblank : ∀ slot ∈ slots, slot.isSet ⟨none, none, none, none, none⟩ = false := by simp [slots, Slot.of]
  have hends : ∀ slot ∈ slots, slot.mayEndBefore = false := by simp [slots, Slot.of]
  rw [decoder_eq_ok_iff_members, ← hnames]
  refine exists_congr fun member => ?_
  rw [and_comm]
  exact and_congr_left fun hsaid =>
    Record.exists_read_iff_laidOut apart_slots hblank hends fun slot hslot => accepts_of_said hsaid hslot

/-! ## Whole texts -/

theorem decodeWhole_eq_ok_iff_spells {source : Source} {user : User} : decodeWhole decoder source = .ok user ↔
    ∃ v, source.Spells v ∧ ∃ member, Record.LaidOut names member v ∧ Said member user := by
  simp only [← decoder_eq_ok_iff]
  apply decodeWhole_eq_ok_iff_of_complete
  intro v user h
  obtain ⟨_, hlaid, _⟩ := decoder_eq_ok_iff.1 h
  exact hlaid.isComplete

/-- What a user, or a list of users, is written as decodes to it. A text decodes to a user exactly if it spells an
object or an array with each of the five members once, and they say what the user is. If it does, then writing the user
and decoding gives the user again; the text has a timestamp that spells what a clock shows at the time of creation, with
the offset that it gives, and the one that is written spells what a clock on UTC shows at the same instant. -/
theorem decoding_round_trip :
    (∀ user, decodeWhole decoder (.ofString user.toDocument.write) = .ok user) ∧
    (∀ users, decodeWhole (.list decoder) (.ofString (Document.array (users.map toDocument)).write) = .ok users) ∧
    (∀ source user, decodeWhole decoder source = .ok user ↔
      ∃ v, source.Spells v ∧ ∃ member, Record.LaidOut names member v ∧ Said member user) ∧
    ∀ source user, decodeWhole decoder source = .ok user →
      decodeWhole decoder (.ofString user.toDocument.write) = .ok user ∧
      (∃ v member s offset, source.Spells v ∧ Record.LaidOut names member v ∧
        member "created_at" = .text (some s) ∧
        Timestamp.Spells (user.createdAt.clock offset) offset s.toList) ∧
      Timestamp.Spells (user.createdAt.clock 0) 0 (Timestamp.write user.createdAt).toList := by
  refine ⟨decodeWhole_write, decodeWhole_write_list, fun source user => decodeWhole_eq_ok_iff_spells, ?_⟩
  intro source user h
  obtain ⟨v, hspells, member, hlaid, hsaid⟩ := decodeWhole_eq_ok_iff_spells.1 h
  obtain ⟨s, offset, hcreated, hclock, _⟩ := hsaid.createdAt
  refine ⟨decodeWhole_write user, ⟨v, member, s, offset, hspells, hlaid, hcreated, hclock⟩, ?_⟩
  rw [Timestamp.write, String.toList_ofList]
  exact Timestamp.spells_writeChars user.createdAt

/-! ## A sample -/

/-- A quarter of a second into a leap second, at the end of the year before the year 0. -/
def sampleInstant : Instant :=
  ⟨-62167219201, 1250000000, by decide, by decide, by decide, by decide⟩

/-- A user created then, by a clock half an hour ahead of UTC. -/
def sampleFields : List (String × Document) := [
  ("created_at", .text "0000-01-01T00:29:60.25+00:30"),
  ("roles", .array [.text "USER"]),
  ("email", .text "ada@example.org"),
  ("display_name", .text "Ada \"the first\"\n"),
  ("id", .text "00000000-0000-0000-0000-00000000002A")]

/-- The user that those fields describe. -/
def sampleUser : User :=
  ⟨⟨42⟩, "ada@example.org", "Ada \"the first\"\n", ⟨false, true⟩, sampleInstant⟩

theorem decoding_round_trip_sample :
    decodeWhole decoder (.ofChars (Document.object sampleFields).chars) = .ok sampleUser ∧
      Timestamp.write sampleUser.createdAt = "-0001-12-31T23:59:60.250Z" ∧
      decodeWhole decoder (.ofString sampleUser.toDocument.write) = .ok sampleUser := by
  obtain ⟨_, _, _, hagain⟩ := decoding_round_trip
  have hdecode : decodeWhole decoder (.ofChars (Document.object sampleFields).chars) = .ok sampleUser := by
    rw [decodeWhole_chars]
    rfl
  exact ⟨hdecode, by decide, (hagain _ _ hdecode).1⟩

end User

end TokenAuthority
