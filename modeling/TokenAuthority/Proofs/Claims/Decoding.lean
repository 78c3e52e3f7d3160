import TokenAuthority.Proofs.Json.Decoders
import TokenAuthority.Proofs.Json.Grammar
import TokenAuthority.Proofs.Json.Layout
import TokenAuthority.Proofs.Token.Precision
import TokenAuthority.Proofs.Token.Threshold

/-!
# Which texts are claims

A text decodes to claims exactly if it spells a value that has each of the five members once, with nothing narrowed on
the way. The text that claims are written as stands for all texts that decode to them. Main statements:
`Claims.decoding_canonical`; `Payload.decoder_array_eq_ok_iff`, that of these values a payload cannot be an array that
lists roles.
-/

namespace TokenAuthority

open Json

/-! ## Members -/

theorem Role.ofName?_eq_some_iff {s : String} {role : Role} : ofName? s = some role ↔ s = role.name := by
  constructor
  · intro h
    unfold ofName? at h
    split at h
    · cases h
      assumption
    · split at h
      · cases h
        assumption
      · cases h
  · rintro rfl
    exact ofName?_name role

/-- Whether a value is a role in JSON: its name, or the name as the one key of an object that holds null. -/
def Role.Spelled (role : Role) (v : Value) : Prop :=
  v = .text (some role.name) ∨ v = .object [(.name role.name, .null)] true

theorem Role.decoder_eq_ok_iff {role : Role} {v : Value} : decoder v = .ok role ↔ role.Spelled v := by
  rw [decoder, Decoder.named_eq_ok_iff]
  constructor
  · rintro ⟨s, hname, h⟩
    rw [ofName?_eq_some_iff] at hname
    subst hname
    exact h
  · exact fun h => ⟨role.name, ofName?_name role, h⟩

theorem UserId.decoder_eq_ok_iff {id : UserId} {v : Value} :
    decoder v = .ok id ↔ ∃ s, v = .text (some s) ∧ ofText s = .ok id := by
  rw [decoder, Decoder.parsed_eq_ok_iff]
  refine exists_congr fun s => and_congr_right fun _ => ?_
  cases ofText s <;> simp [Except.toOption]

theorem Role.Spelled.eq {role role' : Role} {v : Value} (h : role.Spelled v) (h' : role'.Spelled v) : role = role' :=
  Except.ok.inj ((decoder_eq_ok_iff.2 h).symm.trans (decoder_eq_ok_iff.2 h'))

theorem RoleSet.ext {roles roles' : RoleSet} (h : ∀ role, role ∈ roles ↔ role ∈ roles') : roles = roles' := by
  have hadmin : roles.admin = roles'.admin := Bool.eq_iff_iff.2 (h .admin)
  have huser : roles.user = roles'.user := Bool.eq_iff_iff.2 (h .user)
  obtain ⟨_, _⟩ := roles
  cases hadmin
  cases huser
  rfl

/-- A list of values each of which is a role lists the roles of a set. -/
def RoleSet.Listed (roles : RoleSet) (v : Value) : Prop :=
  ∃ items, v = .array items true ∧ (∀ item ∈ items, ∃ role : Role, role.Spelled item) ∧
    ∀ role : Role, role ∈ roles ↔ ∃ item ∈ items, role.Spelled item

theorem Role.mem_iff_of_forall₂ {items : List Value} {listed : List Role}
    (h : List.Forall₂ (fun item role => Role.Spelled role item) items listed) {role : Role} :
    role ∈ listed ↔ ∃ item ∈ items, role.Spelled item := by
  induction h with
  | nil => simp
  | @cons item role' items listed hitem _ ih =>
      have hhead : role = role' ↔ role.Spelled item := ⟨fun h => h ▸ hitem, fun h => h.eq hitem⟩
      rw [List.mem_cons, List.exists_mem_cons_iff, ih, hhead]

theorem RoleSet.decoder_eq_ok_iff {roles : RoleSet} {v : Value} : decoder v = .ok roles ↔ roles.Listed v := by
  rw [decoder, Outcome.map_eq_ok]
  constructor
  · rintro ⟨listed, hlist, rfl⟩
    obtain ⟨items, hv, hitems⟩ := Decoder.list_eq_ok_iff.1 hlist
    have hspelled := hitems.imp fun _ _ => Role.decoder_eq_ok_iff.1
    exact ⟨items, hv, Outcome.exists_forall₂_iff.1 ⟨listed, hspelled⟩,
      fun role => mem_ofList.trans (Role.mem_iff_of_forall₂ hspelled)⟩
  · rintro ⟨items, hv, hspelled, hroles⟩
    obtain ⟨listed, hlisted⟩ := Outcome.exists_forall₂_iff.2 hspelled
    refine ⟨listed, Decoder.list_eq_ok_iff.2 ⟨items, hv, hlisted.imp fun _ _ => Role.decoder_eq_ok_iff.2⟩, ?_⟩
    exact ext fun role => (mem_ofList.trans (Role.mem_iff_of_forall₂ hlisted)).trans (hroles role).symm

/-- Only an empty list lists no role. -/
theorem RoleSet.Listed.eq_empty_iff {roles : RoleSet} {items : List Value} {closed : Bool}
    (h : roles.Listed (.array items closed)) : roles = ∅ ↔ items = [] := by
  obtain ⟨_, hv, hspelled, hroles⟩ := h
  cases hv
  constructor
  · rintro rfl
    refine List.eq_nil_iff_forall_not_mem.2 fun item hitem => ?_
    obtain ⟨role, hrole⟩ := hspelled item hitem
    have hmem : role ∈ (∅ : RoleSet) := (hroles role).2 ⟨item, hitem, hrole⟩
    cases role <;> cases hmem
  · rintro rfl
    refine ext fun role => (hroles role).trans ?_
    cases role <;> simp [mem_iff, EmptyCollection.emptyCollection, empty, contains]

/-- Whether a value is the number of whole seconds of an instant. -/
def Instant.Counted (t : Instant) (v : Value) : Prop :=
  ∃ n, v = .number n ∧ n.fraction = none ∧ n.exponent = none ∧ n.toInt? = some t.seconds ∧ t.nanoseconds = 0

theorem Instant.ofSeconds?_eq_some_iff {seconds : Int} {t : Instant} :
    ofSeconds? seconds = some t ↔ t.seconds = seconds ∧ t.nanoseconds = 0 := by
  constructor
  · exact eq_of_ofParts?
  · rintro ⟨rfl, hwhole⟩
    rw [ofSeconds?_seconds, wholeSecond_of_nanoseconds hwhole]

namespace Claims

theorem secondsDecoder_eq_ok_iff {t : Instant} {v : Value} : secondsDecoder v = .ok t ↔ t.Counted v := by
  have hread : secondsDecoder v = .ok t ↔ ∃ seconds, Decoder.integer v = .ok seconds ∧
      Instant.ofSeconds? seconds = some t := by
    rw [secondsDecoder, Outcome.bind_eq_ok]
    refine exists_congr fun seconds => and_congr_right fun _ => ?_
    cases Instant.ofSeconds? seconds <;> simp
  rw [hread]
  constructor
  · rintro ⟨_, hinteger, hseconds⟩
    obtain ⟨n, rfl, hn, _⟩ := Decoder.integer_eq_ok_iff.1 hinteger
    obtain ⟨rfl, hwhole⟩ := Instant.ofSeconds?_eq_some_iff.1 hseconds
    obtain ⟨hfraction, hexponent⟩ := Numeral.toInt?_parts hn
    exact ⟨n, rfl, hfraction, hexponent, hn, hwhole⟩
  · rintro ⟨n, rfl, _, _, hn, hwhole⟩
    have hlower : -(Nat.pow 2 63 : Nat) ≤ t.seconds := Int.le_trans (by decide) t.first_le
    have hupper : t.seconds < (Nat.pow 2 64 : Nat) := Int.lt_of_le_of_lt t.le_last (by decide)
    exact ⟨t.seconds, Decoder.integer_eq_ok_iff.2 ⟨n, rfl, hn, hlower, hupper⟩,
      Instant.ofSeconds?_eq_some_iff.2 ⟨rfl, hwhole⟩⟩

/-- What the members of claims say. -/
structure Said (member : String → Value) (claims : Claims) : Prop where
  subject : ∃ s, member "sub" = .text (some s) ∧ UserId.ofText s = .ok claims.subject
  roles : claims.roles.Listed (member "roles")
  issuer : member "iss" = .text (some claims.issuer)
  issuedAt : claims.issuedAt.Counted (member "iat")
  expiresAt : claims.expiresAt.Counted (member "exp")

theorem said_iff {member : String → Value} {claims : Claims} : Said member claims ↔
    UserId.decoder (member "sub") = .ok claims.subject ∧ RoleSet.decoder (member "roles") = .ok claims.roles ∧
      Decoder.text (member "iss") = .ok claims.issuer ∧ secondsDecoder (member "iat") = .ok claims.issuedAt ∧
      secondsDecoder (member "exp") = .ok claims.expiresAt := by
  rw [UserId.decoder_eq_ok_iff, RoleSet.decoder_eq_ok_iff, Decoder.text_eq_ok_iff, secondsDecoder_eq_ok_iff,
    secondsDecoder_eq_ok_iff]
  exact ⟨fun ⟨hsub, hroles, hiss, hiat, hexp⟩ => ⟨hsub, hroles, hiss, hiat, hexp⟩,
    fun ⟨hsub, hroles, hiss, hiat, hexp⟩ => ⟨hsub, hroles, hiss, hiat, hexp⟩⟩

/-! ## Records of claims -/

theorem apart_slots : Slot.Apart slots := by
  refine .of_parts (by decide) fun slot hslot => ?_
  simp only [slots, List.mem_cons, List.not_mem_nil, or_false] at hslot
  rcases hslot with rfl | rfl | rfl | rfl | rfl
  all_goals exact ⟨_, _, _, fun _ _ => rfl, fun _ _ => rfl, by simp [slots, Slot.of]⟩

theorem keeps_subject : Slot.Keeps slots "sub" Draft.subject UserId.decoder := by
  refine .cons_of ?_ fun _ _ => rfl
  iterate 4 refine .cons_of_ne ?_ (by decide) fun _ _ => rfl
  exact .nil

theorem keeps_roles : Slot.Keeps slots "roles" Draft.roles RoleSet.decoder := by
  refine .cons_of_ne (.cons_of ?_ fun _ _ => rfl) (by decide) fun _ _ => rfl
  iterate 3 refine .cons_of_ne ?_ (by decide) fun _ _ => rfl
  exact .nil

theorem keeps_issuer : Slot.Keeps slots "iss" Draft.issuer .text := by
  iterate 2 refine .cons_of_ne ?_ (by decide) fun _ _ => rfl
  refine .cons_of ?_ fun _ _ => rfl
  iterate 2 refine .cons_of_ne ?_ (by decide) fun _ _ => rfl
  exact .nil

theorem keeps_issuedAt : Slot.Keeps slots "iat" Draft.issuedAt secondsDecoder := by
  iterate 3 refine .cons_of_ne ?_ (by decide) fun _ _ => rfl
  exact .cons_of (.cons_of_ne .nil (by decide) fun _ _ => rfl) fun _ _ => rfl

theorem complete_eq_ok_iff {draft : Draft} {claims : Claims} : draft.complete = .ok claims ↔
    draft.subject = some claims.subject ∧ draft.roles = some claims.roles ∧ draft.issuer = some claims.issuer ∧
      draft.issuedAt = some claims.issuedAt ∧ draft.expiresAt = some claims.expiresAt := by
  constructor
  · intro h
    obtain ⟨_, hsubject, h⟩ := Outcome.bind_eq_ok.1 h
    obtain ⟨_, hroles, h⟩ := Outcome.bind_eq_ok.1 h
    obtain ⟨_, hissuer, h⟩ := Outcome.bind_eq_ok.1 h
    obtain ⟨_, hissuedAt, h⟩ := Outcome.bind_eq_ok.1 h
    obtain ⟨_, hexpiresAt, h⟩ := Outcome.bind_eq_ok.1 h
    cases h
    exact ⟨Record.required_eq_ok_iff.1 hsubject, Record.required_eq_ok_iff.1 hroles,
      Record.required_eq_ok_iff.1 hissuer, Record.required_eq_ok_iff.1 hissuedAt,
      Record.required_eq_ok_iff.1 hexpiresAt⟩
  · rintro ⟨hsubject, hroles, hissuer, hissuedAt, hexpiresAt⟩
    rw [Draft.complete, hsubject, hroles, hissuer, hissuedAt, hexpiresAt]
    rfl

/-- The names of the members of claims, in the order of an array. -/
def names : List String := ["sub", "roles", "iss", "iat", "exp"]

/-- A record that is read is complete if each of its members is there. -/
theorem complete_eq_ok_iff_members {v : Value} {draft : Draft} (h : Record.read slots .blank v = .ok draft)
    {claims : Claims} : draft.complete = .ok claims ↔
      (∃ w, Record.member? slots "sub" v = some w ∧ UserId.decoder w = .ok claims.subject) ∧
      (∃ w, Record.member? slots "roles" v = some w ∧ RoleSet.decoder w = .ok claims.roles) ∧
      (∃ w, Record.member? slots "iss" v = some w ∧ Decoder.text w = .ok claims.issuer) ∧
      (∃ w, Record.member? slots "iat" v = some w ∧ secondsDecoder w = .ok claims.issuedAt) ∧
      ∃ w, Record.member? slots "exp" v = some w ∧ secondsDecoder w = .ok claims.expiresAt := by
  have hnodup := apart_slots.nodup
  rw [complete_eq_ok_iff, Record.get_eq_some_iff keeps_subject hnodup (by decide) rfl h,
    Record.get_eq_some_iff keeps_roles hnodup (by decide) rfl h,
    Record.get_eq_some_iff keeps_issuer hnodup (by decide) rfl h,
    Record.get_eq_some_iff keeps_issuedAt hnodup (by decide) rfl h,
    Record.get_eq_some_iff keeps_expiresAt hnodup (by decide) rfl h]

/-- Claims are read from the values that are read as a record with these five members. -/
theorem decoder_eq_ok_iff_members {v : Value} {claims : Claims} : decoder v = .ok claims ↔
    (∃ draft, Record.read slots .blank v = .ok draft) ∧ ∃ member, Said member claims ∧
      ∀ name ∈ names, Record.member? slots name v = some (member name) := by
  rw [decoder, Outcome.bind_eq_ok]
  constructor
  · rintro ⟨draft, hread, hcomplete⟩
    obtain ⟨⟨sub, hsub, hsubject⟩, ⟨listed, hlisted, hroles⟩, ⟨iss, hiss, hissuer⟩, ⟨iat, hiat, hissuedAt⟩,
      ⟨exp, hexp, hexpiresAt⟩⟩ := (complete_eq_ok_iff_members hread).1 hcomplete
    refine ⟨⟨draft, hread⟩, fun name => (Record.member? slots name v).getD .null, said_iff.2 ?_, ?_⟩
    · simp only [hsub, hlisted, hiss, hiat, hexp, Option.getD_some]
      exact ⟨hsubject, hroles, hissuer, hissuedAt, hexpiresAt⟩
    · simp [names, hsub, hlisted, hiss, hiat, hexp]
  · rintro ⟨⟨draft, hread⟩, member, hsaid, hmember⟩
    obtain ⟨hsubject, hroles, hissuer, hissuedAt, hexpiresAt⟩ := said_iff.1 hsaid
    exact ⟨draft, hread, (complete_eq_ok_iff_members hread).2 ⟨⟨_, hmember "sub" (by decide), hsubject⟩,
      ⟨_, hmember "roles" (by decide), hroles⟩, ⟨_, hmember "iss" (by decide), hissuer⟩,
      ⟨_, hmember "iat" (by decide), hissuedAt⟩, ⟨_, hmember "exp" (by decide), hexpiresAt⟩⟩⟩

theorem accepts_of_said {member : String → Value} {claims : Claims} (h : Said member claims) {slot : Slot Draft}
    (hslot : slot ∈ slots) : slot.Accepts (member slot.name) := by
  obtain ⟨hsubject, hroles, hissuer, hissuedAt, hexpiresAt⟩ := said_iff.1 h
  simp only [slots, List.mem_cons, List.not_mem_nil, or_false] at hslot
  rcases hslot with rfl | rfl | rfl | rfl | rfl
  · exact Slot.accepts_of hsubject
  · exact Slot.accepts_of hroles
  · exact Slot.accepts_of hissuer
  · exact Slot.accepts_of hissuedAt
  · exact Slot.accepts_of hexpiresAt

/-- Claims are read from the values that have each of the five members once, and say what these members say. -/
theorem decoder_eq_ok_iff {v : Value} {claims : Claims} :
    decoder v = .ok claims ↔ ∃ member, Record.LaidOut names member v ∧ Said member claims := by
  have hnames : slots.map Slot.name = names := rfl
  have hblank : ∀ slot ∈ slots, slot.isSet Draft.blank = false := by simp [slots, Slot.of, Draft.blank]
  have hends : ∀ slot ∈ slots, slot.mayEndBefore = false := by simp [slots, Slot.of]
  rw [decoder_eq_ok_iff_members, ← exists_and_left, ← hnames]
  refine exists_congr fun member => ?_
  rw [and_left_comm, and_comm]
  exact and_congr_left fun hsaid =>
    Record.exists_read_iff_laidOut apart_slots hblank hends fun slot hslot => accepts_of_said hsaid hslot

theorem wholeSeconds_of_decoder {v : Value} {claims : Claims} (h : decoder v = .ok claims) :
    claims.issuedAt.nanoseconds = 0 ∧ claims.expiresAt.nanoseconds = 0 := by
  obtain ⟨_, _, hsaid⟩ := decoder_eq_ok_iff.1 h
  obtain ⟨_, _, _, _, _, hissuedAt⟩ := hsaid.issuedAt
  obtain ⟨_, _, _, _, _, hexpiresAt⟩ := hsaid.expiresAt
  exact ⟨hissuedAt, hexpiresAt⟩

/-- Claims that are read are as they would be sent. -/
theorem onWire_of_decoder {v : Value} {claims : Claims} (h : decoder v = .ok claims) : claims.onWire = claims := by
  obtain ⟨hissuedAt, hexpiresAt⟩ := wholeSeconds_of_decoder h
  exact onWire_of_nanoseconds hissuedAt hexpiresAt

/-! ## Objects that are no claims -/

/-- What keeps an object from being claims. -/
inductive Flawed (fields : List (Key × Value)) : Prop
  | missing {name : String} (hname : name ∈ names) (h : ∀ v, (.name name, v) ∉ fields) : Flawed fields
  | repeated {name : String} (hname : name ∈ names) (h : 2 ≤ (Record.valuesUnder fields name).length) : Flawed fields
  | badId {s : String} (h : (.name "sub", .text (some s)) ∈ fields) (hbad : ∀ id, UserId.ofText s ≠ .ok id) :
      Flawed fields
  | unknownRole {items : List Value} {item : Value} {s : String} (h : (.name "roles", .array items true) ∈ fields)
      (hitem : item ∈ items) (hspelled : item = .text (some s) ∨ item = .object [(.name s, .null)] true)
      (hunknown : ∀ role : Role, s ≠ role.name) : Flawed fields
  | fraction {name : String} {n : Numeral} (hname : name = "iat" ∨ name = "exp") (h : (.name name, .number n) ∈ fields)
      (hfraction : n.fraction.isSome = true) : Flawed fields
  | exponent {name : String} {n : Numeral} (hname : name = "iat" ∨ name = "exp") (h : (.name name, .number n) ∈ fields)
      (hexponent : n.exponent.isSome = true) : Flawed fields
  | outOfRange {name : String} {n : Numeral} {seconds : Int} (hname : name = "iat" ∨ name = "exp")
      (h : (.name name, .number n) ∈ fields) (hn : n.toInt? = some seconds)
      (hrange : seconds < Instant.firstSecond ∨ Instant.lastSecond < seconds) : Flawed fields

/-- In an object laid out a value under one of the names is the member of that name. -/
theorem eq_member_of_laidOut {member : String → Value} {fields : List (Key × Value)} {closed : Bool}
    (hlaid : Record.LaidOut names member (.object fields closed)) {name : String} (hname : name ∈ names) {v : Value}
    (h : (.name name, v) ∈ fields) : v = member name := by
  obtain ⟨_, _, hvalues⟩ := hlaid
  have hmem := Record.mem_valuesUnder_iff.2 h
  rwa [hvalues name hname, List.mem_singleton] at hmem

/-- A value under the name of a time is counted in whole seconds. -/
theorem exists_counted_of_mem {member : String → Value} {claims : Claims} (hsaid : Said member claims)
    {fields : List (Key × Value)} {closed : Bool} (hlaid : Record.LaidOut names member (.object fields closed))
    {name : String} (hname : name = "iat" ∨ name = "exp") {v : Value} (h : (.name name, v) ∈ fields) :
    ∃ t : Instant, t.Counted v := by
  rcases hname with rfl | rfl
  · rw [eq_member_of_laidOut hlaid (by decide) h]
    exact ⟨_, hsaid.issuedAt⟩
  · rw [eq_member_of_laidOut hlaid (by decide) h]
    exact ⟨_, hsaid.expiresAt⟩

theorem not_laidOut_of_flawed {fields : List (Key × Value)} {closed : Bool} (hflawed : Flawed fields)
    {member : String → Value} {claims : Claims} (hlaid : Record.LaidOut names member (.object fields closed))
    (hsaid : Said member claims) : False := by
  cases hflawed with
  | @missing name hname h =>
      obtain ⟨_, _, hvalues⟩ := hlaid
      have hmem : member name ∈ Record.valuesUnder fields name := by rw [hvalues name hname]; exact .head _
      exact h _ (Record.mem_valuesUnder_iff.1 hmem)
  | @repeated name hname h =>
      obtain ⟨_, _, hvalues⟩ := hlaid
      rw [hvalues name hname] at h
      exact absurd h (by simp)
  | badId h hbad =>
      obtain ⟨s, hsub, hid⟩ := hsaid.subject
      rw [← eq_member_of_laidOut hlaid (by decide) h] at hsub
      cases hsub
      exact hbad _ hid
  | @unknownRole items item s h hitem hspelled hunknown =>
      obtain ⟨_, hlisted, hroles, _⟩ := hsaid.roles
      rw [← eq_member_of_laidOut hlaid (by decide) h] at hlisted
      cases hlisted
      obtain ⟨role, hrole⟩ := hroles item hitem
      refine hunknown role ?_
      rcases hspelled with rfl | rfl
      · simpa [Role.Spelled] using hrole
      · simpa [Role.Spelled] using hrole
  | fraction hname h hfraction =>
      obtain ⟨t, _, hn, hnone, _⟩ := exists_counted_of_mem hsaid hlaid hname h
      cases hn
      rw [hnone] at hfraction
      cases hfraction
  | exponent hname h hexponent =>
      obtain ⟨t, _, hn, _, hnone, _⟩ := exists_counted_of_mem hsaid hlaid hname h
      cases hn
      rw [hnone] at hexponent
      cases hexponent
  | outOfRange hname h hn hrange =>
      obtain ⟨t, _, hcounted, _, _, hseconds, _⟩ := exists_counted_of_mem hsaid hlaid hname h
      cases hcounted
      rw [hn] at hseconds
      cases hseconds
      have hfirst := t.first_le
      have hlast := t.le_last
      omega

/-! ## Whole texts -/

theorem decodeWhole_eq_ok_iff_spells {source : Source} {claims : Claims} : decodeWhole decoder source = .ok claims ↔
    ∃ v, source.Spells v ∧ decoder v = .ok claims := by
  apply decodeWhole_eq_ok_iff_of_complete
  intro v claims h
  obtain ⟨_, hlaid, _⟩ := decoder_eq_ok_iff.1 h
  exact hlaid.isComplete

theorem decodeWhole_write (claims : Claims) :
    decodeWhole decoder (.ofString claims.toDocument.write) = .ok claims.onWire := by
  rw [Source.ofString, Document.write, String.toList_ofList]
  exact decodeWhole_written claims

/-- What has been decoded decodes from what it is written as. -/
theorem decodeWhole_write_of_decodes {source : Source} {claims : Claims} (h : decodeWhole decoder source = .ok claims) :
    decodeWhole decoder (.ofString claims.toDocument.write) = .ok claims := by
  obtain ⟨_, _, hdecode⟩ := decodeWhole_eq_ok_iff.1 h
  rw [decodeWhole_write, onWire_of_decoder hdecode]

/-- A text decodes to claims exactly if it spells an object or an array with each of the five members once, and the
claims are what these say: a set of just the roles listed, times in whole seconds. What is decoded decodes from what it
is written as. An object with a flaw does not decode. Texts decode to the same claims if and only if these are written
alike. -/
theorem decoding_canonical :
    (∀ source claims, decodeWhole decoder source = .ok claims ↔
      ∃ v, source.Spells v ∧ ∃ member, Record.LaidOut names member v ∧ Said member claims) ∧
    (∀ source claims, decodeWhole decoder source = .ok claims →
      decodeWhole decoder (.ofString claims.toDocument.write) = .ok claims) ∧
    (∀ source fields, source.Spells (.object fields true) → Flawed fields → ∀ claims,
      decodeWhole decoder source ≠ .ok claims) ∧
    ∀ source source' claims claims', decodeWhole decoder source = .ok claims →
      decodeWhole decoder source' = .ok claims' →
      (claims = claims' ↔ claims.toDocument.write = claims'.toDocument.write) := by
  refine ⟨fun source claims => ?_, fun source claims => decodeWhole_write_of_decodes, ?_, ?_⟩
  · rw [decodeWhole_eq_ok_iff_spells]
    exact exists_congr fun v => and_congr_right fun _ => decoder_eq_ok_iff
  · intro source fields hspells hflawed claims h
    obtain ⟨v, hspells', hdecode⟩ := decodeWhole_eq_ok_iff_spells.1 h
    obtain rfl := hspells.eq hspells'
    obtain ⟨member, hlaid, hsaid⟩ := decoder_eq_ok_iff.1 hdecode
    exact not_laidOut_of_flawed hflawed hlaid hsaid
  · intro source source' claims claims' h h'
    refine ⟨fun hsame => hsame ▸ rfl, fun hsame => ?_⟩
    have hback := decodeWhole_write_of_decodes h
    rw [hsame, decodeWhole_write_of_decodes h'] at hback
    exact (Except.ok.inj hback).symm

/-! ## A sample -/

/-- Claims with members out of order and in other spellings than they are written in, and with others beside them. -/
def sampleFields : List (String × Document) := [
  ("exp", .integer 120),
  ("note", .object [("exp", .array [.text "later"])]),
  ("roles", .array [.text "USER", .object [("ADMIN", .null)], .text "USER"]),
  ("iss", .text "medisync"),
  ("sub", .text "urn:uuid:00000000-0000-0000-0000-00000000002A"),
  ("iat", .integer 60)]

theorem decoding_canonical_sample : ∃ claims : Claims,
    decodeWhole decoder (.ofChars (Document.object sampleFields).chars) = .ok claims ∧
    claims.subject = ⟨42⟩ ∧ claims.roles = ⟨true, true⟩ ∧
    decodeWhole decoder (.ofString claims.toDocument.write) = .ok claims ∧
    ∀ claims', decodeWhole decoder (.ofChars (Document.object (("exp", .integer 180) :: sampleFields)).chars) ≠
      .ok claims' := by
  obtain ⟨_, hwritten, hflawed, _⟩ := decoding_canonical
  have hdecode : decodeWhole decoder (.ofChars (Document.object sampleFields).chars) =
      .ok ⟨⟨42⟩, ⟨true, true⟩, "medisync", .atSecond 60 (by decide) (by decide),
        .atSecond 120 (by decide) (by decide)⟩ := by
    rw [decodeWhole_chars]
    rfl
  refine ⟨_, hdecode, rfl, rfl, hwritten _ _ hdecode, hflawed _ _ (Source.spells_chars (.object _)) ?_⟩
  exact @Flawed.repeated _ "exp" (by decide) (by decide)

end Claims

/-! ## Payloads that are arrays -/

/-- The second reader of a payload reads the roles of an array as the not-before claim, and gets past them only if there
are none. -/
theorem Payload.decoder_array_eq_ok_iff {items : List Value} {closed : Bool} {claims : Claims} :
    decoder (.array items closed) = .ok claims ↔
      Claims.decoder (.array items closed) = .ok claims ∧ claims.roles = ∅ := by
  rw [decoder_eq_ok_iff]
  refine and_congr_right fun hread => ?_
  obtain ⟨member, ⟨rfl, rfl⟩, hsaid⟩ := Claims.decoder_eq_ok_iff.1 hread
  have hroles := hsaid.roles
  obtain ⟨listed, hlisted, _⟩ := hsaid.roles
  rw [hlisted] at hroles
  rw [hroles.eq_empty_iff, Claims.names]
  simp [registeredFit, hlisted, notBeforeFits]

example : (Payload.decoder (Document.array [.text "urn:uuid:00000000-0000-0000-0000-00000000002A", .array [],
    .text "medisync", .integer 60, .integer 120]).toValue).toOption.isSome = true := by
  decide

end TokenAuthority
