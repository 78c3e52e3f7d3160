import TokenAuthority.Proofs.Json.Records

/-!
# How records are laid out

A record is read from exactly the values that fit it: objects that have no member twice and hold nothing unreadable,
and arrays of the members in the order of the slots. If no member may be missing, these are the values in which each
one stands once. Main statements: `Record.exists_read_iff`, `Record.exists_read_iff_laidOut`.
-/

namespace TokenAuthority.Json

variable {σ : Type} {slots : List (Slot σ)} {slot : Slot σ} {name : String}

/-- Whether a slot reads a value, whatever has been read before. -/
def Slot.Accepts (slot : Slot σ) (v : Value) : Prop :=
  ∀ s, ∃ s', slot.read v s = .ok s'

/-- Slots of distinct names, each of which fills in a part of its own, from the same values whatever has been read. -/
structure Slot.Apart (slots : List (Slot σ)) : Prop where
  nodup : (slots.map Slot.name).Nodup
  accepts : ∀ slot ∈ slots, ∀ v s s', slot.read v s = .ok s' → slot.Accepts v
  sets : ∀ slot ∈ slots, ∀ v s s', slot.read v s = .ok s' → slot.isSet s' = true
  leaves : ∀ slot ∈ slots, ∀ other ∈ slots, other.name ≠ slot.name → ∀ v s s', slot.read v s = .ok s' →
    other.isSet s' = other.isSet s

theorem Slot.Apart.tail (h : Slot.Apart (slot :: slots)) : Slot.Apart slots :=
  ⟨(List.nodup_cons.1 h.nodup).2, fun t ht => h.accepts t (.tail _ ht), fun t ht => h.sets t (.tail _ ht),
    fun t ht other hother => h.leaves t (.tail _ ht) other (.tail _ hother)⟩

/-- Slots are apart if each of them keeps what it decodes in a part that the others leave alone. -/
theorem Slot.Apart.of_parts (hnodup : (slots.map Slot.name).Nodup)
    (hparts : ∀ slot ∈ slots, ∃ (α : Type) (set : α → σ → σ) (decode : Decoder α),
      (∀ v s, slot.read v s = (decode v).map fun a => set a s) ∧ (∀ a s, slot.isSet (set a s) = true) ∧
        ∀ other ∈ slots, other.name ≠ slot.name → ∀ a s, other.isSet (set a s) = other.isSet s) :
    Slot.Apart slots := by
  refine ⟨hnodup, fun slot hslot v s s' h => ?_, fun slot hslot v s s' h => ?_,
    fun slot hslot other hother hname v s s' h => ?_⟩
  all_goals
    obtain ⟨α, set, decode, hread, hsets, hleaves⟩ := hparts slot hslot
    obtain ⟨a, hdecode, rfl⟩ := Outcome.map_eq_ok.1 ((hread v s).symm.trans h)
  · exact fun s => ⟨set a s, (hread v s).trans (Outcome.map_eq_ok.2 ⟨a, hdecode, rfl⟩)⟩
  · exact hsets a s
  · exact hleaves other hother hname a s

theorem Slot.accepts_of {α : Type} {get : σ → Option α} {set : α → σ → σ} {decode : Decoder α} {v : Value} {a : α}
    (h : decode v = .ok a) : (Slot.of name get set decode).Accepts v :=
  fun s => ⟨set a s, Outcome.map_eq_ok.2 ⟨a, h, rfl⟩⟩

namespace Record

/-! ## Values under a name -/

/-- The values that stand under a name, in their order. -/
def valuesUnder (fields : List (Key × Value)) (name : String) : List Value :=
  (fields.filter (·.1 = .name name)).map Prod.snd

theorem valuesUnder_cons_self {v : Value} {fields : List (Key × Value)} :
    valuesUnder ((.name name, v) :: fields) name = v :: valuesUnder fields name := by
  simp [valuesUnder]

theorem valuesUnder_cons_of_ne {key : Key} {v : Value} {fields : List (Key × Value)} (h : key ≠ .name name) :
    valuesUnder ((key, v) :: fields) name = valuesUnder fields name := by
  simp [valuesUnder, h]

theorem valueUnder?_eq_head? {fields : List (Key × Value)} :
    valueUnder? fields name = (valuesUnder fields name).head? := by
  simp [valueUnder?, valuesUnder, List.head?_filter]

theorem mem_valuesUnder_iff {v : Value} {fields : List (Key × Value)} :
    v ∈ valuesUnder fields name ↔ (.name name, v) ∈ fields := by
  simp [valuesUnder]

theorem valuesUnder_perm {fields fields' : List (Key × Value)} (h : fields.Perm fields') (name : String) :
    (valuesUnder fields name).Perm (valuesUnder fields' name) :=
  (h.filter _).map _

/-- The order of the fields does not matter to what stands once under a name. -/
theorem valuesUnder_eq_of_perm {fields fields' : List (Key × Value)} (h : fields.Perm fields')
    (honce : (valuesUnder fields' name).length ≤ 1) : valuesUnder fields name = valuesUnder fields' name := by
  have hperm := valuesUnder_perm h name
  cases hvalues : valuesUnder fields' name with
  | nil => rwa [hvalues, List.perm_nil] at hperm
  | cons v vs =>
      rw [hvalues, List.length_cons] at honce
      obtain rfl : vs = [] := List.length_eq_zero_iff.1 (by omega)
      rwa [hvalues, List.perm_singleton] at hperm

/-! ## Objects -/

/-- Whether a field can stand in an object: one of the slots reads it, or it is passed over. -/
def Admits (slots : List (Slot σ)) (entry : Key × Value) : Prop :=
  ∃ k, entry.1 = .name k ∧ ((∃ slot ∈ slots, slot.name = k ∧ slot.Accepts entry.2) ∨
    ((∀ slot ∈ slots, slot.name ≠ k) ∧ entry.2.isComplete = true))

theorem field_of_slot (hapart : Slot.Apart slots) (hslot : slot ∈ slots) {draft : σ} {v : Value}
    (hunset : slot.isSet draft = false) : field slots draft (.name slot.name, v) = slot.read v draft := by
  have hfind : slots.find? (·.name = slot.name) = some slot :=
    (Keyed.find?_eq_some_iff hapart.nodup).2 ⟨hslot, rfl⟩
  simp only [field, hfind, hunset, Bool.false_eq_true, if_false]

theorem field_of_others {draft : σ} {v : Value} (hothers : ∀ slot ∈ slots, slot.name ≠ name)
    (hcomplete : v.isComplete = true) : field slots draft (.name name, v) = .ok draft := by
  have hfind : slots.find? (·.name = name) = none := by simpa using hothers
  simp only [field, hfind, hcomplete, if_true]

/-- Whether each slot is filled in at most once, counting what has been read already. -/
def FillsOnce (slots : List (Slot σ)) (fields : List (Key × Value)) (draft : σ) : Prop :=
  ∀ slot ∈ slots, (valuesUnder fields slot.name).length + (slot.isSet draft).toNat ≤ 1

theorem fillsOnce_cons_of_slot (hapart : Slot.Apart slots) (hslot : slot ∈ slots) {fields : List (Key × Value)}
    {draft next : σ} {v : Value} (hread : slot.read v draft = .ok next) :
    FillsOnce slots ((.name slot.name, v) :: fields) draft ↔
      slot.isSet draft = false ∧ FillsOnce slots fields next := by
  have hset : slot.isSet next = true := hapart.sets slot hslot v draft next hread
  have hleaves {other : Slot σ} (hother : other ∈ slots) (hname : other.name ≠ slot.name) :
      (valuesUnder ((.name slot.name, v) :: fields) other.name).length + (other.isSet draft).toNat =
        (valuesUnder fields other.name).length + (other.isSet next).toNat := by
    rw [valuesUnder_cons_of_ne (by simpa using Ne.symm hname),
      hapart.leaves slot hslot other hother hname v draft next hread]
  constructor
  · intro h
    have hcount := h slot hslot
    rw [valuesUnder_cons_self, List.length_cons] at hcount
    refine ⟨Bool.toNat_eq_zero.1 (by omega), fun other hother => ?_⟩
    by_cases hname : other.name = slot.name
    · obtain rfl : other = slot := List.inj_on_of_nodup_map hapart.nodup hother hslot hname
      rw [hset, Bool.toNat_true]
      omega
    · rw [← hleaves hother hname]
      exact h other hother
  · rintro ⟨hunset, h⟩ other hother
    have hcount := h other hother
    by_cases hname : other.name = slot.name
    · obtain rfl : other = slot := List.inj_on_of_nodup_map hapart.nodup hother hslot hname
      rw [hset, Bool.toNat_true] at hcount
      rw [valuesUnder_cons_self, List.length_cons, hunset, Bool.toNat_false]
      omega
    · rwa [hleaves hother hname]

theorem fillsOnce_cons_of_others {fields : List (Key × Value)} {draft : σ} {v : Value}
    (hothers : ∀ slot ∈ slots, slot.name ≠ name) :
    FillsOnce slots ((.name name, v) :: fields) draft ↔ FillsOnce slots fields draft := by
  refine forall₂_congr fun slot hslot => ?_
  rw [valuesUnder_cons_of_ne (by simpa using Ne.symm (hothers slot hslot))]

/-- The fields of an object are read if each of them can stand there, and none fills in a part a second time. -/
theorem exists_foldlM_field_iff (hapart : Slot.Apart slots) {fields : List (Key × Value)} {draft : σ} :
    (∃ draft', fields.foldlM (field slots) draft = .ok draft') ↔
      (∀ entry ∈ fields, Admits slots entry) ∧ FillsOnce slots fields draft := by
  -- A field that is read moves from the fields to the draft; the count of its slot stays the same.
  induction fields generalizing draft with
  | nil => exact ⟨fun _ => ⟨nofun, fun slot _ => by simpa [valuesUnder] using Bool.toNat_le _⟩, fun _ => ⟨draft, rfl⟩⟩
  | cons entry fields ih =>
      constructor
      · rintro ⟨draft', h⟩
        obtain ⟨next, hfield, hrest⟩ := Outcome.foldlM_cons_eq_ok.1 h
        obtain ⟨hadmits, honce⟩ := ih.1 ⟨draft', hrest⟩
        obtain ⟨k, v, rfl, ⟨slot, hslot, rfl, hunset, hread⟩ | ⟨hothers, hcomplete, rfl⟩⟩ := field_cases hfield
        · have haccepts := hapart.accepts slot hslot v draft next hread
          exact ⟨List.forall_mem_cons.2 ⟨⟨_, rfl, .inl ⟨slot, hslot, rfl, haccepts⟩⟩, hadmits⟩,
            (fillsOnce_cons_of_slot hapart hslot hread).2 ⟨hunset, honce⟩⟩
        · exact ⟨List.forall_mem_cons.2 ⟨⟨k, rfl, .inr ⟨hothers, hcomplete⟩⟩, hadmits⟩,
            (fillsOnce_cons_of_others hothers).2 honce⟩
      · rintro ⟨hadmits, honce⟩
        obtain ⟨hentry, hrest⟩ := List.forall_mem_cons.1 hadmits
        obtain ⟨key, v⟩ := entry
        obtain ⟨k, hkey, hcase⟩ := hentry
        cases hkey
        rcases hcase with ⟨slot, hslot, rfl, haccepts⟩ | ⟨hothers, hcomplete⟩
        · obtain ⟨next, hread⟩ := haccepts draft
          obtain ⟨hunset, hnext⟩ := (fillsOnce_cons_of_slot hapart hslot hread).1 honce
          obtain ⟨draft', hfields⟩ := ih.2 ⟨hrest, hnext⟩
          exact ⟨draft', Outcome.foldlM_cons_eq_ok.2 ⟨next, (field_of_slot hapart hslot hunset).trans hread, hfields⟩⟩
        · obtain ⟨draft', hfields⟩ := ih.2 ⟨hrest, (fillsOnce_cons_of_others hothers).1 honce⟩
          exact ⟨draft', Outcome.foldlM_cons_eq_ok.2 ⟨draft, field_of_others hothers hcomplete, hfields⟩⟩

/-! ## Arrays -/

theorem exists_items_iff (hapart : Slot.Apart slots) {closed : Bool} {vs : List Value} {draft : σ} :
    (∃ draft', items closed slots vs draft = .ok draft') ↔
      closed = true ∧ vs.length ≤ slots.length ∧ (∀ slot ∈ slots.drop vs.length, slot.mayEndBefore = true) ∧
        ∀ place ∈ slots.zip vs, place.1.Accepts place.2 := by
  induction slots generalizing vs draft with
  | nil =>
      cases vs with
      | nil => cases closed <;> simp [items]
      | cons v vs => simp [items]
  | cons slot slots ih =>
      cases vs with
      | nil =>
          have hrest := @ih hapart.tail [] draft
          cases closed with
          | false => simp [items]
          | true =>
              cases hends : slot.mayEndBefore with
              | false => simp [items, hends]
              | true => simpa [items, hends] using hrest
      | cons v vs =>
          constructor
          · rintro ⟨draft', h⟩
            obtain ⟨next, hread, hitems⟩ := Outcome.bind_eq_ok.1 h
            obtain ⟨hclosed, hlength, hends, hplaces⟩ := (ih hapart.tail).1 ⟨draft', hitems⟩
            refine ⟨hclosed, Nat.succ_le_succ hlength, hends, List.forall_mem_cons.2 ⟨?_, hplaces⟩⟩
            exact hapart.accepts slot (.head _) v draft next hread
          · rintro ⟨hclosed, hlength, hends, hplaces⟩
            obtain ⟨hplace, hplaces⟩ := List.forall_mem_cons.1 hplaces
            obtain ⟨next, hread⟩ := hplace draft
            obtain ⟨draft', hitems⟩ := (ih hapart.tail).2 ⟨hclosed, Nat.le_of_succ_le_succ hlength, hends, hplaces⟩
            exact ⟨draft', Outcome.bind_eq_ok.2 ⟨next, hread, hitems⟩⟩

/-! ## Records -/

/-- What a value must be for a record to be read from it. -/
def Fits (slots : List (Slot σ)) : Value → Prop
  | .object fields closed =>
      closed = true ∧ (∀ entry ∈ fields, Admits slots entry) ∧
        ∀ slot ∈ slots, (valuesUnder fields slot.name).length ≤ 1
  | .array vs closed =>
      closed = true ∧ vs.length ≤ slots.length ∧ (∀ slot ∈ slots.drop vs.length, slot.mayEndBefore = true) ∧
        ∀ place ∈ slots.zip vs, place.1.Accepts place.2
  | _ => False

theorem exists_read_iff (hapart : Slot.Apart slots) {blank : σ} (hblank : ∀ slot ∈ slots, slot.isSet blank = false)
    {v : Value} : (∃ draft, read slots blank v = .ok draft) ↔ Fits slots v := by
  cases v with
  | object fields closed =>
      have honce : FillsOnce slots fields blank ↔ ∀ slot ∈ slots, (valuesUnder fields slot.name).length ≤ 1 := by
        refine forall₂_congr fun slot hslot => ?_
        rw [hblank slot hslot, Bool.toNat_false, Nat.add_zero]
      rw [Fits, ← honce, ← exists_foldlM_field_iff hapart]
      constructor
      · rintro ⟨draft, h⟩
        obtain ⟨filled, hfields, hclosed⟩ := Outcome.bind_eq_ok.1 h
        cases closed with
        | false => cases hclosed
        | true => exact ⟨rfl, filled, hfields⟩
      · rintro ⟨rfl, filled, hfields⟩
        exact ⟨filled, Outcome.bind_eq_ok.2 ⟨filled, hfields, rfl⟩⟩
  | array vs closed => exact exists_items_iff hapart
  | _ => simp [read, Fits]

/-! ## Records of which nothing is missing -/

/-- Whether a value holds each member once: as an object, in any order and among others that are read to their end,
or as an array of just the members, in the order of their names. -/
def LaidOut (names : List String) (member : String → Value) : Value → Prop
  | .object fields closed =>
      closed = true ∧
        (∀ entry ∈ fields, ∃ name, entry.1 = .name name ∧ (name ∈ names ∨ entry.2.isComplete = true)) ∧
        ∀ name ∈ names, valuesUnder fields name = [member name]
  | .array vs closed => closed = true ∧ vs = names.map member
  | _ => False

variable {member : String → Value} {v : Value}

theorem zip_map_self {α β : Type} (f : α → β) (as : List α) : as.zip (as.map f) = as.map fun a => (a, f a) := by
  induction as with
  | nil => rfl
  | cons a as ih => rw [List.map_cons, List.zip_cons_cons, ih, List.map_cons]

theorem LaidOut.isComplete {names : List String} (h : LaidOut names member v) : v.isComplete = true := by
  cases v with
  | object fields closed => exact h.1
  | array vs closed => exact h.1
  | broken => exact h.elim
  | _ => rfl

theorem fits_of_laidOut (hlaid : LaidOut (slots.map Slot.name) member v)
    (haccepts : ∀ slot ∈ slots, slot.Accepts (member slot.name)) : Fits slots v := by
  cases v with
  | object fields closed =>
      obtain ⟨hclosed, hfields, hvalues⟩ := hlaid
      have hvalue (slot : Slot σ) (hslot : slot ∈ slots) : valuesUnder fields slot.name = [member slot.name] :=
        hvalues slot.name (List.mem_map_of_mem hslot)
      refine ⟨hclosed, fun entry hentry => ?_, fun slot hslot => by rw [hvalue slot hslot]; exact Nat.le_refl 1⟩
      obtain ⟨name, hkey, hcase⟩ := hfields entry hentry
      refine ⟨name, hkey, ?_⟩
      by_cases hname : ∃ slot ∈ slots, slot.name = name
      · obtain ⟨slot, hslot, rfl⟩ := hname
        have hmem : entry.2 ∈ valuesUnder fields slot.name := mem_valuesUnder_iff.2 (hkey ▸ hentry)
        rw [hvalue slot hslot, List.mem_singleton] at hmem
        exact .inl ⟨slot, hslot, rfl, hmem ▸ haccepts slot hslot⟩
      · have hothers : ∀ slot ∈ slots, slot.name ≠ name := fun slot hslot h => hname ⟨slot, hslot, h⟩
        refine .inr ⟨hothers, hcase.resolve_left fun hmem => ?_⟩
        obtain ⟨slot, hslot, h⟩ := List.mem_map.1 hmem
        exact hothers slot hslot h
  | array vs closed =>
      obtain ⟨hclosed, rfl⟩ := hlaid
      refine ⟨hclosed, by simp, by simp, fun place hplace => ?_⟩
      rw [List.map_map, zip_map_self, List.mem_map] at hplace
      obtain ⟨slot, hslot, rfl⟩ := hplace
      exact haccepts slot hslot
  | _ => exact hlaid.elim

/-- The items of an array are the members in order if each slot finds its own member among them. -/
theorem members_array_iff (hnodup : (slots.map Slot.name).Nodup) {vs : List Value} {closed : Bool}
    (hlength : vs.length = slots.length) :
    (∀ slot ∈ slots, member? slots slot.name (.array vs closed) = some (member slot.name)) ↔
      vs = (slots.map Slot.name).map member := by
  induction slots generalizing vs with
  | nil => simpa using hlength
  | cons slot slots ih =>
      obtain ⟨hfresh, hrest⟩ := List.nodup_cons.1 hnodup
      cases vs with
      | nil => cases hlength
      | cons v vs =>
          have hlater : ∀ other ∈ slots, member? (slot :: slots) other.name (.array (v :: vs) closed) =
              member? slots other.name (.array vs closed) := by
            intro other hother
            have hne : slot.name ≠ other.name := fun h => hfresh (h ▸ List.mem_map_of_mem hother)
            exact valueUnder?_cons_of_ne (by simpa using hne)
          have hfirst : member? (slot :: slots) slot.name (.array (v :: vs) closed) = some v := valueUnder?_cons_self
          rw [List.forall_mem_cons, hfirst, Option.some.injEq, List.map_cons, List.map_cons, List.cons.injEq,
            ← ih hrest (Nat.succ.inj hlength)]
          exact and_congr_right fun _ => forall₂_congr fun other hother => by rw [hlater other hother]

theorem member?_of_laidOut (hnodup : (slots.map Slot.name).Nodup) (hlaid : LaidOut (slots.map Slot.name) member v)
    (hslot : slot ∈ slots) : member? slots slot.name v = some (member slot.name) := by
  cases v with
  | object fields closed =>
      obtain ⟨_, _, hvalues⟩ := hlaid
      rw [member?, members, valueUnder?_eq_head?, hvalues slot.name (List.mem_map_of_mem hslot), List.head?_cons]
  | array vs closed =>
      obtain ⟨_, rfl⟩ := hlaid
      exact (members_array_iff hnodup (by simp)).2 rfl slot hslot
  | _ => exact hlaid.elim

/-- A value that fits has each member once if none is missing. -/
theorem laidOut_of_fits (hends : ∀ slot ∈ slots, slot.mayEndBefore = false) (hnodup : (slots.map Slot.name).Nodup)
    (hfits : Fits slots v) (hmember : ∀ slot ∈ slots, member? slots slot.name v = some (member slot.name)) :
    LaidOut (slots.map Slot.name) member v := by
  cases v with
  | object fields closed =>
      obtain ⟨hclosed, hadmits, honce⟩ := hfits
      refine ⟨hclosed, fun entry hentry => ?_, fun name hname => ?_⟩
      · obtain ⟨k, hkey, ⟨slot, hslot, rfl, _⟩ | ⟨_, hcomplete⟩⟩ := hadmits entry hentry
        · exact ⟨_, hkey, .inl (List.mem_map_of_mem hslot)⟩
        · exact ⟨k, hkey, .inr hcomplete⟩
      · obtain ⟨slot, hslot, rfl⟩ := List.mem_map.1 hname
        have hhead := hmember slot hslot
        rw [member?, members, valueUnder?_eq_head?] at hhead
        have hlength := honce slot hslot
        cases hvalues : valuesUnder fields slot.name with
        | nil => rw [hvalues] at hhead; cases hhead
        | cons w ws =>
            rw [hvalues] at hhead hlength
            cases hhead
            cases ws with
            | nil => rfl
            | cons w' ws => simp at hlength
  | array vs closed =>
      obtain ⟨hclosed, hlength, hdrop, _⟩ := hfits
      refine ⟨hclosed, (members_array_iff hnodup (Nat.le_antisymm hlength (Nat.not_lt.1 fun hshort => ?_))).1 hmember⟩
      -- Were the array too short, the next slot would have to allow that.
      have hnext : slots[vs.length] ∈ slots.drop vs.length := by
        rw [List.drop_eq_getElem_cons hshort]
        exact .head _
      have hallows := hdrop _ hnext
      rw [hends _ (List.mem_of_mem_drop hnext)] at hallows
      cases hallows
  | _ => exact hfits.elim

theorem exists_read_iff_laidOut (hapart : Slot.Apart slots) {blank : σ}
    (hblank : ∀ slot ∈ slots, slot.isSet blank = false) (hends : ∀ slot ∈ slots, slot.mayEndBefore = false)
    (haccepts : ∀ slot ∈ slots, slot.Accepts (member slot.name)) :
    ((∃ draft, read slots blank v = .ok draft) ∧
      ∀ name ∈ slots.map Slot.name, member? slots name v = some (member name)) ↔
        LaidOut (slots.map Slot.name) member v := by
  rw [exists_read_iff hapart hblank]
  constructor
  · rintro ⟨hfits, hmember⟩
    exact laidOut_of_fits hends hapart.nodup hfits fun slot hslot => hmember slot.name (List.mem_map_of_mem hslot)
  · intro hlaid
    refine ⟨fits_of_laidOut hlaid haccepts, fun name hname => ?_⟩
    obtain ⟨slot, hslot, rfl⟩ := List.mem_map.1 hname
    exact member?_of_laidOut hapart.nodup hlaid hslot

/-! ## Parts -/

/-- A part that is filled in is what the member of its name decodes to. -/
theorem get_eq_some_iff {α : Type} {get : σ → Option α} {decode : Decoder α} (hkeeps : Slot.Keeps slots name get decode)
    (hnodup : (slots.map Slot.name).Nodup) (hslot : name ∈ slots.map Slot.name) {blank draft : σ}
    (hblank : get blank = none) (h : read slots blank v = .ok draft) {a : α} :
    get draft = some a ↔ ∃ w, member? slots name v = some w ∧ decode w = .ok a := by
  rw [get_of_read hkeeps hnodup (List.mem_map.1 hslot) hblank h, Option.bind_eq_some_iff]
  refine exists_congr fun w => and_congr_right fun _ => ?_
  cases decode w <;> simp [Except.toOption]

/-- An object is read to the same parts when its fields stand in another order. -/
theorem exists_read_of_perm (hapart : Slot.Apart slots) {blank draft : σ}
    (hblank : ∀ slot ∈ slots, slot.isSet blank = false) {fields fields' : List (Key × Value)} {closed : Bool}
    (hperm : fields.Perm fields') (h : read slots blank (.object fields' closed) = .ok draft) :
    ∃ draft', read slots blank (.object fields closed) = .ok draft' ∧
      ∀ {α : Type} {name : String} {get : σ → Option α} {decode : Decoder α}, Slot.Keeps slots name get decode →
        name ∈ slots.map Slot.name → get blank = none → get draft' = get draft := by
  obtain ⟨hclosed, hadmits, honce⟩ := (exists_read_iff hapart hblank).1 ⟨draft, h⟩
  have hfits : Fits slots (.object fields closed) :=
    ⟨hclosed, fun entry hentry => hadmits entry (hperm.mem_iff.1 hentry),
      fun slot hslot => (valuesUnder_perm hperm slot.name).length_eq ▸ honce slot hslot⟩
  obtain ⟨draft', h'⟩ := (exists_read_iff hapart hblank).2 hfits
  refine ⟨draft', h', fun {α name get decode} hkeeps hname hget => ?_⟩
  obtain ⟨slot, hslot, rfl⟩ := List.mem_map.1 hname
  rw [get_of_read hkeeps hapart.nodup ⟨slot, hslot, rfl⟩ hget h',
    get_of_read hkeeps hapart.nodup ⟨slot, hslot, rfl⟩ hget h]
  simp only [member?, members, valueUnder?_eq_head?, valuesUnder_eq_of_perm hperm (honce slot hslot)]

theorem required_eq_ok_iff {α : Type} {part : Option α} {a : α} : required part = .ok a ↔ part = some a := by
  cases part <;> simp [required]

end Record

end TokenAuthority.Json
