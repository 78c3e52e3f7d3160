import TokenAuthority.Json.Decoding
import TokenAuthority.Proofs.Basic

/-!
# What a record is read from

Each part of a record comes from the one member of the value that its slot reads, and no other member has a say
in it. Main statements: `Record.get_of_read`, `decodeWhole_eq_ok_iff`.
-/

namespace TokenAuthority.Json

variable {σ α : Type} {slots : List (Slot σ)} {name : String} {get : σ → Option α} {decode : Decoder α}

/-- A part of a record that the slots of one name fill in, once, and that all the others leave as it is. -/
structure Slot.Keeps (slots : List (Slot σ)) (name : String) (get : σ → Option α) (decode : Decoder α) : Prop where
  guarded : ∀ slot ∈ slots, slot.name = name → ∀ s, slot.isSet s = (get s).isSome
  fills : ∀ slot ∈ slots, slot.name = name → ∀ v s s', slot.read v s = .ok s' →
    ∃ a, decode v = .ok a ∧ get s' = some a
  leaves : ∀ slot ∈ slots, slot.name ≠ name → ∀ v s s', slot.read v s = .ok s' → get s' = get s

namespace Slot.Keeps

theorem tail {slot : Slot σ} (h : Slot.Keeps (slot :: slots) name get decode) :
    Slot.Keeps slots name get decode :=
  ⟨fun t ht => h.guarded t (.tail _ ht), fun t ht => h.fills t (.tail _ ht), fun t ht => h.leaves t (.tail _ ht)⟩

theorem nil : Slot.Keeps [] name get decode :=
  ⟨nofun, nofun, nofun⟩

theorem cons {slot : Slot σ} (h : Slot.Keeps slots name get decode) (hname : slot.name ≠ name)
    (hleaves : ∀ v s s', slot.read v s = .ok s' → get s' = get s) : Slot.Keeps (slot :: slots) name get decode := by
  refine ⟨fun t ht hown => ?_, fun t ht hown => ?_, fun t ht hother => ?_⟩ <;> rcases List.mem_cons.1 ht with rfl | ht
  · exact absurd hown hname
  · exact h.guarded t ht hown
  · exact absurd hown hname
  · exact h.fills t ht hown
  · exact hleaves
  · exact h.leaves t ht hother

theorem cons_of {set : α → σ → σ} (h : Slot.Keeps slots name get decode) (hset : ∀ a s, get (set a s) = some a) :
    Slot.Keeps (.of name get set decode :: slots) name get decode := by
  refine ⟨fun t ht hown => ?_, fun t ht hown => ?_, fun t ht hother => ?_⟩ <;> rcases List.mem_cons.1 ht with rfl | ht
  · exact fun _ => rfl
  · exact h.guarded t ht hown
  · intro v s s' hread
    obtain ⟨a, hdecode, rfl⟩ := Outcome.map_eq_ok.1 hread
    exact ⟨a, hdecode, hset a s⟩
  · exact h.fills t ht hown
  · exact absurd rfl hother
  · exact h.leaves t ht hother

theorem cons_of_ne {β : Type} {other : String} {get' : σ → Option β} {set : β → σ → σ} {decode' : Decoder β}
    (h : Slot.Keeps slots name get decode) (hname : other ≠ name) (hset : ∀ b s, get (set b s) = get s) :
    Slot.Keeps (.of other get' set decode' :: slots) name get decode := by
  refine h.cons hname fun v s s' hread => ?_
  obtain ⟨b, _, rfl⟩ := Outcome.map_eq_ok.1 hread
  exact hset b s

/-- That a slot may be missing at the end of an array plays no part in what is kept. -/
theorem mayEnd (slot : Slot σ) (h : Slot.Keeps (slot :: slots) name get decode) :
    Slot.Keeps ({ slot with mayEndBefore := true } :: slots) name get decode := by
  refine ⟨fun t ht => ?_, fun t ht => ?_, fun t ht => ?_⟩ <;> rcases List.mem_cons.1 ht with rfl | ht
  · exact h.guarded slot (.head _)
  · exact h.guarded t (.tail _ ht)
  · exact h.fills slot (.head _)
  · exact h.fills t (.tail _ ht)
  · exact h.leaves slot (.head _)
  · exact h.leaves t (.tail _ ht)

end Slot.Keeps

namespace Record

/-- The members of a value that a record is read from; the items of an array go by the names of the slots. -/
def members (slots : List (Slot σ)) : Value → List (Key × Value)
  | .object fields _ => fields
  | .array items _ => slots.zipWith (fun slot v => (.name slot.name, v)) items
  | _ => []

/-- The value of the first field of a name. -/
def valueUnder? (fields : List (Key × Value)) (name : String) : Option Value :=
  (fields.find? fun field => field.1 = .name name).map Prod.snd

/-- The member of a value that the slot of a name is read from. -/
def member? (slots : List (Slot σ)) (name : String) (v : Value) : Option Value :=
  valueUnder? (members slots v) name

theorem valueUnder?_cons_self {v : Value} {fields : List (Key × Value)} :
    valueUnder? ((.name name, v) :: fields) name = some v := by
  simp [valueUnder?]

theorem valueUnder?_cons_of_ne {key : Key} {v : Value} {fields : List (Key × Value)} (h : key ≠ .name name) :
    valueUnder? ((key, v) :: fields) name = valueUnder? fields name := by
  simp [valueUnder?, h]

/-! ## Objects -/

/-- A field that is read: one of the slots' or one that is passed over. -/
theorem field_cases {draft draft' : σ} {entry : Key × Value} (h : field slots draft entry = .ok draft') :
    ∃ k v, entry = (.name k, v) ∧
      ((∃ slot ∈ slots, slot.name = k ∧ slot.isSet draft = false ∧ slot.read v draft = .ok draft') ∨
        ((∀ slot ∈ slots, slot.name ≠ k) ∧ v.isComplete = true ∧ draft' = draft)) := by
  obtain ⟨key, v⟩ := entry
  cases key with
  | name k =>
      refine ⟨k, v, rfl, ?_⟩
      simp only [field] at h
      split at h
      · rename_i slot hfind
        split at h
        · cases h
        · rename_i hset
          have hname : slot.name = k := by simpa using List.find?_some hfind
          exact .inl ⟨slot, List.mem_of_find?_eq_some hfind, hname, by simpa using hset, h⟩
      · rename_i hnone
        split at h
        · rename_i hcomplete
          cases h
          exact .inr ⟨fun slot hslot => by simpa using List.find?_eq_none.1 hnone slot hslot, hcomplete, rfl⟩
        · cases h
  | _ => cases h

/-- A part that is filled in stays as it is to the end of the object. -/
theorem get_of_foldlM_field_of_some (hkeeps : Slot.Keeps slots name get decode) {fields : List (Key × Value)}
    {draft draft' : σ} {a : α} (hget : get draft = some a) (h : fields.foldlM (field slots) draft = .ok draft') :
    get draft' = some a := by
  induction fields generalizing draft with
  | nil => cases h; exact hget
  | cons entry fields ih =>
      obtain ⟨next, hfield, hrest⟩ := Outcome.foldlM_cons_eq_ok.1 h
      refine ih ?_ hrest
      obtain ⟨k, v, rfl, ⟨slot, hslot, hname, hunset, hread⟩ | ⟨_, _, rfl⟩⟩ := field_cases hfield
      · by_cases hk : slot.name = name
        · rw [hkeeps.guarded slot hslot hk, hget] at hunset
          cases hunset
        · rw [hkeeps.leaves slot hslot hk v draft next hread, hget]
      · exact hget

/-- A part that is not filled in yet is read from the first field of its name. -/
theorem get_of_foldlM_field (hkeeps : Slot.Keeps slots name get decode) (hslot : ∃ slot ∈ slots, slot.name = name)
    {fields : List (Key × Value)} {draft draft' : σ} (hget : get draft = none)
    (h : fields.foldlM (field slots) draft = .ok draft') :
    get draft' = (valueUnder? fields name).bind fun v => (decode v).toOption := by
  induction fields generalizing draft with
  | nil => cases h; simpa [valueUnder?] using hget
  | cons entry fields ih =>
      obtain ⟨next, hfield, hrest⟩ := Outcome.foldlM_cons_eq_ok.1 h
      obtain ⟨k, v, rfl, hcase⟩ := field_cases hfield
      by_cases hk : k = name
      · subst hk
        rcases hcase with ⟨slot, hmem, hname, _, hread⟩ | ⟨hnone, _⟩
        -- This field fills the part in, and none that comes after it can do so again.
        · obtain ⟨a, hdecode, hnext⟩ := hkeeps.fills slot hmem hname v draft next hread
          rw [valueUnder?_cons_self, get_of_foldlM_field_of_some hkeeps hnext hrest]
          simp [hdecode, Except.toOption]
        · obtain ⟨slot, hmem, hname⟩ := hslot
          exact absurd hname (hnone slot hmem)
      · rw [valueUnder?_cons_of_ne (by simpa using hk)]
        refine ih ?_ hrest
        rcases hcase with ⟨slot, hmem, rfl, _, hread⟩ | ⟨_, _, rfl⟩
        · rw [hkeeps.leaves slot hmem hk v draft next hread, hget]
        · exact hget

/-! ## Arrays -/

/-- The items of an array leave a part alone that none of the slots has the name of. -/
theorem get_of_items_of_notMem (hkeeps : Slot.Keeps slots name get decode) (hname : name ∉ slots.map Slot.name)
    {closed : Bool} {vs : List Value} {draft draft' : σ} (h : items closed slots vs draft = .ok draft') :
    get draft' = get draft := by
  induction slots generalizing vs draft with
  | nil =>
      cases vs with
      | nil =>
          simp only [items] at h
          split at h
          · cases h; rfl
          · cases h
      | cons v vs => cases h
  | cons slot slots ih =>
      simp only [List.map_cons, List.mem_cons, not_or] at hname
      cases vs with
      | nil =>
          simp only [items] at h
          split at h
          · cases h
          · split at h
            · exact ih hkeeps.tail hname.2 h
            · cases h
      | cons v vs =>
          obtain ⟨next, hread, hrest⟩ := Outcome.bind_eq_ok.1 h
          rw [ih hkeeps.tail hname.2 hrest]
          exact hkeeps.leaves slot (.head _) (Ne.symm hname.1) v draft next hread

/-- A part that is not filled in yet is read from the item at the place of its slot. -/
theorem get_of_items (hkeeps : Slot.Keeps slots name get decode) (hdistinct : (slots.map Slot.name).Nodup)
    {closed : Bool} {vs : List Value} {draft draft' : σ} (hget : get draft = none)
    (h : items closed slots vs draft = .ok draft') :
    get draft' = (valueUnder? (members slots (.array vs closed)) name).bind fun v => (decode v).toOption := by
  induction slots generalizing vs draft with
  | nil =>
      rw [get_of_items_of_notMem hkeeps (by simp) h, hget]
      rfl
  | cons slot slots ih =>
      obtain ⟨hfresh, hrest⟩ := List.nodup_cons.1 hdistinct
      cases vs with
      | nil =>
          simp only [items] at h
          split at h
          · cases h
          · split at h
            · rw [ih hkeeps.tail hrest hget h]
              simp [members, valueUnder?]
            · cases h
      | cons v vs =>
          obtain ⟨next, hread, hitems⟩ := Outcome.bind_eq_ok.1 h
          rw [members, List.zipWith_cons_cons]
          by_cases hk : slot.name = name
          · subst hk
            obtain ⟨a, hdecode, hnext⟩ := hkeeps.fills slot (.head _) rfl v draft next hread
            rw [valueUnder?_cons_self, get_of_items_of_notMem hkeeps.tail hfresh hitems, hnext]
            simp [hdecode, Except.toOption]
          · rw [valueUnder?_cons_of_ne (by simpa using hk)]
            refine ih hkeeps.tail hrest ?_ hitems
            rw [hkeeps.leaves slot (.head _) hk v draft next hread, hget]

/-- Each part of a record is what its own member decodes to, whatever the other members hold. -/
theorem get_of_read (hkeeps : Slot.Keeps slots name get decode) (hdistinct : (slots.map Slot.name).Nodup)
    (hslot : ∃ slot ∈ slots, slot.name = name) {blank draft : σ} (hblank : get blank = none) {v : Value}
    (h : read slots blank v = .ok draft) :
    get draft = (member? slots name v).bind fun w => (decode w).toOption := by
  cases v with
  | object fields closed =>
      obtain ⟨filled, hfields, hclosed⟩ := Outcome.bind_eq_ok.1 h
      cases closed with
      | false => cases hclosed
      | true =>
          cases hclosed
          exact get_of_foldlM_field hkeeps hslot hblank hfields
  | array vs closed => exact get_of_items hkeeps hdistinct hblank h
  | _ => cases h

end Record

/-! ## Whole texts -/

/-- A source that holds one value and nothing but white space after it. -/
def Source.Holds (source : Source) (v : Value) : Prop :=
  ∃ rest, Value.read source = (v, rest) ∧ skipSpace rest = []

theorem decodeWhole_eq_ok_iff {source : Source} {a : α} :
    decodeWhole decode source = .ok a ↔ ∃ v, source.Holds v ∧ decode v = .ok a := by
  rcases hread : Value.read source with ⟨v, rest⟩
  constructor
  · intro h
    simp only [decodeWhole, hread] at h
    obtain ⟨a', hdecode, h⟩ := Outcome.bind_eq_ok.1 h
    split at h
    · rename_i hrest
      cases h
      exact ⟨v, ⟨rest, hread, List.isEmpty_iff.1 hrest⟩, hdecode⟩
    · cases h
  · rintro ⟨w, ⟨rest', hread', hrest⟩, hdecode⟩
    rw [hread] at hread'
    cases hread'
    simp [decodeWhole, hread, hdecode, hrest, bind, Except.bind]

end TokenAuthority.Json
