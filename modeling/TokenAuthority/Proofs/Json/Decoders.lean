import TokenAuthority.Proofs.Basic
import TokenAuthority.Json.Decoding
import TokenAuthority.Json.Document

/-!
# What the basic decoders take

Each decoder of a text, a number, a list or a name as the shape of the values that it takes.
-/

namespace TokenAuthority

namespace Outcome

theorem mapM_eq_ok_iff {ε α β : Type} {f : α → Except ε β} {as : List α} {bs : List β} :
    as.mapM f = .ok bs ↔ List.Forall₂ (fun a b => f a = .ok b) as bs := by
  induction as generalizing bs with
  | nil => simp [pure, Except.pure, eq_comm]
  | cons a as ih =>
      rw [List.mapM_cons, bind_eq_ok, List.forall₂_cons_left_iff]
      constructor
      · rintro ⟨b, hb, h⟩
        obtain ⟨bs', hbs, h⟩ := bind_eq_ok.1 h
        cases h
        exact ⟨b, bs', hb, ih.1 hbs, rfl⟩
      · rintro ⟨b, bs', hb, hbs, rfl⟩
        exact ⟨b, hb, bind_eq_ok.2 ⟨bs', ih.2 hbs, rfl⟩⟩

theorem exists_forall₂_iff {α β : Type} {R : α → β → Prop} {as : List α} :
    (∃ bs, List.Forall₂ R as bs) ↔ ∀ a ∈ as, ∃ b, R a b := by
  induction as with
  | nil => simp
  | cons a as ih =>
      rw [List.forall_mem_cons, ← ih]
      constructor
      · rintro ⟨_, h⟩
        cases h with
        | cons hhead htail => exact ⟨⟨_, hhead⟩, _, htail⟩
      · rintro ⟨⟨b, hhead⟩, bs, htail⟩
        exact ⟨b :: bs, .cons hhead htail⟩

end Outcome

namespace Json

/-- An integer is written without fraction and exponent. -/
theorem Numeral.toInt?_parts {n : Numeral} {i : Int} (h : n.toInt? = some i) :
    n.fraction = none ∧ n.exponent = none := by
  unfold toInt? at h
  split at h
  · cases h
  · rename_i hparts
    simpa using hparts

namespace Decoder

variable {α : Type} {v : Value}

theorem text_eq_ok_iff {s : String} : text v = .ok s ↔ v = .text (some s) := by
  cases v with
  | text t => cases t <;> simp [text]
  | _ => simp [text]

theorem parsed_eq_ok_iff {parse? : String → Option α} {a : α} :
    parsed parse? v = .ok a ↔ ∃ s, v = .text (some s) ∧ parse? s = some a := by
  rw [parsed, Outcome.bind_eq_ok]
  refine exists_congr fun s => and_congr text_eq_ok_iff ?_
  cases parse? s <;> simp

theorem integer_eq_ok_iff {i : Int} : integer v = .ok i ↔
    ∃ n, v = .number n ∧ n.toInt? = some i ∧ -(Nat.pow 2 63 : Nat) ≤ i ∧ i < (Nat.pow 2 64 : Nat) := by
  cases v with
  | number n =>
      constructor
      · intro h
        simp only [integer] at h
        split at h
        · rename_i j hj
          split at h
          · cases h
            exact ⟨n, rfl, hj, ‹_›⟩
          · cases h
        · cases h
      · rintro ⟨_, hn, hi, hrange⟩
        cases hn
        simp only [integer, hi]
        rw [if_pos hrange]
  | _ => simp [integer]

theorem optional_of_ne_null {decode : Decoder α} (h : v ≠ .null) : optional decode v = (decode v).map some := by
  cases v <;> first | rfl | exact absurd rfl h

theorem list_eq_ok_iff {decode : Decoder α} {as : List α} : list decode v = .ok as ↔
    ∃ items, v = .array items true ∧ List.Forall₂ (fun item a => decode item = .ok a) items as := by
  cases v with
  | array items closed =>
      simp only [list, Outcome.bind_eq_ok, Outcome.mapM_eq_ok_iff]
      cases closed with
      | false => simp
      | true => simp
  | _ => simp [list]

/-- Lists read back as they are written if their items do. -/
theorem list_toValue {encode : α → Document} {decode : Decoder α}
    (h : ∀ a, decode (encode a).toValue = .ok a) (as : List α) :
    list decode (Document.array (as.map encode)).toValue = .ok as := by
  refine list_eq_ok_iff.2 ⟨_, rfl, ?_⟩
  induction as with
  | nil => exact .nil
  | cons a as ih => exact .cons (h a) ih

/-- A name is written as a text, or as the key of an object that holds null under it and nothing else. -/
theorem named_eq_ok_iff {ofName? : String → Option α} {a : α} : named ofName? v = .ok a ↔
    ∃ s, ofName? s = some a ∧ (v = .text (some s) ∨ v = .object [(.name s, .null)] true) := by
  constructor
  · intro h
    unfold named at h
    split at h
    · rename_i s
      split at h
      · rename_i hname
        cases h
        exact ⟨s, hname, .inl rfl⟩
      · cases h
    · rename_i s w fields closed
      split at h
      · cases h
      · rename_i hname
        split at h
        · rename_i hend
          cases h
          obtain ⟨hfields, rfl⟩ : fields = [] ∧ closed = true := by simpa using hend
          exact ⟨s, hname, .inr (by rw [hfields])⟩
        · cases h
      · cases h
    · cases h
    · cases h
  · rintro ⟨s, hname, rfl | rfl⟩
    · simp [named, hname]
    · simp [named, hname]

end Decoder

end Json

end TokenAuthority
