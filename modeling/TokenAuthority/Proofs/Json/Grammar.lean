import Mathlib.Data.List.Basic
import TokenAuthority.Proofs.Json.Lexemes
import TokenAuthority.Proofs.Json.Records

/-!
# How values are written

The grammar of JSON: a value is written as its tokens, with white space before each of them. The reader takes a source
for a value that is read to its end exactly if the source spells that value. Main statements: `Source.holds_iff_spells`,
`decodeWhole_eq_ok_iff_of_complete`.
-/

namespace TokenAuthority.Json

/-! ## Lists of tokens -/

/-- How tokens are written one after another. -/
inductive Source.Lexes : List Token → Source → Source → Prop
  | nil (source : Source) : Lexes [] source source
  | cons {t : Token} {ts : List Token} {source mid rest : Source} (h : t.Follows source mid)
      (hrest : Lexes ts mid rest) : Lexes (t :: ts) source rest

namespace Source.Lexes

variable {t : Token} {ts us : List Token} {source rest : Source}

theorem of_cons (h : Lexes (t :: ts) source rest) : ∃ mid, t.Follows source mid ∧ Lexes ts mid rest := by
  cases h with
  | cons ht hrest => exact ⟨_, ht, hrest⟩

theorem of_append (h : Lexes (ts ++ us) source rest) : ∃ mid, Lexes ts source mid ∧ Lexes us mid rest := by
  induction ts generalizing source with
  | nil => exact ⟨source, .nil source, h⟩
  | cons t ts ih =>
      obtain ⟨next, ht, hnext⟩ := h.of_cons
      obtain ⟨mid, hts, hus⟩ := ih hnext
      exact ⟨mid, .cons ht hts, hus⟩

end Source.Lexes

/-! ## Values as tokens -/

/-- The token of a key; nothing is written for one that is misplaced. -/
def Key.token : Key → Token
  | .name s => .text (some s)
  | .unreadable => .text none
  | .torn => .torn
  | .misplaced => .bad

namespace Value

mutual

/-- The tokens that a value is written as. -/
def tokens : Value → List Token
  | .null => [.null]
  | .boolean b => [.boolean b]
  | .number n => [.number n]
  | .text t => [.text t]
  | .torn => [.torn]
  | .array items _ => .openArray :: ([.comma].intercalate (itemTokens items) ++ [.closeArray])
  | .object fields _ => .openObject :: ([.comma].intercalate (fieldTokens fields) ++ [.closeObject])
  | .broken => [.bad]

/-- The tokens of each of some items. -/
def itemTokens : List Value → List (List Token)
  | [] => []
  | item :: items => item.tokens :: itemTokens items

/-- The tokens of each of some fields. -/
def fieldTokens : List (Key × Value) → List (List Token)
  | [] => []
  | (key, value) :: fields => (key.token :: .colon :: value.tokens) :: fieldTokens fields

end

mutual

/-- Whether a value was read to its end, with everything in it. -/
def IsWhole : Value → Prop
  | .array items closed => closed = true ∧ AreWhole items
  | .object fields closed => closed = true ∧ AreWholeFields fields
  | .broken => False
  | _ => True

/-- Whether each of some items is whole. -/
def AreWhole : List Value → Prop
  | [] => True
  | item :: items => item.IsWhole ∧ AreWhole items

/-- Whether each of some fields is whole under a key that is a text. -/
def AreWholeFields : List (Key × Value) → Prop
  | [] => True
  | (key, value) :: fields => (key ≠ .misplaced ∧ value.IsWhole) ∧ AreWholeFields fields

end

/-- The tokens of a field. -/
def entryTokens (entry : Key × Value) : List Token := entry.1.token :: .colon :: entry.2.tokens

theorem itemTokens_eq_map (items : List Value) : itemTokens items = items.map tokens := by
  induction items with
  | nil => rfl
  | cons item items ih => rw [itemTokens, ih, List.map_cons]

theorem fieldTokens_eq_map (fields : List (Key × Value)) : fieldTokens fields = fields.map entryTokens := by
  induction fields with
  | nil => rfl
  | cons entry fields ih =>
      obtain ⟨key, value⟩ := entry
      rw [fieldTokens, ih, List.map_cons, entryTokens]

theorem areWhole_iff {items : List Value} : AreWhole items ↔ ∀ item ∈ items, item.IsWhole := by
  induction items with
  | nil => simp [AreWhole]
  | cons item items ih => rw [AreWhole, ih, List.forall_mem_cons]

theorem areWholeFields_iff {fields : List (Key × Value)} :
    AreWholeFields fields ↔ ∀ entry ∈ fields, entry.1 ≠ .misplaced ∧ entry.2.IsWhole := by
  induction fields with
  | nil => simp [AreWholeFields]
  | cons entry fields ih =>
      obtain ⟨key, value⟩ := entry
      rw [AreWholeFields, ih, List.forall_mem_cons]

end Value

/-- Parts that are each followed by a mark, and then one more, are the parts with marks between them. -/
theorem intercalate_concat {α : Type} (mark : α) (parts : List (List α)) (last : List α) :
    [mark].intercalate (parts ++ [last]) = parts.flatMap (· ++ [mark]) ++ last := by
  induction parts with
  | nil => simp
  | cons part parts ih =>
      cases parts with
      | nil => simp
      | cons next parts => simpa using ih

theorem intercalate_append_mark {α : Type} {mark : α} {parts : List (List α)} (h : parts ≠ []) :
    [mark].intercalate parts ++ [mark] = parts.flatMap (· ++ [mark]) := by
  obtain ⟨first, last, rfl⟩ := (List.eq_nil_or_concat parts).resolve_left h
  simp [intercalate_concat]

theorem intercalate_cons {α : Type} (mark : α) (first : List α) (parts : List (List α)) :
    [mark].intercalate (first :: parts) = first ++ parts.flatMap (mark :: ·) := by
  induction parts generalizing first with
  | nil => simp
  | cons part parts ih => simp [ih]

/-! ## The reader is sound -/

namespace Reader

open Value (entryTokens)

/-- The tokens read into an open container. -/
def Frame.tokens : Frame → List Token
  | .array items => .openArray :: (items.reverse.map Value.tokens).flatMap (· ++ [.comma])
  | .object fields key =>
      .openObject :: ((fields.reverse.map entryTokens).flatMap (· ++ [.comma]) ++ [key.token, .colon])

/-- Whether everything in an open container is whole. -/
def Frame.IsWhole : Frame → Prop
  | .array items => ∀ item ∈ items, item.IsWhole
  | .object fields key => (∀ entry ∈ fields, entry.1 ≠ .misplaced ∧ entry.2.IsWhole) ∧ key ≠ .misplaced

/-- The tokens read into the container that is due to go on. -/
def Expected.tokens : Expected → List Token
  | .value => []
  | .item => [.openArray]
  | .key fields _ => .openObject :: (fields.reverse.map entryTokens).flatMap (· ++ [.comma])
  | .colon fields k => .openObject :: ((fields.reverse.map entryTokens).flatMap (· ++ [.comma]) ++ [k.token])
  | .moreItems items => .openArray :: [.comma].intercalate (items.reverse.map Value.tokens)
  | .moreFields fields => .openObject :: [.comma].intercalate (fields.reverse.map entryTokens)

/-- Whether everything in the container that is due to go on is whole, and what is due can be due there. -/
def Expected.IsWhole : Expected → Prop
  | .value => True
  | .item => True
  | .key fields first =>
      (∀ entry ∈ fields, entry.1 ≠ .misplaced ∧ entry.2.IsWhole) ∧ (first = true → fields = [])
  | .colon fields k => (∀ entry ∈ fields, entry.1 ≠ .misplaced ∧ entry.2.IsWhole) ∧ k ≠ .misplaced
  | .moreItems items => (∀ item ∈ items, item.IsWhole) ∧ items ≠ []
  | .moreFields fields => (∀ entry ∈ fields, entry.1 ≠ .misplaced ∧ entry.2.IsWhole) ∧ fields ≠ []

/-- The tokens that have been read into the open containers, the outermost first. -/
def stackTokens (stack : List Frame) : List Token := stack.reverse.flatMap Frame.tokens

/-- What has come out of some tokens after a step. -/
def Step.Reflects (consumed : List Token) : Step → Prop
  | .go stack expected =>
      ((∀ frame ∈ stack, frame.IsWhole) ∧ expected.IsWhole) ∧ stackTokens stack ++ expected.tokens = consumed
  | .done v => v.isComplete = true → v.IsWhole ∧ v.tokens = consumed

theorem stackTokens_cons (frame : Frame) (stack : List Frame) :
    stackTokens (frame :: stack) = stackTokens stack ++ frame.tokens := by
  simp [stackTokens]

theorem reflects_finish {v : Value} {stack : List Frame} (hv : v.IsWhole) (hstack : ∀ frame ∈ stack, frame.IsWhole) :
    (finish v stack).Reflects (stackTokens stack ++ v.tokens) := by
  cases stack with
  | nil => exact fun _ => ⟨hv, rfl⟩
  | cons frame stack =>
      obtain ⟨hframe, hrest⟩ := List.forall_mem_cons.1 hstack
      cases frame with
      | array items =>
          refine ⟨⟨hrest, List.forall_mem_cons.2 ⟨hv, hframe⟩, List.cons_ne_nil v items⟩, ?_⟩
          simp only [Expected.tokens, stackTokens_cons, Frame.tokens, List.reverse_cons, List.map_append, List.map_cons,
            List.map_nil, intercalate_concat, List.append_assoc, List.cons_append]
      | object fields key =>
          obtain ⟨hfields, hkey⟩ := hframe
          refine ⟨⟨hrest, List.forall_mem_cons.2 ⟨⟨hkey, hv⟩, hfields⟩, List.cons_ne_nil _ fields⟩, ?_⟩
          simp only [Expected.tokens, stackTokens_cons, Frame.tokens, List.reverse_cons, List.map_append, List.map_cons,
            List.map_nil, intercalate_concat, entryTokens, List.append_assoc, List.cons_append, List.nil_append]

theorem isComplete_abandon {v : Value} (hv : v.isComplete = false) (stack : List Frame) :
    (abandon v stack).isComplete = false := by
  induction stack generalizing v with
  | nil => exact hv
  | cons frame stack ih =>
      cases frame with
      | array items => exact ih rfl
      | object fields key => exact ih rfl

theorem isComplete_giveUp (stack : List Frame) (token : Option Token) (expected : Expected) :
    (giveUp stack token expected).isComplete = false := by
  cases expected <;> exact isComplete_abandon rfl stack

/-- What is given up is not complete, so it reflects any tokens. -/
theorem reflects_giveUp {stack : List Frame} {token : Option Token} {expected : Expected} {consumed : List Token} :
    (Step.done (giveUp stack token expected)).Reflects consumed := by
  intro hcomplete
  rw [isComplete_giveUp] at hcomplete
  cases hcomplete

theorem reflects_begin {stack : List Frame} {expected : Expected} (hstack : ∀ frame ∈ stack, frame.IsWhole)
    (token : Token) : (begin stack expected token).Reflects (stackTokens stack ++ [token]) := by
  cases token with
  | null => exact reflects_finish (v := .null) trivial hstack
  | boolean b => exact reflects_finish (v := .boolean b) trivial hstack
  | number n => exact reflects_finish (v := .number n) trivial hstack
  | text t => exact reflects_finish (v := .text t) trivial hstack
  | torn => exact reflects_finish (v := .torn) trivial hstack
  | openArray => exact ⟨⟨hstack, trivial⟩, rfl⟩
  | openObject => exact ⟨⟨hstack, nofun, fun _ => rfl⟩, rfl⟩
  | _ => exact reflects_giveUp

theorem reflects_step {stack : List Frame} {expected : Expected} (hstack : ∀ frame ∈ stack, frame.IsWhole)
    (hexpected : expected.IsWhole) (token : Token) :
    (step stack expected token).Reflects (stackTokens stack ++ expected.tokens ++ [token]) := by
  cases expected with
  | value => simpa [step, Expected.tokens] using reflects_begin hstack token
  | item =>
      by_cases hclose : token = .closeArray
      · subst hclose
        simpa [step, Expected.tokens, Value.tokens, Value.itemTokens] using
          reflects_finish (v := .array [] true) ⟨rfl, trivial⟩ hstack
      · have hframes : ∀ frame ∈ Frame.array [] :: stack, frame.IsWhole := List.forall_mem_cons.2 ⟨nofun, hstack⟩
        have hstep : step stack .item token = begin (.array [] :: stack) .value token := by
          cases token <;> first | rfl | exact absurd rfl hclose
        rw [hstep]
        simpa [stackTokens_cons, Frame.tokens, Expected.tokens] using reflects_begin hframes token
  | key fields first =>
      obtain ⟨hfields, hfirst⟩ := hexpected
      cases token with
      | text t =>
          cases t with
          | some name => exact ⟨⟨hstack, hfields, nofun⟩, by simp [Expected.tokens, Key.token]⟩
          | none => exact ⟨⟨hstack, hfields, nofun⟩, by simp [Expected.tokens, Key.token]⟩
      | torn => exact ⟨⟨hstack, hfields, nofun⟩, by simp [Expected.tokens, Key.token]⟩
      | closeObject =>
          cases first with
          | true =>
              obtain rfl := hfirst rfl
              simpa [step, Expected.tokens, Value.tokens, Value.fieldTokens] using
                reflects_finish (v := .object [] true) ⟨rfl, trivial⟩ hstack
          | false => exact reflects_giveUp
      | _ => exact reflects_giveUp
  | colon fields key =>
      cases token with
      | colon =>
          have hframes : ∀ frame ∈ Frame.object fields key :: stack, frame.IsWhole :=
            List.forall_mem_cons.2 ⟨hexpected, hstack⟩
          exact ⟨⟨hframes, trivial⟩, by simp [stackTokens_cons, Frame.tokens, Expected.tokens]⟩
      | _ => exact reflects_giveUp
  | moreItems items =>
      obtain ⟨hitems, hne⟩ := hexpected
      cases token with
      | comma =>
          have hframes : ∀ frame ∈ Frame.array items :: stack, frame.IsWhole :=
            List.forall_mem_cons.2 ⟨hitems, hstack⟩
          have hparts : items.reverse.map Value.tokens ≠ [] := by simpa using hne
          refine ⟨⟨hframes, trivial⟩, ?_⟩
          simp only [stackTokens_cons, Frame.tokens, Expected.tokens, ← intercalate_append_mark hparts,
            List.append_assoc, List.cons_append, List.append_nil]
      | closeArray =>
          have hwhole : (Value.array items.reverse true).IsWhole :=
            ⟨rfl, Value.areWhole_iff.2 fun item hitem => hitems item (List.mem_reverse.1 hitem)⟩
          simpa [step, Expected.tokens, Value.tokens, Value.itemTokens_eq_map] using reflects_finish hwhole hstack
      | _ => exact reflects_giveUp
  | moreFields fields =>
      obtain ⟨hfields, hne⟩ := hexpected
      cases token with
      | comma =>
          have hparts : fields.reverse.map entryTokens ≠ [] := by simpa using hne
          refine ⟨⟨hstack, hfields, nofun⟩, ?_⟩
          simp only [Expected.tokens, ← intercalate_append_mark hparts, List.append_assoc, List.cons_append]
      | closeObject =>
          have hwhole : (Value.object fields.reverse true).IsWhole :=
            ⟨rfl, Value.areWholeFields_iff.2 fun entry hentry => hfields entry (List.mem_reverse.1 hentry)⟩
          simpa [step, Expected.tokens, Value.tokens, Value.fieldTokens_eq_map] using reflects_finish hwhole hstack
      | _ => exact reflects_giveUp

theorem run_of_next_eq_none {stack : List Frame} {expected : Expected} {source : Source}
    (h : Token.next source = none) : run stack expected source = (giveUp stack none expected, []) := by
  rw [run.eq_def]
  split
  · rfl
  · rename_i hsome
    rw [h] at hsome
    cases hsome

/-- What is no token ends the reading. -/
theorem step_bad (stack : List Frame) (expected : Expected) :
    ∃ v, step stack expected .bad = .done v ∧ v.isComplete = false := by
  cases expected <;> exact ⟨_, rfl, isComplete_giveUp _ _ _⟩

/-- A value that is complete was read from its tokens, behind those that had been read before. -/
theorem exists_lexes_of_run {stack : List Frame} {expected : Expected} {source rest : Source} {v : Value}
    (hstack : ∀ frame ∈ stack, frame.IsWhole) (hexpected : expected.IsWhole)
    (h : run stack expected source = (v, rest)) (hcomplete : v.isComplete = true) :
    ∃ ts, Source.Lexes ts source rest ∧ v.IsWhole ∧ v.tokens = stackTokens stack ++ expected.tokens ++ ts := by
  -- Each token leaves a shorter source. What it leaves open reflects the tokens up to it, so that the induction takes
  -- up there.
  induction hlength : source.length using Nat.strongRecOn generalizing stack expected source with
  | ind n ih =>
      cases hnext : Token.next source with
      | none =>
          rw [run_of_next_eq_none hnext] at h
          cases h
          rw [isComplete_giveUp] at hcomplete
          cases hcomplete
      | some found =>
          obtain ⟨t, mid⟩ := found
          rw [run_of_next hnext] at h
          have hreflects := reflects_step hstack hexpected t
          by_cases hbad : t = .bad
          · subst hbad
            obtain ⟨w, hstep, hw⟩ := step_bad stack expected
            rw [hstep] at h
            cases h
            rw [hw] at hcomplete
            cases hcomplete
          · have hfollows := (Token.next_eq_some_iff hbad).1 hnext
            cases hstep : step stack expected t with
            | go stack' expected' =>
                rw [hstep] at h hreflects
                obtain ⟨⟨hstack', hexpected'⟩, htokens⟩ := hreflects
                obtain ⟨ts, hlexes, hwhole, hts⟩ :=
                  ih mid.length (hlength ▸ Token.next_length hnext) hstack' hexpected' h rfl
                exact ⟨t :: ts, .cons hfollows hlexes, hwhole, by rw [hts, htokens, List.append_cons _ t ts]⟩
            | done w =>
                rw [hstep] at h hreflects
                cases h
                obtain ⟨hwhole, htokens⟩ := hreflects hcomplete
                exact ⟨[t], .cons hfollows (.nil _), hwhole, htokens⟩

/-! ## The reader is complete -/

theorem run_of_follows {stack : List Frame} {expected : Expected} {t : Token} {source rest : Source}
    (h : t.Follows source rest) : run stack expected source = (step stack expected t).resume rest :=
  run_of_next (Token.next_of_follows h)

/-- No value begins with the end of an array. -/
theorem exists_follows_of_lexes {v : Value} {source rest : Source} (h : Source.Lexes v.tokens source rest) :
    ∃ (t : Token) (mid : Source), t.Follows source mid ∧ t ≠ .closeArray := by
  have hhead : ∃ (t : Token) (ts : List Token), v.tokens = t :: ts ∧ t ≠ .closeArray := by
    cases v <;> exact ⟨_, _, rfl, by simp⟩
  obtain ⟨t, ts, htokens, ht⟩ := hhead
  rw [htokens] at h
  obtain ⟨mid, hfollows, _⟩ := h.of_cons
  exact ⟨t, mid, hfollows, ht⟩

theorem run_of_lexes_singleton {stack : List Frame} {expected : Expected} {t : Token} {source rest : Source}
    (h : Source.Lexes [t] source rest) : run stack expected source = (step stack expected t).resume rest := by
  obtain ⟨mid, ht, hrest⟩ := h.of_cons
  cases hrest
  exact run_of_follows ht

/-- A key and its colon are read before the value of a field. -/
theorem run_keyed (stack : List Frame) (read : List (Key × Value)) (first : Bool) {key : Key} (hkey : key ≠ .misplaced)
    {ts : List Token} {source rest : Source} (h : Source.Lexes (key.token :: .colon :: ts) source rest) :
    ∃ afterKey, Source.Lexes ts afterKey rest ∧
      run stack (.key read first) source = run (.object read key :: stack) .value afterKey := by
  obtain ⟨mid, hname, h⟩ := h.of_cons
  obtain ⟨afterKey, hcolon, hrest⟩ := h.of_cons
  refine ⟨afterKey, hrest, ?_⟩
  have hstep : step stack (.key read first) key.token = .go stack (.colon read key) := by
    cases key with
    | name s => rfl
    | unreadable => rfl
    | torn => rfl
    | misplaced => exact absurd rfl hkey
  rw [run_of_follows hname, hstep]
  exact run_of_follows hcolon

mutual

theorem run_tokens (stack : List Frame) {source rest : Source} : (v : Value) → v.IsWhole →
    Source.Lexes v.tokens source rest → run stack .value source = (finish v stack).resume rest
  | .null, _, h => run_of_lexes_singleton h
  | .boolean _, _, h => run_of_lexes_singleton h
  | .number _, _, h => run_of_lexes_singleton h
  | .text _, _, h => run_of_lexes_singleton h
  | .torn, _, h => run_of_lexes_singleton h
  | .array [] closed, hwhole, h => by
      obtain ⟨rfl, _⟩ := hwhole
      obtain ⟨mid, hopen, hclose⟩ := h.of_cons
      rw [run_of_follows hopen]
      exact run_of_lexes_singleton hclose
  | .array (item :: items) closed, hwhole, h => by
      obtain ⟨rfl, hitem, hitems⟩ := hwhole
      obtain ⟨mid, hopen, h⟩ := h.of_cons
      rw [Value.itemTokens, intercalate_cons, List.append_assoc] at h
      obtain ⟨next, hfirst, hmore⟩ := h.of_append
      obtain ⟨t, _, ht, hne⟩ := exists_follows_of_lexes hfirst
      rw [run_of_follows hopen]
      -- After the bracket the array may end at once, but no item begins with its end.
      refine (run_item (Token.next_of_follows ht) hne).trans ?_
      rw [run_tokens (.array [] :: stack) item hitem hfirst]
      exact run_itemTokens stack [item] items hitems hmore
  | .object [] closed, hwhole, h => by
      obtain ⟨rfl, _⟩ := hwhole
      obtain ⟨mid, hopen, hclose⟩ := h.of_cons
      rw [run_of_follows hopen]
      exact run_of_lexes_singleton hclose
  | .object ((key, value) :: fields) closed, hwhole, h => by
      obtain ⟨rfl, ⟨hkey, hvalue⟩, hfields⟩ := hwhole
      obtain ⟨mid, hopen, h⟩ := h.of_cons
      rw [Value.fieldTokens, intercalate_cons, List.append_assoc] at h
      obtain ⟨next, hfirst, hmore⟩ := h.of_append
      obtain ⟨afterKey, hvalueLexes, hrun⟩ := run_keyed stack [] true hkey hfirst
      rw [run_of_follows hopen]
      refine hrun.trans ?_
      rw [run_tokens (.object [] key :: stack) value hvalue hvalueLexes]
      exact run_fieldTokens stack [(key, value)] fields hfields hmore

theorem run_itemTokens (stack : List Frame) (read : List Value) {source rest : Source} : (items : List Value) →
    Value.AreWhole items →
    Source.Lexes ((Value.itemTokens items).flatMap (.comma :: ·) ++ [.closeArray]) source rest →
    run stack (.moreItems read) source = (finish (.array (read.reverse ++ items) true) stack).resume rest
  | [], _, h => by
      rw [List.append_nil]
      exact run_of_lexes_singleton h
  | item :: items, hwhole, h => by
      obtain ⟨hitem, hitems⟩ := hwhole
      rw [Value.itemTokens, List.flatMap_cons, List.append_assoc] at h
      obtain ⟨mid, hcomma, h⟩ := h.of_cons
      obtain ⟨next, hfirst, hmore⟩ := h.of_append
      rw [run_of_follows hcomma]
      refine (run_tokens (.array read :: stack) item hitem hfirst).trans ?_
      have hrest := run_itemTokens stack (item :: read) items hitems hmore
      rwa [List.reverse_cons, List.append_assoc] at hrest

theorem run_fieldTokens (stack : List Frame) (read : List (Key × Value)) {source rest : Source} :
    (fields : List (Key × Value)) → Value.AreWholeFields fields →
    Source.Lexes ((Value.fieldTokens fields).flatMap (.comma :: ·) ++ [.closeObject]) source rest →
    run stack (.moreFields read) source = (finish (.object (read.reverse ++ fields) true) stack).resume rest
  | [], _, h => by
      rw [List.append_nil]
      exact run_of_lexes_singleton h
  | (key, value) :: fields, hwhole, h => by
      obtain ⟨⟨hkey, hvalue⟩, hfields⟩ := hwhole
      rw [Value.fieldTokens, List.flatMap_cons, List.append_assoc] at h
      obtain ⟨mid, hcomma, h⟩ := h.of_cons
      obtain ⟨next, hfirst, hmore⟩ := h.of_append
      obtain ⟨afterKey, hvalueLexes, hrun⟩ := run_keyed stack read false hkey hfirst
      rw [run_of_follows hcomma]
      refine hrun.trans ?_
      rw [run_tokens (.object read key :: stack) value hvalue hvalueLexes]
      have hrest := run_fieldTokens stack ((key, value) :: read) fields hfields hmore
      rwa [List.reverse_cons, List.append_assoc] at hrest

end

end Reader

/-! ## Sources that spell a value -/

/-- Whether a source is a text of a value: its tokens, and nothing but white space around them. -/
def Source.Spells (source : Source) (v : Value) : Prop :=
  v.IsWhole ∧ ∃ rest, source.Lexes v.tokens rest ∧ skipSpace rest = []

theorem Value.read_eq_iff {v : Value} {source rest : Source} (hcomplete : v.isComplete = true) :
    Value.read source = (v, rest) ↔ v.IsWhole ∧ Source.Lexes v.tokens source rest := by
  constructor
  · intro h
    have hstack : ∀ frame ∈ ([] : List Reader.Frame), frame.IsWhole := nofun
    have hexpected : Reader.Expected.value.IsWhole := trivial
    obtain ⟨ts, hlexes, hwhole, htokens⟩ := Reader.exists_lexes_of_run hstack hexpected h hcomplete
    rw [htokens]
    exact ⟨hwhole, hlexes⟩
  · rintro ⟨hwhole, hlexes⟩
    exact Reader.run_tokens [] v hwhole hlexes

theorem Value.IsWhole.isComplete {v : Value} (h : v.IsWhole) : v.isComplete = true := by
  cases v with
  | array items closed => exact h.1
  | object fields closed => exact h.1
  | broken => exact h.elim
  | _ => rfl

theorem Source.holds_iff_spells {source : Source} {v : Value} (hcomplete : v.isComplete = true) :
    source.Holds v ↔ source.Spells v := by
  constructor
  · rintro ⟨rest, hread, hrest⟩
    obtain ⟨hwhole, hlexes⟩ := (Value.read_eq_iff hcomplete).1 hread
    exact ⟨hwhole, rest, hlexes, hrest⟩
  · rintro ⟨hwhole, rest, hlexes, hrest⟩
    exact ⟨rest, (Value.read_eq_iff hcomplete).2 ⟨hwhole, hlexes⟩, hrest⟩

/-- The reader follows the grammar for complete values only; a decoder that takes no others decodes what is spelled. -/
theorem decodeWhole_eq_ok_iff_of_complete {α : Type} {decode : Decoder α}
    (hcomplete : ∀ v a, decode v = .ok a → v.isComplete = true) {source : Source} {a : α} :
    decodeWhole decode source = .ok a ↔ ∃ v, source.Spells v ∧ decode v = .ok a := by
  rw [decodeWhole_eq_ok_iff]
  exact exists_congr fun v => and_congr_left fun hdecode => Source.holds_iff_spells (hcomplete v a hdecode)

/-- A source spells at most one value. -/
theorem Source.Spells.eq {source : Source} {v w : Value} (hv : source.Spells v) (hw : source.Spells w) : v = w := by
  obtain ⟨rest, hread, _⟩ := (holds_iff_spells hv.1.isComplete).2 hv
  obtain ⟨rest', hread', _⟩ := (holds_iff_spells hw.1.isComplete).2 hw
  exact (Prod.mk.inj (hread.symm.trans hread')).1

theorem Source.spells_chars (d : Document) : (Source.ofChars d.chars).Spells d.toValue := by
  refine (holds_iff_spells ?_).1 ⟨[], Value.read_chars d, rfl⟩
  cases d <;> rfl

end TokenAuthority.Json
