import TokenAuthority.Proofs.Encoding.Armour
import TokenAuthority.Proofs.Encoding.Exact

/-!
# Blocks are exact

Bytes are read from the texts that armour them, and from no others: whatever lines stand before a block and whatever its
lines end in, its base64 is that of the bytes. Main statement: `Pem.read?_eq_some_iff`.
-/

namespace TokenAuthority

/-! ## Padding -/

namespace Base64

theorem take_eq_replicate {cs : List Char} {n : Nat} (h : n ≤ (cs.takeWhile (· == '=')).length) :
    cs.take n = List.replicate n '=' := by
  have hle : n ≤ cs.length := Nat.le_trans h (List.takeWhile_prefix _).length_le
  have hstart : cs.take n <+: cs.takeWhile (· == '=') :=
    List.prefix_of_prefix_length_le (List.take_prefix _ _) (List.takeWhile_prefix _) (by
      rwa [List.length_take_of_le hle])
  have hall : ∀ c ∈ cs.take n, c = '=' := fun c hc =>
    beq_iff_eq.1 (List.all_eq_true.1 List.all_takeWhile c (hstart.subset hc))
  rw [List.eq_replicate_of_mem hall, List.length_take_of_le hle]

/-- Bytes are read of their own padded base64, and of no other. -/
theorem decodePadded?_eq_some_iff {cs : List Char} {bytes : List UInt8} :
    decodePadded? standard cs = some bytes ↔ cs = encodePadded standard bytes := by
  refine ⟨fun h => ?_, ?_⟩
  · simp only [decodePadded?] at h
    generalize hn : min 2 (cs.reverse.takeWhile (· == '=')).length = n at h
    split_ifs at h with hmod
    rw [decode?_eq_some_iff standard_faithful] at h
    have hrun : n ≤ (cs.reverse.takeWhile (· == '=')).length := by omega
    have hle : n ≤ cs.length := by
      rw [← List.length_reverse]
      exact Nat.le_trans hrun (List.takeWhile_prefix _).length_le
    have hpad : cs.drop (cs.length - n) = List.replicate n '=' := by
      rw [← List.reverse_replicate, ← take_eq_replicate hrun, List.take_reverse, List.reverse_reverse]
    have hlength : (encode standard bytes).length = cs.length - n := by
      rw [← h, List.length_take]
      omega
    -- A length that is no multiple of four falls short of one by the number of signs.
    have hcount : (4 - (cs.length - n) % 4) % 4 = n := by omega
    rw [encodePadded, hlength, hcount, ← hpad, ← h, List.take_append_drop]
  · rintro rfl
    exact decodePadded?_encodePadded bytes

end Base64

/-! ## Ends of lines -/

namespace Pem

/-- What a line ends in. -/
inductive LineEnd : List Char → Prop
  | lf : LineEnd ['\n']
  | cr : LineEnd ['\r']
  | crlf : LineEnd ['\r', '\n']

variable {cs front rest ending : List Char}

theorem exists_of_afterLineEnd? (h : afterLineEnd? cs = some rest) :
    ∃ ending, LineEnd ending ∧ cs = ending ++ rest := by
  unfold afterLineEnd? at h
  split at h
  · cases h
    exact ⟨_, .crlf, rfl⟩
  · cases h
    exact ⟨_, .lf, rfl⟩
  · cases h
    exact ⟨_, .cr, rfl⟩
  · cases h

theorem afterLineEnd?_append (h : LineEnd ending) (hrest : rest.head? ≠ some '\n') :
    afterLineEnd? (ending ++ rest) = some rest := by
  cases h with
  | lf => rfl
  | cr =>
      cases rest with
      | nil => rfl
      | cons c rest =>
          have hc : c ≠ '\n' := by simpa using hrest
          simp [afterLineEnd?, hc]
  | crlf => rfl

theorem exists_of_beforeLineEnd? (h : beforeLineEnd? cs = some front) :
    ∃ ending, LineEnd ending ∧ cs = front ++ ending := by
  unfold beforeLineEnd? at h
  split at h
  · rename_i hcs
    cases h
    exact ⟨_, .crlf, by rw [← List.reverse_reverse cs, hcs]; simp⟩
  · rename_i hcs
    cases h
    exact ⟨_, .lf, by rw [← List.reverse_reverse cs, hcs]; simp⟩
  · rename_i hcs
    cases h
    exact ⟨_, .cr, by rw [← List.reverse_reverse cs, hcs]; simp⟩
  · cases h

theorem beforeLineEnd?_append_ending (h : LineEnd ending) (hfront : front.getLast? ≠ some '\r') :
    beforeLineEnd? (front ++ ending) = some front := by
  cases h with
  | lf => exact beforeLineEnd?_append hfront
  | cr => simp [beforeLineEnd?]
  | crlf => simp [beforeLineEnd?]

theorem beforeLineEnd?_eq_none {c : Char} (hc : c ∉ ['\n', '\r']) (hlast : cs.getLast? = some c) :
    beforeLineEnd? cs = none := by
  cases hread : beforeLineEnd? cs with
  | none => rfl
  | some front =>
      obtain ⟨ending, hending, rfl⟩ := exists_of_beforeLineEnd? hread
      obtain ⟨d, hd, hends⟩ : ∃ d ∈ ['\n', '\r'], (front ++ ending).getLast? = some d := by
        cases hending <;> simp
      cases hlast.symm.trans hends
      exact absurd hd hc

theorem after?_eq_some_iff {start : List Char} : after? start cs = some rest ↔ cs = start ++ rest := by
  unfold after?
  constructor
  · intro h
    split_ifs at h with htake
    cases h
    conv => lhs; rw [← List.take_append_drop start.length cs, htake]
  · rintro rfl
    simp

theorem before?_eq_some_iff : before? ending cs = some front ↔ cs = front ++ ending := by
  rw [before?, Option.map_eq_some_iff]
  constructor
  · rintro ⟨back, hback, rfl⟩
    rw [after?_eq_some_iff] at hback
    rw [← List.reverse_reverse cs, hback, List.reverse_append, List.reverse_reverse]
  · rintro rfl
    exact ⟨front.reverse, after?_eq_some_iff.2 List.reverse_append, List.reverse_reverse _⟩

/-! ## Lines -/

/-- A text in lines of 64 characters, the last of which may be shorter; each may end in another way. After a last line
of 64 characters there may be an empty one. -/
inductive Wraps : List Char → List Char → Prop
  | last {cs : List Char} (hshort : cs.length ≤ 64) : Wraps cs cs
  | line {first rest ending wrapped : List Char} (hfull : first.length = 64) (hending : LineEnd ending)
      (hrest : Wraps rest wrapped) : Wraps (first ++ rest) (first ++ (ending ++ wrapped))

variable {wrapped : List Char}

theorem wraps_of_unwrap? (h : unwrap? wrapped = some cs) : Wraps cs wrapped := by
  fun_induction unwrap? wrapped generalizing cs with
  | case1 wrapped hshort =>
      cases h
      exact .last hshort
  | case2 wrapped hlong rest hafter ih =>
      obtain ⟨joined, hjoined, rfl⟩ := Option.map_eq_some_iff.1 h
      obtain ⟨ending, hending, hdrop⟩ := exists_of_afterLineEnd? hafter
      have hwraps := Wraps.line (List.length_take_of_le (by omega : 64 ≤ wrapped.length)) hending (ih hjoined)
      rwa [← hdrop, List.take_append_drop] at hwraps
  | case3 => cases h

theorem Wraps.head?_eq (h : Wraps cs wrapped) : wrapped.head? = cs.head? := by
  cases h with
  | last => rfl
  | line hfull hending hrest =>
      rename_i first rest ending more
      have hne : first ≠ [] := by
        rintro rfl
        cases hfull
      rw [List.head?_append_of_ne_nil _ hne, List.head?_append_of_ne_nil _ hne]

theorem unwrap?_of_wraps (hplain : '\n' ∉ cs) (h : Wraps cs wrapped) : unwrap? wrapped = some cs := by
  induction h with
  | last hshort => rw [unwrap?, if_pos hshort]
  | @line first rest ending wrapped hfull hending hrest ih =>
      rw [List.mem_append, not_or] at hplain
      have hhead : wrapped.head? ≠ some '\n' := by
        rw [hrest.head?_eq]
        exact fun hhead => hplain.2 (List.mem_of_head? hhead)
      have hlength : 0 < ending.length := by cases hending <;> decide
      have hlong : ¬ (first ++ (ending ++ wrapped)).length ≤ 64 := by
        rw [List.length_append, List.length_append]
        omega
      have hdrop : (first ++ (ending ++ wrapped)).drop 64 = ending ++ wrapped := by
        rw [← hfull, List.drop_left]
      have htake : (first ++ (ending ++ wrapped)).take 64 = first := by
        rw [← hfull, List.take_left]
      rw [unwrap?, if_neg hlong]
      split
      · rename_i after hafter
        rw [hdrop, afterLineEnd?_append hending hhead, Option.some.injEq] at hafter
        rw [← hafter, ih hplain.2, htake, Option.map_some]
      · rename_i hnone
        rw [hdrop, afterLineEnd?_append hending hhead] at hnone
        cases hnone

theorem Wraps.eq_nil (h : Wraps cs []) : cs = [] :=
  List.head?_eq_none_iff.1 h.head?_eq.symm

/-- A carriage return at the very end belongs to the end of the last full line. -/
theorem Wraps.dropLast (hplain : '\r' ∉ cs) (h : Wraps cs wrapped) (hlast : wrapped = front ++ ['\r']) :
    Wraps cs front := by
  induction h generalizing front with
  | last hshort => exact absurd (hlast ▸ List.mem_append_right front (List.mem_singleton_self _)) hplain
  | @line first rest ending wrapped hfull hending hrest ih =>
      rw [List.mem_append, not_or] at hplain
      rcases List.eq_nil_or_concat wrapped with rfl | ⟨more, c, rfl⟩
      · -- Nothing follows the full line: its end is the carriage return, and without it the line is the last one.
        obtain rfl := hrest.eq_nil
        cases hending with
        | lf => simp at hlast
        | cr =>
            obtain ⟨rfl, -⟩ := List.append_inj' hlast rfl
            rw [List.append_nil]
            exact .last (Nat.le_of_eq hfull)
        | crlf =>
            have hends := congrArg List.getLast? hlast
            simp at hends
      · rw [List.concat_eq_append, ← List.append_assoc ending, ← List.append_assoc first] at hlast
        obtain ⟨rfl, hc⟩ := List.append_inj' hlast rfl
        cases hc
        exact .line hfull hending (ih hplain.2 (List.concat_eq_append ..))

/-- Whatever closes the last line, what stands before it are the lines. -/
theorem Wraps.exists_beforeLineEnd? (hplain : '\r' ∉ cs) (h : Wraps cs wrapped) (hending : LineEnd ending) :
    ∃ front, beforeLineEnd? (wrapped ++ ending) = some front ∧ Wraps cs front := by
  by_cases hlast : wrapped.getLast? = some '\r'
  · obtain ⟨front, rfl⟩ := List.getLast?_eq_some_iff.1 hlast
    cases hending with
    | lf => exact ⟨front, by simp [beforeLineEnd?], h.dropLast hplain rfl⟩
    | cr => exact ⟨_, by simp [beforeLineEnd?], h⟩
    | crlf => exact ⟨_, by simp [beforeLineEnd?], h⟩
  · exact ⟨wrapped, beforeLineEnd?_append_ending hending hlast, h⟩

/-! ## Preambles -/

/-- Lines before a block: none of them has a NUL or begins with the mark of a block. -/
inductive Preamble : List Char → Prop
  | nil : Preamble []
  | line {line rest : List Char} (hline : '\n' ∉ line ∧ '\x00' ∉ line) (hmark : ¬ beginMark <+: line)
      (hrest : Preamble rest) : Preamble (line ++ '\n' :: rest)

theorem isSome_after?_iff {start : List Char} : (after? start cs).isSome = true ↔ start <+: cs := by
  rw [Option.isSome_iff_exists]
  constructor
  · rintro ⟨rest, hrest⟩
    exact ⟨rest, (after?_eq_some_iff.1 hrest).symm⟩
  · rintro ⟨rest, rfl⟩
    exact ⟨rest, after?_append start rest⟩

/-- A mark stands within one line. -/
theorem prefix_line_iff {start line : List Char} (h : '\n' ∉ start) :
    start <+: line ++ '\n' :: rest ↔ start <+: line := by
  refine ⟨fun hstart => ?_, fun hstart => hstart.trans (List.prefix_append _ _)⟩
  induction start generalizing line with
  | nil => exact List.nil_prefix
  | cons c start ih =>
      rw [List.mem_cons, not_or] at h
      cases line with
      | nil => exact absurd (List.cons_prefix_cons.1 hstart).1.symm h.1
      | cons d line =>
          obtain ⟨rfl, hmore⟩ := List.cons_prefix_cons.1 hstart
          exact List.cons_prefix_cons.2 ⟨rfl, ih h.2 hmore⟩

theorem newline_notMem_beginMark : '\n' ∉ beginMark := by decide

/-- A text begins with lines before a block, and goes on with the block. -/
def Opens (cs rest : List Char) : Prop := ∃ preamble, Preamble preamble ∧ beginMark <+: rest ∧ cs = preamble ++ rest

/-- Lines are skipped until one begins with the mark, if a text is skipped from the end of its first line on. -/
theorem opens_iff_of_skips (hskips : skipPreamble cs = some rest ↔
    ∃ line more, ('\n' ∉ line ∧ '\x00' ∉ line) ∧ cs = line ++ '\n' :: more ∧ Opens more rest) :
    (if (after? beginMark cs).isSome then some cs else skipPreamble cs) = some rest ↔ Opens cs rest := by
  by_cases hmark : beginMark <+: cs
  · rw [if_pos (isSome_after?_iff.2 hmark), Option.some.injEq]
    constructor
    · rintro rfl
      exact ⟨[], .nil, hmark, rfl⟩
    · rintro ⟨preamble, hpreamble, -, rfl⟩
      cases hpreamble with
      | nil => rfl
      | line hline hno hrest =>
          rw [List.append_assoc, List.cons_append, prefix_line_iff newline_notMem_beginMark] at hmark
          exact absurd hmark hno
  · rw [if_neg (mt isSome_after?_iff.1 hmark), hskips]
    constructor
    · rintro ⟨line, more, hline, rfl, preamble, hpreamble, hrest, rfl⟩
      rw [prefix_line_iff newline_notMem_beginMark] at hmark
      exact ⟨_, .line hline hmark hpreamble, hrest, by simp⟩
    · rintro ⟨preamble, hpreamble, hrest, rfl⟩
      cases hpreamble with
      | nil => exact absurd hrest hmark
      | @line line more hline hno hmore => exact ⟨line, more ++ rest, hline, by simp, more, hmore, hrest, rfl⟩

theorem skipPreamble_eq_some_iff : skipPreamble cs = some rest ↔
    ∃ line more, ('\n' ∉ line ∧ '\x00' ∉ line) ∧ cs = line ++ '\n' :: more ∧ Opens more rest := by
  -- The first line grows by a character at a time until its end, where the block or the next line begins; a NUL leaves
  -- none.
  induction cs with
  | nil =>
      refine ⟨nofun, ?_⟩
      rintro ⟨line, more, -, heq, -⟩
      simp at heq
  | cons c cs ih =>
      rw [skipPreamble]
      by_cases hnul : c = '\x00'
      · rw [if_pos hnul]
        refine ⟨nofun, ?_⟩
        rintro ⟨line, more, hline, heq, -⟩
        cases line with
        | nil =>
            cases heq
            exact absurd hnul (by decide)
        | cons d line =>
            cases heq
            exact absurd (hnul ▸ List.mem_cons_self) hline.2
      · rw [if_neg hnul]
        by_cases hnewline : c = '\n'
        · subst hnewline
          simp only [true_and]
          rw [opens_iff_of_skips ih]
          constructor
          · intro hopens
            exact ⟨[], cs, by simp, rfl, hopens⟩
          · rintro ⟨line, more, hline, heq, hopens⟩
            cases line with
            | nil =>
                cases heq
                exact hopens
            | cons d line =>
                cases heq
                exact absurd List.mem_cons_self hline.1
        · rw [if_neg fun h => hnewline h.1, ih]
          constructor
          · rintro ⟨line, more, ⟨hline, hline'⟩, rfl, hopens⟩
            refine ⟨c :: line, more, ⟨?_, ?_⟩, rfl, hopens⟩
            · exact List.not_mem_cons_of_ne_of_not_mem (Ne.symm hnewline) hline
            · exact List.not_mem_cons_of_ne_of_not_mem (Ne.symm hnul) hline'
          · rintro ⟨line, more, hline, heq, hopens⟩
            cases line with
            | nil =>
                cases heq
                exact absurd rfl hnewline
            | cons d line =>
                cases heq
                exact ⟨line, more, ⟨fun h => hline.1 (.tail _ h), fun h => hline.2 (.tail _ h)⟩, rfl, hopens⟩

theorem opens_iff : (if (after? beginMark cs).isSome then some cs else skipPreamble cs) = some rest ↔ Opens cs rest :=
  opens_iff_of_skips skipPreamble_eq_some_iff

theorem Opens.unique {rest' : List Char} (h : Opens cs rest) (h' : Opens cs rest') : rest = rest' :=
  Option.some.inj ((opens_iff.2 h).symm.trans (opens_iff.2 h'))

/-! ## Blocks -/

/-- The line that begins a block. -/
def beginLine (label : String) : List Char := beginMark ++ label.toList ++ "-----".toList

/-- The line that ends a block. -/
def endLine (label : String) : List Char := "-----END ".toList ++ label.toList ++ "-----".toList

theorem mark_of_beginLine (label : String) (rest : List Char) : beginMark <+: beginLine label ++ rest := by
  rw [beginLine, List.append_assoc, List.append_assoc]
  exact List.prefix_append _ _

theorem getLast?_endLine (front : List Char) (label : String) : (front ++ endLine label).getLast? = some '-' := by
  obtain ⟨start, hstart⟩ : ∃ start, endLine label = start ++ ['-'] :=
    ⟨"-----END ".toList ++ label.toList ++ "----".toList, by rw [List.append_assoc]; rfl⟩
  rw [hstart, ← List.append_assoc, List.getLast?_concat]

/-- A text that armours bytes: lines before a block with this label, its first line, the base64 of the bytes in lines,
and its last line, which may have an end. -/
structure Armours (label : String) (bytes : List UInt8) (text : String) : Prop where
  ne_nil : bytes ≠ []
  written : ∃ preamble opening wrapped closing final,
    Preamble preamble ∧ LineEnd opening ∧ Wraps (Base64.encodePadded Base64.standard bytes) wrapped ∧ LineEnd closing ∧
      (final = [] ∨ LineEnd final) ∧ text.toList =
        preamble ++ (beginLine label ++ (opening ++ (wrapped ++ closing ++ endLine label ++ final)))

variable {label text : String} {bytes : List UInt8}

theorem Armours.opens (h : Armours label bytes text) : ∃ rest, Opens text.toList (beginLine label ++ rest) := by
  obtain ⟨-, preamble, opening, wrapped, closing, final, hpreamble, -, -, -, -, htext⟩ := h
  exact ⟨_, preamble, hpreamble, mark_of_beginLine label _, htext⟩

theorem body?_eq (label : String) (cs : List Char) : body? label.toList cs =
    (if (after? beginMark cs).isSome then some cs else skipPreamble cs).bind fun block =>
      (after? (beginLine label) block).bind fun headed =>
        (afterLineEnd? headed).bind fun inner =>
          (before? (endLine label) ((beforeLineEnd? inner).getD inner)).bind beforeLineEnd? := by
  rw [body?]
  split <;> rfl

theorem exists_of_body? {body : List Char} (h : body? label.toList cs = some body) :
    ∃ preamble opening closing final, Preamble preamble ∧ LineEnd opening ∧ LineEnd closing ∧
      (final = [] ∨ LineEnd final) ∧
        cs = preamble ++ (beginLine label ++ (opening ++ (body ++ closing ++ endLine label ++ final))) := by
  simp only [body?_eq, Option.bind_eq_some_iff] at h
  obtain ⟨block, hopens, headed, hbegin, inner, hopening, front, hend, hclosing⟩ := h
  obtain ⟨preamble, hpreamble, -, rfl⟩ := opens_iff.1 hopens
  rw [after?_eq_some_iff] at hbegin
  obtain ⟨opening, hopeningEnd, rfl⟩ := exists_of_afterLineEnd? hopening
  obtain ⟨closing, hclosingEnd, rfl⟩ := exists_of_beforeLineEnd? hclosing
  rw [before?_eq_some_iff] at hend
  subst hbegin
  cases hfinal : beforeLineEnd? inner with
  | none =>
      rw [hfinal, Option.getD_none] at hend
      subst hend
      exact ⟨preamble, opening, closing, [], hpreamble, hopeningEnd, hclosingEnd, .inl rfl, by rw [List.append_nil]⟩
  | some kept =>
      rw [hfinal, Option.getD_some] at hend
      subst hend
      obtain ⟨final, hfinalEnd, rfl⟩ := exists_of_beforeLineEnd? hfinal
      exact ⟨preamble, opening, closing, final, hpreamble, hopeningEnd, hclosingEnd, .inr hfinalEnd, rfl⟩

theorem armours_of_read? (h : read? label text = some bytes) : Armours label bytes text := by
  simp only [read?, Option.bind_eq_bind, Option.bind_eq_some_iff] at h
  obtain ⟨body, hbody, h⟩ := h
  split_ifs at h with hempty
  obtain ⟨joined, hjoined, hdecode⟩ := Option.bind_eq_some_iff.1 h
  rw [Base64.decodePadded?_eq_some_iff] at hdecode
  subst hdecode
  obtain ⟨preamble, opening, closing, final, hpreamble, hopening, hclosing, hfinal, htext⟩ := exists_of_body? hbody
  have hwraps := wraps_of_unwrap? hjoined
  refine ⟨?_, preamble, opening, body, closing, final, hpreamble, hopening, hwraps, hclosing, hfinal, htext⟩
  rintro rfl
  have hnil : body = [] := List.head?_eq_none_iff.1 hwraps.head?_eq
  exact hempty (by rw [hnil]; rfl)

theorem exists_body?_of_armours (h : Armours label bytes text) : ∃ body,
    body? label.toList text.toList = some body ∧ Wraps (Base64.encodePadded Base64.standard bytes) body := by
  obtain ⟨hne, preamble, opening, wrapped, closing, final, hpreamble, hopening, hwraps, hclosing, hfinal, htext⟩ := h
  have hnewline : '\n' ∉ Base64.encodePadded Base64.standard bytes := Base64.notMem_encodePadded (by simp) bytes
  have hreturn : '\r' ∉ Base64.encodePadded Base64.standard bytes := Base64.notMem_encodePadded (by simp) bytes
  have hwrapped : wrapped ≠ [] := by
    rintro rfl
    exact Base64.encodePadded_ne_nil hne hwraps.eq_nil
  have hopens : (if (after? beginMark text.toList).isSome then some text.toList else skipPreamble text.toList) =
      some (beginLine label ++ (opening ++ (wrapped ++ closing ++ endLine label ++ final))) :=
    opens_iff.2 ⟨preamble, hpreamble, mark_of_beginLine label _, htext⟩
  have hhead : (wrapped ++ closing ++ endLine label ++ final).head? ≠ some '\n' := by
    rw [List.append_assoc, List.append_assoc, List.head?_append_of_ne_nil _ hwrapped, hwraps.head?_eq]
    exact fun hhead => hnewline (List.mem_of_head? hhead)
  have hkept : (beforeLineEnd? (wrapped ++ closing ++ endLine label ++ final)).getD
      (wrapped ++ closing ++ endLine label ++ final) = wrapped ++ closing ++ endLine label := by
    have hlast := getLast?_endLine (wrapped ++ closing) label
    rcases hfinal with rfl | hfinal
    · rw [List.append_nil, beforeLineEnd?_eq_none (by decide) hlast, Option.getD_none]
    · rw [beforeLineEnd?_append_ending hfinal (by rw [hlast]; decide), Option.getD_some]
  obtain ⟨body, hbody, hlines⟩ := hwraps.exists_beforeLineEnd? hreturn hclosing
  refine ⟨body, ?_, hlines⟩
  rw [body?_eq, hopens, Option.bind_some, after?_append, Option.bind_some, afterLineEnd?_append hopening hhead,
    Option.bind_some, hkept, before?_append, Option.bind_some, hbody]

theorem read?_of_armours (h : Armours label bytes text) : read? label text = some bytes := by
  obtain ⟨body, hbody, hlines⟩ := exists_body?_of_armours h
  have hempty : ¬ body.isEmpty = true := by
    rw [List.isEmpty_iff]
    rintro rfl
    exact Base64.encodePadded_ne_nil h.ne_nil hlines.eq_nil
  rw [read?, Option.bind_eq_bind, hbody, Option.bind_some, if_neg hempty,
    unwrap?_of_wraps (Base64.notMem_encodePadded (by simp) bytes) hlines]
  exact Base64.decodePadded?_encodePadded bytes

/-- Bytes are read of the texts that armour them, and of no others. -/
theorem read?_eq_some_iff : read? label text = some bytes ↔ Armours label bytes text :=
  ⟨armours_of_read?, read?_of_armours⟩

theorem Armours.unique {bytes' : List UInt8} (h : Armours label bytes text) (h' : Armours label bytes' text) :
    bytes = bytes' :=
  Option.some.inj ((read?_of_armours h).symm.trans (read?_of_armours h'))

end Pem

end TokenAuthority
