import TokenAuthority.Encoding.Pem
import TokenAuthority.Proofs.Encoding.RoundTrip

/-!
# Armoured bytes read back

Padded base64 and labelled blocks come back to the bytes they were made of. Main statements:
`Base64.decodePadded?_encodePadded`, `Pem.read?_write`.
-/

namespace TokenAuthority

/-! ## Padding -/

namespace Base64

theorem standard_faithful : standard.Faithful := by
  unfold Alphabet.Faithful
  decide

theorem standard_char_plain : ∀ n : Fin 64, standard.char n ∉ ['=', '\n', '\r'] := by
  decide

theorem notMem_encode {c : Char} (hc : c ∈ ['=', '\n', '\r']) (bytes : List UInt8) : c ∉ encode standard bytes := by
  intro h
  obtain ⟨n, hn, rfl⟩ := List.mem_map.mp h
  exact standard_char_plain ⟨n, sextets_lt bytes n hn⟩ hc

theorem notMem_encodePadded {c : Char} (hc : c ∈ ['\n', '\r']) (bytes : List UInt8) :
    c ∉ encodePadded standard bytes := by
  have hne : c ≠ '=' := by
    rintro rfl
    exact absurd hc (by decide)
  simp only [encodePadded, List.mem_append, not_or]
  exact ⟨notMem_encode (List.mem_cons_of_mem _ hc) bytes, fun hpad => hne (List.eq_of_mem_replicate hpad)⟩

/-- No group of six bits stands alone at the end. -/
theorem length_sextets_mod (bytes : List UInt8) : (sextets bytes).length % 4 ≠ 1 := by
  fun_induction sextets bytes with
  | case1 => decide
  | case2 x => simp
  | case3 x y => simp
  | case4 x y z rest ih =>
      simp only [List.length_cons]
      omega

theorem takeWhile_pad {n : Nat} {cs : List Char} (h : '=' ∉ cs) :
    (List.replicate n '=' ++ cs).takeWhile (· == '=') = List.replicate n '=' := by
  rw [List.takeWhile_append_of_pos (by simp)]
  cases cs with
  | nil => simp
  | cons c cs =>
      have hc : c ≠ '=' := fun hc => h (by simp [hc])
      simp [hc]

theorem decodePadded?_encodePadded (bytes : List UInt8) :
    decodePadded? standard (encodePadded standard bytes) = some bytes := by
  have hmod : (encode standard bytes).length % 4 ≠ 1 := by
    rw [encode, List.length_map]
    exact length_sextets_mod bytes
  have hpad : '=' ∉ (encode standard bytes).reverse := by
    rw [List.mem_reverse]
    exact notMem_encode (by simp) bytes
  simp only [encodePadded, decodePadded?, List.reverse_append, List.reverse_replicate, takeWhile_pad hpad,
    List.length_replicate, List.length_append]
  rw [if_pos (by omega), Nat.min_eq_right (by omega), Nat.add_sub_cancel, List.take_left,
    decode?_encode standard_faithful]

theorem encodePadded_ne_nil {bytes : List UInt8} (h : bytes ≠ []) : encodePadded standard bytes ≠ [] := by
  intro hnil
  have hdecode := decodePadded?_encodePadded bytes
  rw [hnil] at hdecode
  exact h (Option.some.inj hdecode).symm

end Base64

/-! ## Blocks -/

namespace Pem

/-- Lines of 64 characters with line feeds between them. -/
def lines (cs : List Char) : List Char :=
  if cs.length ≤ 64 then cs else cs.take 64 ++ '\n' :: lines (cs.drop 64)
termination_by cs.length
decreasing_by
  rw [List.length_drop]
  omega

theorem wrap_eq_lines {cs : List Char} (h : cs ≠ []) : wrap cs = lines cs ++ ['\n'] := by
  fun_induction lines cs with
  | case1 cs hshort =>
      have hdrop : cs.drop 64 = [] := List.drop_eq_nil_of_le hshort
      rw [wrap, if_neg (by simpa using h), hdrop, List.take_of_length_le hshort, wrap]
      simp
  | case2 cs hlong ih =>
      have hdrop : cs.drop 64 ≠ [] := by
        intro hnil
        exact hlong (List.drop_eq_nil_iff.1 hnil)
      rw [wrap, if_neg (by simpa using h), ih hdrop]
      simp

theorem unwrap?_lines (cs : List Char) : unwrap? (lines cs) = some cs := by
  fun_induction lines cs with
  | case1 cs hshort => rw [unwrap?, if_pos hshort]
  | case2 cs hlong ih =>
      have htake : (cs.take 64).length = 64 := by
        rw [List.length_take]
        omega
      have hlength : ¬ (cs.take 64 ++ '\n' :: lines (cs.drop 64)).length ≤ 64 := by
        rw [List.length_append, htake, List.length_cons]
        omega
      have hafter : afterLineEnd? ((cs.take 64 ++ '\n' :: lines (cs.drop 64)).drop 64) = some (lines (cs.drop 64)) := by
        rw [List.drop_append_of_le_length (by omega), List.drop_of_length_le (by omega)]
        rfl
      rw [unwrap?, if_neg hlength]
      split
      · rename_i rest hrest
        rw [hafter, Option.some.injEq] at hrest
        subst hrest
        rw [ih, Option.map_some, List.take_append_of_le_length (by omega), List.take_of_length_le (by omega),
          List.take_append_drop]
      · rename_i hnone
        rw [hafter] at hnone
        cases hnone

theorem mem_of_mem_lines {c : Char} {cs : List Char} (h : c ∈ lines cs) : c ∈ cs ∨ c = '\n' := by
  fun_induction lines cs with
  | case1 cs hshort => exact .inl h
  | case2 cs hlong ih =>
      rcases List.mem_append.1 h with h | h
      · exact .inl (List.mem_of_mem_take h)
      · rcases List.mem_cons.1 h with rfl | h
        · exact .inr rfl
        · rcases ih h with h | rfl
          · exact .inl (List.mem_of_mem_drop h)
          · exact .inr rfl

theorem lines_ne_nil {cs : List Char} (h : cs ≠ []) : lines cs ≠ [] := by
  unfold lines
  split
  · exact h
  · simp

theorem after?_append (start rest : List Char) : after? start (start ++ rest) = some rest := by
  simp [after?]

theorem before?_append (ending front : List Char) : before? ending (front ++ ending) = some front := by
  rw [before?, List.reverse_append, after?_append, Option.map_some, List.reverse_reverse]

/-- A line feed that no carriage return stands before closes a line alone. -/
theorem beforeLineEnd?_append {cs : List Char} (h : cs.getLast? ≠ some '\r') :
    beforeLineEnd? (cs ++ ['\n']) = some cs := by
  rcases List.eq_nil_or_concat cs with rfl | ⟨front, last, rfl⟩
  · rfl
  · have hlast : last ≠ '\r' := by simpa using h
    rw [List.concat_eq_append, beforeLineEnd?]
    simp [hlast]

/-- A block with a label, line by line. -/
theorem toList_write {label : String} {bytes : List UInt8} (h : Base64.encodePadded Base64.standard bytes ≠ []) :
    (write label bytes).toList = beginMark ++ (label.toList ++ ("-----".toList ++ '\n' ::
      (lines (Base64.encodePadded Base64.standard bytes) ++ '\n' ::
        (("-----END ".toList ++ label.toList ++ "-----".toList) ++ ['\n'])))) := by
  have hdashes : "-----\n".toList = "-----".toList ++ ['\n'] := by decide
  rw [write, String.toList_ofList, wrap_eq_lines h, hdashes]
  simp only [List.append_assoc, List.cons_append, List.nil_append]

theorem body?_write {label : String} {bytes : List UInt8} (h : Base64.encodePadded Base64.standard bytes ≠ [])
    (hplain : '\r' ∉ Base64.encodePadded Base64.standard bytes) :
    body? label.toList (write label bytes).toList = some (lines (Base64.encodePadded Base64.standard bytes)) := by
  have hlines : '\r' ∉ lines (Base64.encodePadded Base64.standard bytes) := by
    intro hmem
    rcases mem_of_mem_lines hmem with hmem | hmem
    · exact hplain hmem
    · exact absurd hmem (by decide)
  have hlast : ("-----END ".toList ++ label.toList ++ "-----".toList).getLast? = some '-' := by
    rw [List.getLast?_append]
    rfl
  rw [toList_write h]
  generalize lines (Base64.encodePadded Base64.standard bytes) = body at hlines ⊢
  generalize hending : "-----END ".toList ++ label.toList ++ "-----".toList = ending at hlast ⊢
  have hopen : after? (beginMark ++ label.toList ++ "-----".toList)
      (beginMark ++ (label.toList ++ ("-----".toList ++ '\n' :: (body ++ '\n' :: (ending ++ ['\n']))))) =
        some ('\n' :: (body ++ '\n' :: (ending ++ ['\n']))) := by
    rw [← List.append_assoc, ← List.append_assoc, after?_append]
  have hclose : beforeLineEnd? (body ++ '\n' :: (ending ++ ['\n'])) = some (body ++ '\n' :: ending) := by
    rw [← List.cons_append, ← List.append_assoc]
    refine beforeLineEnd?_append ?_
    rw [List.getLast?_append, List.getLast?_cons, hlast]
    simp
  have hend : before? ending (body ++ '\n' :: ending) = some (body ++ ['\n']) := by
    rw [← List.singleton_append, ← List.append_assoc, before?_append]
  have hbody : beforeLineEnd? (body ++ ['\n']) = some body :=
    beforeLineEnd?_append fun hr => hlines (List.mem_of_getLast? hr)
  simp only [body?, after?_append, Option.isSome_some, if_true, Option.bind_eq_bind, Option.bind_some, hopen,
    afterLineEnd?, hclose, Option.getD_some, hending, hend, hbody]

/-- A block reads back under its label. -/
theorem read?_write (label : String) {bytes : List UInt8} (h : bytes ≠ []) :
    read? label (write label bytes) = some bytes := by
  have hencode := Base64.encodePadded_ne_nil h
  have hplain : '\r' ∉ Base64.encodePadded Base64.standard bytes := Base64.notMem_encodePadded (by simp) bytes
  have hlines : (lines (Base64.encodePadded Base64.standard bytes)).isEmpty = false :=
    List.isEmpty_eq_false_iff.2 (lines_ne_nil hencode)
  simp only [read?, body?_write hencode hplain, Option.bind_eq_bind, Option.bind_some, hlines, Bool.false_eq_true,
    if_false, unwrap?_lines, Base64.decodePadded?_encodePadded]

end Pem

end TokenAuthority
