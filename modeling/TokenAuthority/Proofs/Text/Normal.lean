import Mathlib.Data.List.DropRight
import TokenAuthority.Text.Blank
import TokenAuthority.Text.Lowercase

/-!
# Trimmed and lowered texts

Trimming and lowering change nothing when they are done again, and a text that is trimmed stays so when it is put in
lower case. Main statements: `Text.lowerChars_lowerChars`, `Text.Trimmed.lowerChars`.
-/

namespace TokenAuthority.Text

variable {c : Char} {cs before : List Char}

/-! ## Trimmed texts -/

/-- Characters with no white space at either end. -/
structure Trimmed (cs : List Char) : Prop where
  first : ∀ c ∈ cs.head?, isBlank c = false
  last : ∀ c ∈ cs.getLast?, isBlank c = false

theorem trimmed_trimChars (cs : List Char) : Trimmed (trimChars cs) := by
  have htrim : trimChars cs = (cs.dropWhile isBlank).rdropWhile isBlank := rfl
  constructor
  · intro c hc
    -- What is dropped at the end leaves a head of the rest, so the first character is that of the rest.
    have hprefix : trimChars cs <+: cs.dropWhile isBlank := by
      rw [htrim]
      exact List.rdropWhile_prefix isBlank _
    obtain ⟨dropped, hdropped⟩ := hprefix
    have hhead : (cs.dropWhile isBlank).head? = some c := by
      rw [← hdropped, List.head?_append, hc]
      rfl
    have hfirst := List.head?_dropWhile_not isBlank cs
    rw [hhead] at hfirst
    simpa using hfirst
  · intro c hc
    rw [htrim] at hc
    obtain ⟨hne, rfl⟩ := List.mem_getLast?_eq_getLast hc
    simpa using List.rdropWhile_last_not isBlank (cs.dropWhile isBlank) hne

theorem Trimmed.trimChars_eq (h : Trimmed cs) : trimChars cs = cs := by
  have hdrop {ds : List Char} (hds : ∀ d ∈ ds.head?, isBlank d = false) : ds.dropWhile isBlank = ds := by
    cases ds with
    | nil => rfl
    | cons d ds => rw [List.dropWhile_cons_of_neg (by simp [hds d rfl])]
  have hlast : ∀ d ∈ cs.reverse.head?, isBlank d = false := by
    rw [List.head?_reverse]
    exact h.last
  rw [trimChars, hdrop h.first, hdrop hlast, List.reverse_reverse]

theorem trimmed_of_trim {s : String} (h : trim s = s) : Trimmed s.toList := by
  rw [← h, trim, String.toList_ofList]
  exact trimmed_trimChars _

theorem trim_trim (s : String) : trim (trim s) = trim s := by
  simp only [trim, String.toList_ofList]
  rw [(trimmed_trimChars s.toList).trimChars_eq]

/-- What is left of a text that is not blank is not empty. -/
theorem trim_ne_empty_iff {s : String} : trim s ≠ "" ↔ ∃ c ∈ s.toList, isBlank c = false := by
  have hempty : trim s = "" ↔ trimChars s.toList = [] := by
    rw [trim, ← String.toList_inj, String.toList_ofList, String.toList_empty]
  rw [ne_eq, hempty, trimChars, List.reverse_eq_nil_iff, List.dropWhile_eq_nil_iff]
  constructor
  · intro h
    by_contra hblank
    push Not at hblank
    refine h fun c hc => ?_
    have hmem : c ∈ s.toList := (List.dropWhile_sublist _).subset (List.mem_reverse.1 hc)
    simpa using hblank c hmem
  · rintro ⟨c, hc, hsolid⟩ hall
    have hhead := List.head?_dropWhile_not isBlank s.toList
    cases hdrop : s.toList.dropWhile isBlank with
    | nil => simp [List.dropWhile_eq_nil_iff.1 hdrop c hc] at hsolid
    | cons d ds =>
        rw [hdrop] at hall hhead
        simp [hall d (by simp)] at hhead

/-! ## Runs of letters -/

namespace Lowercase

/-- A run of letters: the first and the last code point, the distance between neighbours, and what is added to reach
the lower-case letter. -/
abbrev Run := Nat × Nat × Nat × Int

/-- Whether a code point is in a run. -/
def Run.holds (run : Run) (n : Nat) : Bool :=
  run.1 ≤ n && n ≤ run.2.1 && (n - run.1) % run.2.2.1 == 0

/-- Where the letters of a run go: the first and the last code point and the distance between neighbours. -/
def Run.image (run : Run) : Nat × Nat × Nat :=
  ((run.1 + run.2.2.2).toNat, (run.2.1 + run.2.2.2).toNat, if run.1 = run.2.1 then 2 else run.2.2.1)

/-- Whether letters that a run goes to lie outside another run, above or below it or between its letters. -/
def Run.misses (image : Nat × Nat × Nat) (run : Run) : Bool :=
  image.2.1 < run.1 || run.2.1 < image.1 ||
    (image.2.2 == 2 && run.2.2.1 == 2 && (image.1 + run.1) % 2 == 1)

/-- Code points that no letter goes to: the letters with rules of their own, and white space. -/
def spared : List Nat :=
  [0x130, 0x3A3, 9, 10, 11, 12, 13, 0x20, 0x85, 0xA0, 0x1680, 0x2000, 0x2001, 0x2002, 0x2003, 0x2004, 0x2005, 0x2006,
    0x2007, 0x2008, 0x2009, 0x200A, 0x2028, 0x2029, 0x202F, 0x205F, 0x3000]

/-- What is checked of each run by itself. -/
def Run.sound (run : Run) : Bool :=
  0 ≤ run.1 + run.2.2.2 && (run.2.2.1 == 1 || run.2.2.1 == 2) &&
    ((run.2.1 + run.2.2.2).toNat < 0xD800 ||
      (0xDFFF < (run.1 + run.2.2.2).toNat && (run.2.1 + run.2.2.2).toNat < 0x110000)) &&
    spared.all fun n => (run.2.1 + run.2.2.2).toNat < n || n < (run.1 + run.2.2.2).toNat

theorem runs_sound : ∀ run ∈ runs, Run.sound run = true := by decide +kernel

/-- No run goes to a letter of a run. -/
theorem runs_miss : ∀ run ∈ runs, ∀ other ∈ runs, Run.misses (Run.image run) other = true := by
  have hall : (runs.all fun run => runs.all (Run.misses (Run.image run))) = true := by decide +kernel
  simpa [List.all_eq_true] using hall

/-- Where a letter of a run goes is a character between the ends of the run's image. -/
theorem Run.bounds {run : Run} (hrun : run ∈ runs) {n m : Nat} (hn : run.holds n = true)
    (hm : m = (n + run.2.2.2).toNat) :
    run.image.1 ≤ m ∧ m ≤ run.image.2.1 ∧ m.isValidChar ∧ m ∉ spared ∧
      (run.image.2.2 = 2 → m % 2 = run.image.1 % 2) := by
  have hsound := runs_sound run hrun
  obtain ⟨first, last, step, shift⟩ := run
  simp only [Run.holds, Run.sound, Run.image, Bool.and_eq_true, Bool.or_eq_true, decide_eq_true_eq, beq_iff_eq,
    List.all_eq_true] at *
  obtain ⟨⟨⟨hpos, hstep⟩, hvalid⟩, hspared⟩ := hsound
  obtain ⟨⟨hfirst, hlast⟩, hplace⟩ := hn
  have hlow : (first + shift).toNat ≤ m := by omega
  have hhigh : m ≤ (last + shift).toNat := by omega
  refine ⟨hlow, hhigh, ?_, fun hmem => ?_, ?_⟩
  · rw [Nat.isValidChar]
    omega
  · have := hspared m hmem
    omega
  · split
    · omega
    · rintro rfl
      omega

theorem holds_image {run other : Run} (hrun : run ∈ runs) (hother : other ∈ runs) {n m : Nat}
    (hn : run.holds n = true) (hm : m = (n + run.2.2.2).toNat) : other.holds m = false := by
  obtain ⟨hlow, hhigh, _, _, hparity⟩ := Run.bounds hrun hn hm
  have hmiss := runs_miss run hrun other hother
  simp only [Run.misses, Run.holds, Bool.and_eq_true, Bool.or_eq_true, decide_eq_true_eq, beq_iff_eq,
    Bool.and_eq_false_iff, decide_eq_false_iff_not, beq_eq_false_iff_ne] at *
  rcases hmiss with (habove | hbelow) | ⟨⟨htwo, hstep⟩, hodd⟩
  · omega
  · omega
  · have := hparity htwo
    rw [hstep]
    omega

end Lowercase

/-! ## Lowered texts -/

/-- A character that stays as it is in lower case, wherever it stands. -/
structure Lowered (c : Char) : Prop where
  fixed : lowerChar c = c
  ne_sigma : c ≠ '\u03a3'
  ne_dotted : c ≠ '\u0130'

theorem toNat_ofNat {n : Nat} (h : n.isValidChar) : (Char.ofNat n).toNat = n := by
  rw [Char.ofNat, dif_pos h]
  rfl

theorem lowerChar_cases (c : Char) :
    ((∀ run ∈ Lowercase.runs, Lowercase.Run.holds run c.toNat = false) ∧ lowerChar c = c) ∨
      ∃ run ∈ Lowercase.runs, Lowercase.Run.holds run c.toNat = true ∧
        lowerChar c = Char.ofNat (c.toNat + run.2.2.2).toNat := by
  rw [lowerChar]
  split
  · rename_i first last step shift hfind
    have hholds : Lowercase.Run.holds (first, last, step, shift) c.toNat = true := by
      simpa [Lowercase.Run.holds] using List.find?_some hfind
    exact .inr ⟨_, List.mem_of_find?_eq_some hfind, hholds, rfl⟩
  · rename_i hfind
    exact .inl ⟨fun run hrun => Bool.eq_false_iff.2 (List.find?_eq_none.1 hfind run hrun), rfl⟩

theorem lowerChar_eq_of_holds (h : ∀ run ∈ Lowercase.runs, Lowercase.Run.holds run c.toNat = false) :
    lowerChar c = c := by
  rcases lowerChar_cases c with ⟨_, hlower⟩ | ⟨run, hrun, hholds, _⟩
  · exact hlower
  · rw [h run hrun] at hholds
    cases hholds

/-- The code points of white space are spared by the runs. -/
theorem toNat_mem_spared (h : isBlank c = true) : c.toNat ∈ Lowercase.spared := by
  simp only [isBlank, Bool.or_eq_true, Bool.and_eq_true, decide_eq_true_eq, beq_iff_eq] at h
  simp only [Lowercase.spared, List.mem_cons, List.not_mem_nil, or_false]
  omega

/-- A letter goes to one that is lowered; only white space goes to white space. -/
theorem lowered_lowerChar (hsigma : c ≠ '\u03a3') (hdotted : c ≠ '\u0130') :
    Lowered (lowerChar c) ∧ (isBlank (lowerChar c) = true → isBlank c = true) := by
  rcases lowerChar_cases c with ⟨_, hlower⟩ | ⟨run, hrun, hholds, hlower⟩
  · rw [hlower]
    exact ⟨⟨hlower, hsigma, hdotted⟩, id⟩
  · generalize hm : (c.toNat + run.2.2.2).toNat = m at hlower
    obtain ⟨_, _, hvalid, hspared, _⟩ := Lowercase.Run.bounds hrun hholds hm.symm
    have hcode : (lowerChar c).toNat = m := by rw [hlower, toNat_ofNat hvalid]
    have hfixed : lowerChar (lowerChar c) = lowerChar c := by
      refine lowerChar_eq_of_holds fun other hother => ?_
      rw [hcode]
      exact Lowercase.holds_image hrun hother hholds hm.symm
    have hne {d : Char} (hd : d.toNat ∈ Lowercase.spared) : lowerChar c ≠ d := by
      rintro rfl
      exact hspared (hcode ▸ hd)
    refine ⟨⟨hfixed, hne (by decide), hne (by decide)⟩, fun hblank => ?_⟩
    exact absurd (hcode ▸ toNat_mem_spared hblank) hspared

/-- What the lower-case form begins with: the characters of the first one, which are lowered, and no white space
unless the first one is. -/
theorem lowerAfter_cons (before : List Char) (c : Char) (cs : List Char) :
    ∃ front, lowerAfter before (c :: cs) = front ++ lowerAfter (c :: before) cs ∧ front ≠ [] ∧
      ∀ d ∈ front, Lowered d ∧ (isBlank d = true → isBlank c = true) := by
  refine ⟨_, rfl, ?_⟩
  by_cases hsigma : c = '\u03a3'
  · rw [if_pos hsigma]
    split
    · exact ⟨by simp, by simpa using ⟨⟨by decide, by decide, by decide⟩, fun h => absurd h (by decide)⟩⟩
    · exact ⟨by simp, by simpa using ⟨⟨by decide, by decide, by decide⟩, fun h => absurd h (by decide)⟩⟩
  · rw [if_neg hsigma]
    split
    · refine ⟨by simp, ?_⟩
      rw [List.forall_mem_cons, List.forall_mem_singleton]
      exact ⟨⟨⟨by decide, by decide, by decide⟩, fun h => absurd h (by decide)⟩,
        ⟨⟨by decide, by decide, by decide⟩, fun h => absurd h (by decide)⟩⟩
    · rename_i hdotted
      exact ⟨by simp, by simpa using lowered_lowerChar hsigma hdotted⟩

theorem lowered_of_mem_lowerAfter {d : Char} (h : d ∈ lowerAfter before cs) : Lowered d := by
  induction cs generalizing before with
  | nil => cases h
  | cons c cs ih =>
      obtain ⟨front, hfront, _, hall⟩ := lowerAfter_cons before c cs
      rw [hfront, List.mem_append] at h
      rcases h with h | h
      · exact (hall d h).1
      · exact ih h

theorem lowerAfter_of_lowered (h : ∀ c ∈ cs, Lowered c) : lowerAfter before cs = cs := by
  induction cs generalizing before with
  | nil => rfl
  | cons c cs ih =>
      have hc := h c (by simp)
      have hrest : lowerAfter (c :: before) cs = cs := ih fun d hd => h d (by simp [hd])
      rw [lowerAfter, if_neg hc.ne_sigma, if_neg hc.ne_dotted, hc.fixed, hrest]
      rfl

theorem lowerChars_lowerChars (cs : List Char) : lowerChars (lowerChars cs) = lowerChars cs :=
  lowerAfter_of_lowered fun _ hd => lowered_of_mem_lowerAfter hd

/-! ## Trimmed texts in lower case -/

theorem head_lowerAfter (h : ∀ c ∈ cs.head?, isBlank c = false) :
    ∀ d ∈ (lowerAfter before cs).head?, isBlank d = false := by
  intro d hd
  cases cs with
  | nil => cases hd
  | cons c cs =>
      obtain ⟨front, hfront, hne, hall⟩ := lowerAfter_cons before c cs
      rw [hfront, List.head?_append_of_ne_nil _ hne] at hd
      have hblank := (hall d (List.mem_of_mem_head? hd)).2
      rw [h c rfl] at hblank
      simpa using hblank

theorem last_lowerAfter (h : ∀ c ∈ cs.getLast?, isBlank c = false) :
    ∀ d ∈ (lowerAfter before cs).getLast?, isBlank d = false := by
  induction cs generalizing before with
  | nil => simp [lowerAfter]
  | cons c cs ih =>
      intro d hd
      obtain ⟨front, hfront, _, hall⟩ := lowerAfter_cons before c cs
      rw [hfront] at hd
      cases cs with
      | nil =>
          rw [lowerAfter, List.append_nil] at hd
          have hblank := (hall d (List.mem_of_mem_getLast? hd)).2
          rw [h c rfl] at hblank
          simpa using hblank
      | cons c' cs =>
          have hrest : lowerAfter (c :: before) (c' :: cs) ≠ [] := by
            obtain ⟨front', hfront', hne', _⟩ := lowerAfter_cons (c :: before) c' cs
            simp [hfront', hne']
          rw [List.getLast?_append_of_ne_nil _ hrest] at hd
          exact ih (by simpa using h) d hd

theorem Trimmed.lowerChars (h : Trimmed cs) : Trimmed (lowerChars cs) :=
  ⟨head_lowerAfter h.first, last_lowerAfter h.last⟩

end TokenAuthority.Text
