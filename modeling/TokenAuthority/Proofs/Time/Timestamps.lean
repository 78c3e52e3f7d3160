import TokenAuthority.Proofs.Time.Calendar
import TokenAuthority.Proofs.Time.Pieces

/-!
# Which texts are timestamps

A timestamp is read as an instant exactly if it spells what a clock shows at that instant, so far ahead of UTC as its
offset says. What is written is what a clock on UTC shows, so that it reads back. Main statements:
`Timestamp.read?_eq_some_iff`, `Timestamp.read?_write`.
-/

namespace TokenAuthority

/-! ## Clocks -/

/-- What a clock shows. -/
structure Clock where
  date : Date
  hour : Nat
  minute : Nat
  second : Nat
  nanoseconds : Nat

/-- What a clock shows at an instant that is so many seconds ahead of UTC; a leap second is second 60. -/
def Instant.clock (t : Instant) (offset : Int) : Clock :=
  let now := t.seconds + offset
  let time := (now % 86400).toNat
  ⟨.ofDays (now / 86400), time / 3600, time / 60 % 60, time % 60 + t.nanoseconds / nanosPerSecond,
    t.nanoseconds % nanosPerSecond⟩

namespace Timestamp

variable {source rest : List Char} {date : Date} {clock : Clock} {offset : Int} {t : Instant}

/-! ## Dates and times of day -/

/-- How a date is written. -/
inductive DateText : Date → List Char → List Char → Prop
  | pieces {year : Int} {month day : Nat} {source cs₁ cs₂ cs₃ cs₄ rest : List Char} (hyear : Year year source cs₁)
      (hyearEnd : Mark '-' cs₁ cs₂) (hmonth : Pair month cs₂ cs₃) (hmonthEnd : Mark '-' cs₃ cs₄)
      (hday : Pair day cs₄ rest) : DateText ⟨year, month, day⟩ source rest

/-- How a time of day and the offset from UTC are written, to the end of the text. -/
inductive TimeText : Clock → Int → List Char → Prop
  | pieces {date : Date} {hour minute second nanoseconds : Nat} {offset : Int}
      {source cs₁ cs₂ cs₃ cs₄ cs₅ cs₆ cs₇ cs₈ : List Char} (hhour : Pair hour source cs₁)
      (hhourEnd : Mark ':' cs₁ cs₂) (hminute : Pair minute cs₂ cs₃) (hminuteEnd : Mark ':' cs₃ cs₄)
      (hsecond : Pair second cs₄ cs₅) (hfraction : Fraction nanoseconds cs₅ cs₆) (hblank : Blanks cs₆ cs₇)
      (hzone : Zone offset cs₇ cs₈) (hend : Blanks cs₈ []) :
      TimeText ⟨date, hour, minute, second, nanoseconds⟩ offset source

/-- Reads a date. -/
def readDate? (cs : List Char) : Option (Date × List Char) := do
  let (year, cs) ← year? cs
  let cs ← mark? '-' cs
  let (month, cs) ← pair? cs
  let cs ← mark? '-' cs
  let (day, cs) ← pair? cs
  some (⟨year, month, day⟩, cs)

/-- Reads a time of day and an offset. -/
def readTime? (date : Date) (cs : List Char) : Option Instant := do
  let (hour, cs) ← pair? cs
  let cs ← mark? ':' cs
  let (minute, cs) ← pair? cs
  let cs ← mark? ':' cs
  let (second, cs) ← pair? cs
  let (nanoseconds, cs) ← fraction? cs
  let (offset, cs) ← offset? (skipBlank cs)
  if (skipBlank cs).isEmpty then assemble? date hour minute second nanoseconds offset else none

theorem readChars?_eq (cs : List Char) : readChars? cs = (readDate? cs).bind fun (date, cs) =>
    match cs with
    | divider :: cs => if divider = 't' ∨ divider = 'T' ∨ divider = ' ' then readTime? date cs else none
    | [] => none := by
  simp only [readDate?, Option.bind_eq_bind, Option.bind_assoc, Option.bind_some]
  -- The two agree step by step up to the divider, for which the reader has a case each.
  refine bind_congr fun (year, cs₁) => bind_congr fun cs₂ => bind_congr fun (month, cs₃) => bind_congr fun cs₄ =>
    bind_congr fun (day, cs₅) => ?_
  simp only
  split
  · rfl
  · rfl
  · rfl
  · rename_i hlower hupper hspace
    cases cs₅ with
    | nil => rfl
    | cons divider tail =>
        have hother : ¬ (divider = 't' ∨ divider = 'T' ∨ divider = ' ') := by
          rintro (rfl | rfl | rfl)
          · exact hlower _ rfl
          · exact hupper _ rfl
          · exact hspace _ rfl
        exact (if_neg hother).symm

theorem readDate?_eq_some_iff : readDate? source = some (date, rest) ↔ DateText date source rest := by
  constructor
  · intro h
    obtain ⟨⟨year, cs₁⟩, hyear, h⟩ := Option.bind_eq_some_iff.1 h
    obtain ⟨cs₂, hyearEnd, h⟩ := Option.bind_eq_some_iff.1 h
    obtain ⟨⟨month, cs₃⟩, hmonth, h⟩ := Option.bind_eq_some_iff.1 h
    obtain ⟨cs₄, hmonthEnd, h⟩ := Option.bind_eq_some_iff.1 h
    obtain ⟨⟨day, cs₅⟩, hday, h⟩ := Option.bind_eq_some_iff.1 h
    cases h
    exact .pieces (year?_eq_some_iff.1 hyear) (mark?_eq_some_iff.1 hyearEnd) (pair?_eq_some_iff.1 hmonth)
      (mark?_eq_some_iff.1 hmonthEnd) (pair?_eq_some_iff.1 hday)
  · rintro ⟨hyear, hyearEnd, hmonth, hmonthEnd, hday⟩
    simp [readDate?, year?_eq_some_iff.2 hyear, mark?_eq_some_iff.2 hyearEnd, pair?_eq_some_iff.2 hmonth,
      mark?_eq_some_iff.2 hmonthEnd, pair?_eq_some_iff.2 hday]

theorem readTime?_eq_some_iff : readTime? date source = some t ↔
    ∃ clock offset, clock.date = date ∧ TimeText clock offset source ∧
      assemble? clock.date clock.hour clock.minute clock.second clock.nanoseconds offset = some t := by
  constructor
  · intro h
    obtain ⟨⟨hour, cs₁⟩, hhour, h⟩ := Option.bind_eq_some_iff.1 h
    obtain ⟨cs₂, hhourEnd, h⟩ := Option.bind_eq_some_iff.1 h
    obtain ⟨⟨minute, cs₃⟩, hminute, h⟩ := Option.bind_eq_some_iff.1 h
    obtain ⟨cs₄, hminuteEnd, h⟩ := Option.bind_eq_some_iff.1 h
    obtain ⟨⟨second, cs₅⟩, hsecond, h⟩ := Option.bind_eq_some_iff.1 h
    obtain ⟨⟨nanoseconds, cs₆⟩, hfraction, h⟩ := Option.bind_eq_some_iff.1 h
    obtain ⟨⟨offset, cs₇⟩, hzone, h⟩ := Option.bind_eq_some_iff.1 h
    obtain ⟨hend, h⟩ := Option.ite_none_right_eq_some.1 h
    refine ⟨⟨date, hour, minute, second, nanoseconds⟩, offset, rfl, ?_, h⟩
    exact .pieces (pair?_eq_some_iff.1 hhour) (mark?_eq_some_iff.1 hhourEnd) (pair?_eq_some_iff.1 hminute)
      (mark?_eq_some_iff.1 hminuteEnd) (pair?_eq_some_iff.1 hsecond) (fraction?_eq_some_iff.1 hfraction)
      (skipBlank_eq_iff.1 rfl) (offset?_eq_some_iff.1 hzone) (skipBlank_eq_iff.1 (List.isEmpty_iff.1 hend))
  · rintro ⟨_, _, rfl, ⟨hhour, hhourEnd, hminute, hminuteEnd, hsecond, hfraction, hblank, hzone, hend⟩, h⟩
    simp [readTime?, pair?_eq_some_iff.2 hhour, mark?_eq_some_iff.2 hhourEnd, pair?_eq_some_iff.2 hminute,
      mark?_eq_some_iff.2 hminuteEnd, pair?_eq_some_iff.2 hsecond, fraction?_eq_some_iff.2 hfraction,
      skipBlank_eq_iff.2 hblank, offset?_eq_some_iff.2 hzone, skipBlank_eq_iff.2 hend, h]

theorem TimeText.bounds (h : TimeText clock offset source) :
    clock.nanoseconds < nanosPerSecond ∧ offset % 60 = 0 := by
  cases h with
  | pieces _ _ _ _ _ hfraction _ hzone _ => exact ⟨hfraction.lt, hzone.whole_minutes⟩

/-- How a timestamp is written. -/
def Spells (clock : Clock) (offset : Int) (cs : List Char) : Prop :=
  ∃ divider rest, DateText clock.date cs (divider :: rest) ∧ (divider = 't' ∨ divider = 'T' ∨ divider = ' ') ∧
    TimeText clock offset rest

/-- Whether a date lies in a year of the representable instants, and an offset is less than a day. -/
def InReach (date : Date) (offset : Int) : Prop :=
  -262143 ≤ date.year ∧ date.year ≤ 262142 ∧ offset.natAbs < 86400

theorem ofParts?_parts (t : Instant) : Instant.ofParts? t.seconds t.nanoseconds = some t :=
  dif_pos ⟨t.first_le, t.le_last, t.nanoseconds_lt, t.leap_at_end⟩

theorem assemble?_eq_some_iff (hnanos : clock.nanoseconds < nanosPerSecond) (hoffset : offset % 60 = 0) :
    assemble? clock.date clock.hour clock.minute clock.second clock.nanoseconds offset = some t ↔
      t.clock offset = clock ∧ InReach clock.date offset := by
  obtain ⟨date, hour, minute, second, nanoseconds⟩ := clock
  simp only [assemble?, Instant.clock, Clock.mk.injEq, InReach, nanosPerSecond] at *
  rw [Option.ite_none_right_eq_some]
  constructor
  · rintro ⟨⟨hvalid, hfirst, hlast, hhour, hminute, hsecond, haway⟩, h⟩
    obtain ⟨hseconds, hnanoseconds⟩ := Instant.eq_of_ofParts? h
    -- A leap second counts as the second before it, with the rest in the nanoseconds.
    have hbound : (if second = 60 then 1 else 0) ≤ second := by split <;> omega
    have hshown : second - (if second = 60 then 1 else 0) < 60 := by split <;> omega
    generalize (if second = 60 then 1 else 0) = leap at *
    have hdays : (t.seconds + offset) / 86400 = date.toDays := by omega
    have htime : ((t.seconds + offset) % 86400).toNat = hour * 3600 + minute * 60 + (second - leap) := by omega
    rw [hdays, htime, Date.ofDays_toDays hvalid]
    refine ⟨⟨rfl, ?_⟩, hfirst, hlast, haway⟩
    omega
  · rintro ⟨⟨rfl, hhour, hminute, hsecond, hnanoseconds⟩, hfirst, hlast, haway⟩
    have hlt := t.nanoseconds_lt
    have hend := t.leap_at_end
    simp only [nanosPerSecond] at hlt hend
    -- Whole minutes leave 59 seconds at 59, and only a leap second adds one to them.
    have hleap : (if second = 60 then 1 else 0) = t.nanoseconds / 1000000000 := by
      split <;> omega
    refine ⟨⟨Date.valid_ofDays _, hfirst, hlast, by omega, by omega, by omega, haway⟩, ?_⟩
    rw [hleap, Date.toDays_ofDays]
    refine Eq.trans ?_ (ofParts?_parts t)
    congr 1 <;> omega

theorem readChars?_eq_some_iff : readChars? source = some t ↔
    ∃ offset, Spells (t.clock offset) offset source ∧ InReach (t.clock offset).date offset := by
  rw [readChars?_eq, Option.bind_eq_some_iff]
  constructor
  · rintro ⟨⟨date, _ | ⟨divider, tail⟩⟩, hdate, h⟩
    · cases h
    · obtain ⟨hdivider, h⟩ := Option.ite_none_right_eq_some.1 h
      obtain ⟨clock, offset, rfl, htime, h⟩ := readTime?_eq_some_iff.1 h
      obtain ⟨hnanos, hoffset⟩ := htime.bounds
      obtain ⟨rfl, hreach⟩ := (assemble?_eq_some_iff hnanos hoffset).1 h
      exact ⟨offset, ⟨divider, tail, readDate?_eq_some_iff.1 hdate, hdivider, htime⟩, hreach⟩
  · rintro ⟨offset, ⟨divider, tail, hdate, hdivider, htime⟩, hreach⟩
    obtain ⟨hnanos, hoffset⟩ := htime.bounds
    refine ⟨(_, divider :: tail), readDate?_eq_some_iff.2 hdate, ?_⟩
    have hassembled := (assemble?_eq_some_iff hnanos hoffset).2 ⟨rfl, hreach⟩
    have hread := readTime?_eq_some_iff.2 ⟨_, offset, rfl, htime, hassembled⟩
    simp only [hdivider, if_true, hread]

/-! ## Written texts -/

theorem dateText_write (h : date.Valid) (hends : ∀ c, rest.head? = some c → c.isDigit = false) : DateText date
    (writeYear date.year ++ '-' :: (padded 2 date.month ++ '-' :: (padded 2 date.day ++ rest))) rest := by
  obtain ⟨-, hmonth, -, hday⟩ := h
  have hlength : Date.monthLength date.year date.month ≤ 31 := by
    unfold Date.monthLength
    split_ifs <;> decide
  exact .pieces (year_writeYear (by simp) _) (mark_cons (by decide)) (pair_padded (by simp) (by omega))
    (mark_cons (by decide)) (pair_padded hends (by omega))

theorem leap_eq (t : Instant) : (if t.isLeap then 1 else 0) = t.nanoseconds / nanosPerSecond := by
  have hlt := t.nanoseconds_lt
  cases hleap : t.isLeap with
  | true =>
      have hbeyond : nanosPerSecond ≤ t.nanoseconds := by simpa [Instant.isLeap] using hleap
      simp only [nanosPerSecond, if_true] at *
      omega
  | false => exact (Nat.div_eq_of_lt (Instant.nanoseconds_lt_of_not_leap hleap)).symm

theorem spells_writeChars (t : Instant) : Spells (t.clock 0) 0 (writeChars t) := by
  have hlt := t.nanoseconds_lt
  have hnanos : t.nanoseconds - t.nanoseconds / nanosPerSecond * nanosPerSecond = t.nanoseconds % nanosPerSecond := by
    simp only [nanosPerSecond]
    omega
  have hsecond : (t.seconds % 86400).toNat % 60 + t.nanoseconds / nanosPerSecond < 100 := by
    simp only [nanosPerSecond] at *
    omega
  have hfraction : Fraction (t.nanoseconds % nanosPerSecond)
      (writeFraction (t.nanoseconds % nanosPerSecond) ++ ['Z']) ['Z'] :=
    fraction_writeFraction (by simp) (Nat.mod_lt _ (by decide)) (by simp)
  simp only [writeChars, leap_eq, hnanos, Instant.clock, Int.add_zero]
  refine ⟨'T', _, dateText_write (Date.valid_ofDays _) (by simp), .inr (.inl rfl), ?_⟩
  exact .pieces (pair_padded (by simp) (by omega)) (mark_cons (by decide)) (pair_padded (by simp) (by omega))
    (mark_cons (by decide)) (pair_padded (fun _ => head_writeFraction _) hsecond) hfraction
    (.of_head (by simp [Text.isBlank])) (.letter (.inl rfl)) (.of_head (by simp))

/-- The representable instants are those of the years that a timestamp may have. -/
theorem inReach_clock (t : Instant) : InReach (t.clock 0).date 0 := by
  have hvalid := Date.valid_ofDays (t.seconds / 86400)
  have hfirst := Date.le_year_iff hvalid (-262143)
  have hlast := Date.le_year_iff hvalid 262143
  have hlower := t.first_le
  have hupper := t.le_last
  simp only [Date.toDays_ofDays, Date.yearStart, Instant.firstSecond, Instant.lastSecond] at *
  simp only [InReach, Instant.clock, Int.add_zero]
  refine ⟨hfirst.2 (by omega), ?_, by decide⟩
  omega

theorem read?_eq_some_iff {s : String} : read? s = some t ↔
    ∃ offset, Spells (t.clock offset) offset s.toList ∧ InReach (t.clock offset).date offset :=
  readChars?_eq_some_iff

theorem read?_write (t : Instant) : read? (write t) = some t := by
  rw [read?_eq_some_iff, write, String.toList_ofList]
  exact ⟨0, spells_writeChars t, inReach_clock t⟩

end Timestamp

end TokenAuthority
