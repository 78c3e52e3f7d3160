import TokenAuthority.Text.Blank
import TokenAuthority.Time.Calendar
import TokenAuthority.Time.Instant

/-!
# Timestamps

The text of an instant after RFC 3339. An instant is written in UTC with the fewest of 0, 3, 6 or 9 fraction
digits that are exact. Reading is lenient about white space and the width of numbers, needs an offset, and
normalises to UTC. A leap second is second 60.
-/

namespace TokenAuthority.Timestamp

/-! ## Writing -/

/-- A number in decimal digits, padded with zeros to a width. -/
def padded (width n : Nat) : List Char :=
  let digits := (Nat.toDigits 10 n)
  List.replicate (width - digits.length) '0' ++ digits

/-- Four digits for the years 0 to 9999, else a sign and at least four digits. -/
def writeYear (year : Int) : List Char :=
  if 0 ≤ year ∧ year ≤ 9999 then padded 4 year.toNat
  else (if year < 0 then '-' else '+') :: padded 4 year.natAbs

/-- The fewest of 0, 3, 6 and 9 fraction digits that are exact. -/
def writeFraction (nanoseconds : Nat) : List Char :=
  if nanoseconds = 0 then []
  else if nanoseconds % 1000000 = 0 then '.' :: padded 3 (nanoseconds / 1000000)
  else if nanoseconds % 1000 = 0 then '.' :: padded 6 (nanoseconds / 1000)
  else '.' :: padded 9 nanoseconds

/-- The characters of an instant's timestamp. -/
def writeChars (t : Instant) : List Char :=
  let date := Date.ofDays (t.seconds / 86400)
  let time := (t.seconds % 86400).toNat
  let leap := if t.isLeap then 1 else 0
  writeYear date.year ++ '-' :: (padded 2 date.month ++ '-' :: (padded 2 date.day ++ 'T' ::
    (padded 2 (time / 3600) ++ ':' :: (padded 2 (time / 60 % 60) ++ ':' :: (padded 2 (time % 60 + leap) ++
      (writeFraction (t.nanoseconds - leap * nanosPerSecond) ++ ['Z']))))))

/-- The timestamp of an instant. -/
def write (t : Instant) : String :=
  String.ofList (writeChars t)

/-! ## Reading -/

/-- The text after leading white space. -/
def skipBlank (cs : List Char) : List Char :=
  cs.dropWhile Text.isBlank

/-- A number of one digit or more, as many as there are up to a limit, and the text after it. -/
def number? (limit : Nat) (cs : List Char) : Option (Nat × List Char) :=
  let ds := (cs.take limit).takeWhile Char.isDigit
  if ds.isEmpty then none else some (Nat.ofDigitChars 10 ds 0, cs.drop ds.length)

/-- A number of at most two digits, after white space. -/
def pair? (cs : List Char) : Option (Nat × List Char) :=
  number? 2 (skipBlank cs)

/-- A year after white space: any number of digits after a sign, at most four without. -/
def year? (cs : List Char) : Option (Int × List Char) :=
  match skipBlank cs with
  | '-' :: rest => (number? rest.length rest).map fun (n, rest) => (-(n : Int), rest)
  | '+' :: rest => (number? rest.length rest).map fun (n, rest) => ((n : Int), rest)
  | rest => (number? 4 rest).map fun (n, rest) => ((n : Int), rest)

/-- The text after one given character, with white space before it. -/
def mark? (mark : Char) (cs : List Char) : Option (List Char) :=
  match skipBlank cs with
  | c :: rest => if c = mark then some rest else none
  | [] => none

/-- Nanoseconds after a point; digits beyond the ninth are dropped. -/
def fraction? (cs : List Char) : Option (Nat × List Char) :=
  match cs with
  | '.' :: rest =>
      let ds := (rest.take 9).takeWhile Char.isDigit
      if ds.isEmpty then none
      else some (Nat.ofDigitChars 10 ds 0 * Nat.pow 10 (9 - ds.length), (rest.drop ds.length).dropWhile Char.isDigit)
  | _ => some (0, cs)

/-- Exactly two digits. -/
def twoDigits? : List Char → Option (Nat × List Char)
  | a :: b :: rest => if a.isDigit && b.isDigit then some (Nat.ofDigitChars 10 [a, b] 0, rest) else none
  | _ => none

/-- An offset in seconds after its sign: two digits of hours, colons or white space, two digits of minutes. -/
def clockOffset? (cs : List Char) : Option (Nat × List Char) := do
  let (hours, rest) ← twoDigits? cs
  let (minutes, rest) ← twoDigits? (rest.dropWhile fun c => c == ':' || Text.isBlank c)
  if minutes < 60 then some (hours * 3600 + minutes * 60, rest) else none

/-- The offset from UTC in seconds: `UTC`, `Z`, or a signed clock time. -/
def offset? (cs : List Char) : Option (Int × List Char) :=
  if (cs.take 3).map Char.toUpper = ['U', 'T', 'C'] then some (0, cs.drop 3)
  else match cs with
    | 'Z' :: rest => some (0, rest)
    | 'z' :: rest => some (0, rest)
    | '+' :: rest => (clockOffset? rest).map fun (n, rest) => ((n : Int), rest)
    | '-' :: rest => (clockOffset? rest).map fun (n, rest) => (-(n : Int), rest)
    | '\u2212' :: rest => (clockOffset? rest).map fun (n, rest) => (-(n : Int), rest)
    | _ => none

/-- The instant at a date, a time of day and an offset. The date must lie in the years of the representable
instants before the offset is applied, and the instant must be representable after. -/
def assemble? (date : Date) (hour minute second nanoseconds : Nat) (offset : Int) : Option Instant :=
  if date.Valid ∧ -262143 ≤ date.year ∧ date.year ≤ 262142 ∧ hour < 24 ∧ minute < 60 ∧ second ≤ 60 ∧
      offset.natAbs < 86400 then
    let leap := if second = 60 then 1 else 0
    Instant.ofParts? (date.toDays * 86400 + hour * 3600 + minute * 60 + (second - leap : Nat) - offset)
      (nanoseconds + leap * nanosPerSecond)
  else none

/-- Reads the characters of a timestamp. -/
def readChars? (cs : List Char) : Option Instant := do
  let (year, cs) ← year? cs
  let cs ← mark? '-' cs
  let (month, cs) ← pair? cs
  let cs ← mark? '-' cs
  let (day, cs) ← pair? cs
  let cs ← match cs with
    | 't' :: rest | 'T' :: rest | ' ' :: rest => some rest
    | _ => none
  let (hour, cs) ← pair? cs
  let cs ← mark? ':' cs
  let (minute, cs) ← pair? cs
  let cs ← mark? ':' cs
  let (second, cs) ← pair? cs
  let (nanoseconds, cs) ← fraction? cs
  let (offset, cs) ← offset? (skipBlank cs)
  if (skipBlank cs).isEmpty then assemble? ⟨year, month, day⟩ hour minute second nanoseconds offset else none

/-- Reads a timestamp. -/
def read? (s : String) : Option Instant :=
  readChars? s.toList

end TokenAuthority.Timestamp
