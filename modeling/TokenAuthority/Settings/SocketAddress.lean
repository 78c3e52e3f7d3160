import TokenAuthority.Text.Hexadecimal

/-!
# Socket addresses

An internet address and a port. Version 4 is written as four decimal numbers, version 6 in brackets as eight
hexadecimal groups, the longest run of zero groups left out, with a scope after a percent sign if it is not
zero.
-/

namespace TokenAuthority

/-- An internet address with a port. -/
inductive SocketAddress
  | v4 (octets : List Nat) (port : Nat)
  | v6 (groups : List Nat) (scope port : Nat)
  deriving DecidableEq, Repr

namespace SocketAddress

/-! ## Reading -/

/-- The value of a digit in a base. -/
def digit? (base : Nat) (c : Char) : Option Nat :=
  (Text.hexValue? c).filter (· < base)

/-- The digits at the head of a text and the text after them. -/
def spanDigits (base : Nat) (cs : List Char) : List Nat × List Char :=
  let ds := cs.takeWhile fun c => (digit? base c).isSome
  (ds.filterMap (digit? base), cs.drop ds.length)

/-- The number that some digits write in a base. -/
def digitsValue (base : Nat) (ds : List Nat) : Nat :=
  ds.foldl (fun n d => n * base + d) 0

/-- A number below `bound` of at least one digit, zeros in front allowed. -/
def number? (base bound : Nat) (cs : List Char) : Option (Nat × List Char) :=
  let (ds, rest) := spanDigits base cs
  if ds ≠ [] ∧ digitsValue base ds < bound then some (digitsValue base ds, rest) else none

/-- One of the four numbers: at most three digits, no zero in front of another digit. -/
def octet? (cs : List Char) : Option (Nat × List Char) :=
  let (ds, rest) := spanDigits 10 cs
  if ds.length ≤ 3 ∧ (ds.head? = some 0 → ds.length = 1) then
    (number? 10 256 cs).map fun (n, _) => (n, rest)
  else none

/-- One of the eight groups: at most four digits. -/
def group? (cs : List Char) : Option (Nat × List Char) :=
  if (spanDigits 16 cs).1.length ≤ 4 then number? 16 65536 cs else none

/-- The text after a character. -/
def mark? (c : Char) : List Char → Option (List Char)
  | d :: rest => if c = d then some rest else none
  | [] => none

/-- Four numbers with points between them. -/
def octets? (cs : List Char) : Option (List Nat × List Char) := do
  let (a, cs) ← octet? cs
  let (b, cs) ← octet? (← mark? '.' cs)
  let (c, cs) ← octet? (← mark? '.' cs)
  let (d, cs) ← octet? (← mark? '.' cs)
  some ([a, b, c, d], cs)

/-- The text where the next group begins: after a colon, unless it is the first. -/
def separated? (first : Bool) (cs : List Char) : Option (List Char) :=
  if first then some cs else mark? ':' cs

/-- At most `limit` groups with colons between them; the last two may be written as four numbers, which is then
told as well. -/
def groups (first : Bool) : (limit : Nat) → List Char → List Nat × Bool × List Char
  | 0, cs => ([], false, cs)
  | limit + 1, cs =>
      let embedded := if limit = 0 then none else (separated? first cs).bind octets?
      match embedded with
      | some ([a, b, c, d], rest) => ([a * 256 + b, c * 256 + d], true, rest)
      | _ => match (separated? first cs).bind group? with
        | some (g, rest) =>
            let (gs, isEmbedded, rest) := groups false limit rest
            (g :: gs, isEmbedded, rest)
        | none => ([], false, cs)

/-- An address of version 6: eight groups, or fewer with a double colon in place of the zero ones. -/
def address6? (cs : List Char) : Option (List Nat × List Char) := do
  let (head, isEmbedded, cs) := groups true 8 cs
  if head.length = 8 then some (head, cs)
  else if isEmbedded then none
  else
    let cs ← mark? ':' cs
    let cs ← mark? ':' cs
    let (tail, _, cs) := groups true (7 - head.length) cs
    some (head ++ List.replicate (8 - head.length - tail.length) 0 ++ tail, cs)

/-- A port after its colon, to the end of the text. -/
def port? (cs : List Char) : Option Nat := do
  let (port, rest) ← number? 10 65536 (← mark? ':' cs)
  if rest = [] then some port else none

/-- A scope after its percent sign, zero if there is none. -/
def scope (cs : List Char) : Nat × List Char :=
  ((mark? '%' cs).bind (number? 10 (Nat.pow 2 32))).getD (0, cs)

/-- An address of version 4 and its port. -/
def ofChars4? (cs : List Char) : Option SocketAddress := do
  let (octets, cs) ← octets? cs
  some (.v4 octets (← port? cs))

/-- An address of version 6 and its port. -/
def ofChars6? (cs : List Char) : Option SocketAddress := do
  let (groups, cs) ← address6? (← mark? '[' cs)
  let (scope, cs) := scope cs
  some (.v6 groups scope (← port? (← mark? ']' cs)))

/-- Reads a socket address. -/
def ofText? (s : String) : Option SocketAddress :=
  ofChars4? s.toList <|> ofChars6? s.toList

/-! ## Writing -/

/-- Four numbers with points between them. -/
def octetsText (octets : List Nat) : String :=
  ".".intercalate (octets.map toString)

/-- Groups with colons between them. -/
def groupsText (groups : List Nat) : String :=
  ":".intercalate (groups.map fun g => String.ofList (Nat.toDigits 16 g))

/-- The length of the run of zeros that some groups begin with. -/
def zeroRun (groups : List Nat) : Nat :=
  (groups.takeWhile (· == 0)).length

/-- The first of the longest runs of zero groups: its start and its length. -/
def longestZeroRun (groups : List Nat) : Nat × Nat :=
  ((List.range groups.length).map fun start => (start, zeroRun (groups.drop start))).foldl
    (fun best run => if best.2 < run.2 then run else best) (0, 0)

/-- The text of an address of version 6. -/
def address6Text (groups : List Nat) : String :=
  match groups with
  | [0, 0, 0, 0, 0, 0xFFFF, g, h] => s!"::ffff:{octetsText [g / 256, g % 256, h / 256, h % 256]}"
  | _ =>
      let (start, length) := longestZeroRun groups
      if 1 < length then s!"{groupsText (groups.take start)}::{groupsText (groups.drop (start + length))}"
      else groupsText groups

/-- The text of a socket address. -/
def toText : SocketAddress → String
  | .v4 octets port => s!"{octetsText octets}:{port}"
  | .v6 groups scope port =>
      if scope = 0 then s!"[{address6Text groups}]:{port}" else s!"[{address6Text groups}%{scope}]:{port}"

end SocketAddress

end TokenAuthority
