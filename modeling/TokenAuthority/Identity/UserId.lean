import TokenAuthority.Text.Hexadecimal
import TokenAuthority.Text.Utf8

/-!
# User ids

An id is a 128-bit number. It is written as 32 hexadecimal digits in five hyphenated groups, and read
from four spellings: bare digits, hyphenated groups, groups in braces, and groups after `urn:uuid:`.
A text in no such spelling is refused with the first fault of its shape.
-/

namespace TokenAuthority

/-- The identifier of a user. -/
structure UserId where
  /-- The number behind the text. -/
  bits : BitVec 128
  deriving DecidableEq, Repr

namespace UserId

/-- Why a text is not a user id; lengths and positions count UTF-8 bytes. -/
inductive Fault
  | length (found : Nat)
  | character (found : Char) (position : Nat)
  | groupCount (found : Nat)
  | groupLength (group expected found : Nat)
  deriving DecidableEq, Repr

/-- The wording of a fault. -/
def Fault.message : Fault → String
  | .length found => s!"invalid length: found {found}"
  | .character found position => s!"invalid character: found `{found}` at {position}"
  | .groupCount found => s!"invalid group count: expected 5, found {found}"
  | .groupLength group expected found =>
      s!"invalid group length in group {group}: expected {expected}, found {found}"

/-- The id all of whose bits are zero. -/
def nil : UserId := ⟨0⟩

/-- Whether an id is the nil id. -/
def isNil (id : UserId) : Bool := id == nil

/-- Ids are ordered as the numbers they stand for. -/
instance : Ord UserId where
  compare a b := compare a.bits.toNat b.bits.toNat

/-! ## Text -/

/-- The lower-case digits of an id in groups of 8, 4, 4, 4 and 12. -/
def toChars (id : UserId) : List Char :=
  let ds := Text.hexDigits 32 id.bits.toNat
  ds.take 8 ++ '-' :: ((ds.drop 8).take 4 ++ '-' :: ((ds.drop 12).take 4 ++ '-' ::
    ((ds.drop 16).take 4 ++ '-' :: ds.drop 20)))

/-- The hyphenated text of an id. -/
def toText (id : UserId) : String :=
  String.ofList id.toChars

instance : ToString UserId := ⟨toText⟩

/-- The id written by exactly 32 hexadecimal digits. -/
def ofDigits? (ds : List Char) : Option UserId :=
  if ds.length = 32 then
    (ds.mapM Text.hexValue?).map fun values => ⟨BitVec.ofNat 128 (Text.ofHexValues values)⟩
  else none

/-- The digits of a hyphenated text, when its four hyphens stand in their places. -/
def ungroup? (cs : List Char) : Option (List Char) :=
  if cs.length = 36 ∧ cs[8]? = some '-' ∧ cs[13]? = some '-' ∧ cs[18]? = some '-' ∧ cs[23]? = some '-' then
    some (cs.take 8 ++ (cs.drop 9).take 4 ++ (cs.drop 14).take 4 ++ (cs.drop 19).take 4 ++ cs.drop 24)
  else none

/-- The id written in hyphenated groups. -/
def ofGroups? (cs : List Char) : Option UserId :=
  (ungroup? cs).bind ofDigits?

/-- What stands between an opening and a closing brace. -/
def unbrace? (cs : List Char) : Option (List Char) :=
  match cs with
  | '\x7b' :: rest => if rest.getLast? = some '\x7d' then some rest.dropLast else none
  | _ => none

/-- What follows `urn:uuid:`, in letters of any case. -/
def afterUrn? (cs : List Char) : Option (List Char) :=
  if (cs.take 9).map Char.toLower = ['u', 'r', 'n', ':', 'u', 'u', 'i', 'd', ':'] then some (cs.drop 9) else none

/-- The number of UTF-8 bytes of some characters. -/
def byteLength (cs : List Char) : Nat :=
  (Text.Utf8.encode cs).length

/-- The first character that is neither a digit nor a hyphen, with its byte position. -/
def strayCharacter? : List Char → (position : Nat) → Option (Char × Nat)
  | [], _ => none
  | c :: cs, position =>
      if c = '-' ∨ (Text.hexValue? c).isSome then strayCharacter? cs (position + 1) else some (c, position)

/-- The places of the hyphens among digits and hyphens. -/
def hyphenPlaces : List Char → (place : Nat) → List Nat
  | [], _ => []
  | c :: cs, place => if c = '-' then place :: hyphenPlaces cs (place + 1) else hyphenPlaces cs (place + 1)

/-- The first of the four hyphens that stands out of place: its group, the length wanted and the length found. -/
def misplacedHyphen? (places : List Nat) : Option (Nat × Nat × Nat) :=
  let rows := places.zip [(0, 8, 0), (1, 4, 9), (2, 4, 14), (3, 4, 19)]
  (rows.find? fun (place, _, length, start) => place ≠ start + length).map
    fun (place, group, length, start) => (group, length, place - start)

/-- The fault of the text `whole`, found in its part `scanned` that begins at byte `start`. -/
def scanFault (whole scanned : List Char) (start : Nat) (grouped : Bool) : Fault :=
  match strayCharacter? scanned start with
  | some (c, position) => .character c position
  | none =>
      let places := hyphenPlaces scanned 0
      if places.isEmpty && !grouped then .length (byteLength whole)
      else if places.length ≠ 4 then .groupCount (places.length + 1)
      else match misplacedHyphen? places with
        | some (group, expected, found) => .groupLength group expected found
        | none => .groupLength 4 12 (byteLength whole - 24)

/-- The fault of a text that is no id; `grouped` says that hyphenated groups were called for. -/
def shapeFault (cs : List Char) (grouped : Bool) : Fault :=
  if cs.isEmpty || byteLength cs > 45 then .length (byteLength cs)
  else if byteLength cs = 36 then scanFault cs cs 0 true
  else match unbrace? cs with
    | some inner => scanFault cs inner 1 true
    | none => match afterUrn? cs with
      | some inner => scanFault cs inner 9 true
      | none => scanFault cs cs 0 grouped

/-- The groups inside braces or after `urn:uuid:`, for a text as long as such a spelling is. -/
def enclosed? (cs : List Char) : Option (List Char) :=
  if byteLength cs = 38 then unbrace? cs
  else if byteLength cs = 45 then afterUrn? cs
  else none

/-- Reads the characters of an id in any of its spellings. -/
def ofChars (cs : List Char) : Except Fault UserId :=
  match enclosed? cs with
  | some inner => match ofGroups? inner with
    | some id => .ok id
    | none => .error (shapeFault inner true)
  | none => match ofDigits? cs <|> ofGroups? cs with
    | some id => .ok id
    | none => .error (shapeFault cs false)

/-- Reads an id in any of its spellings. -/
def ofText (s : String) : Except Fault UserId :=
  ofChars s.toList

/-! ## Fresh ids -/

/-- An id that sorts by the time it was made: 48 bits of milliseconds, then random bits around the marks of
version 7 and variant 2. -/
def timeOrdered (milliseconds : Nat) (random : BitVec 74) : UserId :=
  ⟨BitVec.ofNat 48 milliseconds ++ 7#4 ++ random.extractLsb' 62 12 ++ 2#2 ++ random.extractLsb' 0 62⟩

end UserId

end TokenAuthority
