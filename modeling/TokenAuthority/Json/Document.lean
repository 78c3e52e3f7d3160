import TokenAuthority.Json.Value

/-!
# JSON documents as they are written

A document is a value that can be written: its numbers are integers and its texts hold characters. It is
written without white space, its fields in their order; a text escapes quotes, backslashes and control
characters only.
-/

namespace TokenAuthority.Json

/-- A value to be written. -/
inductive Document
  | null
  | boolean (value : Bool)
  | integer (value : Int)
  | text (value : String)
  | array (items : List Document)
  | object (fields : List (String × Document))
  deriving Repr, BEq

/-- A character as it stands between quotes. -/
def escape (c : Char) : List Char :=
  if c = '"' then ['\\', '"']
  else if c = '\\' then ['\\', '\\']
  else if c = '\x08' then ['\\', 'b']
  else if c = '\x0c' then ['\\', 'f']
  else if c = '\n' then ['\\', 'n']
  else if c = '\r' then ['\\', 'r']
  else if c = '\t' then ['\\', 't']
  else if c.toNat < 0x20 then '\\' :: 'u' :: Text.hexDigits 4 c.toNat
  else [c]

/-- A text between quotes. -/
def quoted (s : String) : List Char :=
  '"' :: (s.toList.flatMap escape ++ ['"'])

/-- An integer in decimal digits. -/
def integerChars (n : Int) : List Char :=
  if n < 0 then '-' :: Nat.toDigits 10 n.natAbs else Nat.toDigits 10 n.natAbs

namespace Document

mutual

/-- The characters of a document. -/
def chars : Document → List Char
  | .null => ['n', 'u', 'l', 'l']
  | .boolean true => ['t', 'r', 'u', 'e']
  | .boolean false => ['f', 'a', 'l', 's', 'e']
  | .integer n => integerChars n
  | .text s => quoted s
  | .array [] => ['[', ']']
  | .array (item :: items) => '[' :: (chars item ++ itemChars items)
  | .object [] => ['\x7b', '\x7d']
  | .object ((name, value) :: fields) => '\x7b' :: (quoted name ++ ':' :: (chars value ++ fieldChars fields))

/-- The characters of the items after the first, to the end of the array. -/
def itemChars : List Document → List Char
  | [] => [']']
  | item :: items => ',' :: (chars item ++ itemChars items)

/-- The characters of the fields after the first, to the end of the object. -/
def fieldChars : List (String × Document) → List Char
  | [] => ['\x7d']
  | (name, value) :: fields => ',' :: (quoted name ++ ':' :: (chars value ++ fieldChars fields))

end

/-- The text of a document. -/
def write (d : Document) : String :=
  String.ofList d.chars

mutual

/-- The value that a document reads as. -/
def toValue : Document → Value
  | .null => .null
  | .boolean b => .boolean b
  | .integer n => .number (.ofInt n)
  | .text s => .text (some s)
  | .array items => .array (itemValues items) true
  | .object fields => .object (fieldValues fields) true

/-- The values that the items of an array read as. -/
def itemValues : List Document → List Value
  | [] => []
  | item :: items => toValue item :: itemValues items

/-- The fields that the fields of an object read as. -/
def fieldValues : List (String × Document) → List (Key × Value)
  | [] => []
  | (name, value) :: fields => (.name name, toValue value) :: fieldValues fields

end

end Document

end TokenAuthority.Json
