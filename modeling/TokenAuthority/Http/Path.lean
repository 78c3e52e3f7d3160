import TokenAuthority.Text.Hexadecimal
import TokenAuthority.Text.Utf8

/-!
# Paths

A pattern is matched against the segments of a path as they are written. What stands for a parameter is decoded
afterwards: bytes may be written as a percent sign and two hexadecimal digits.
-/

namespace TokenAuthority.Http

/-- A segment of a pattern. -/
inductive PathPart
  | literal (text : String)
  | parameter (name : String)
  deriving DecidableEq, Repr

namespace Path

/-- The parts of a text between slashes. -/
def segments : List Char → List (List Char)
  | [] => [[]]
  | c :: cs =>
      if c = '/' then [] :: segments cs
      else match segments cs with
        | first :: others => (c :: first) :: others
        | [] => [[c]]

/-- The parameters of a path that a pattern matches. A parameter is never empty. -/
def matchParts : List PathPart → List (List Char) → Option (List (String × List Char))
  | [], [] => some []
  | .literal text :: parts, segment :: rest => if text.toList = segment then matchParts parts rest else none
  | .parameter name :: parts, segment :: rest =>
      if segment = [] then none else (matchParts parts rest).map fun found => (name, segment) :: found
  | _, _ => none

/-- The parameters of a path that begins with a slash and that a pattern matches. -/
def parameters? (pattern : List PathPart) (path : List Char) : Option (List (String × List Char)) :=
  match path with
  | '/' :: rest => matchParts pattern (segments rest)
  | _ => none

/-- The bytes of a segment with its escapes undone. An escape that lacks a digit stands for itself. -/
def percentDecode : List Char → List UInt8
  | [] => []
  | '%' :: a :: b :: rest => match Text.hexValue? a, Text.hexValue? b with
    | some x, some y => UInt8.ofNat (16 * x + y) :: percentDecode rest
    | _, _ => 0x25 :: percentDecode (a :: b :: rest)
  | c :: rest => Text.Utf8.encode [c] ++ percentDecode rest

/-- The decoded parameters, unless the bytes of one are no text. -/
def decodeParameters (found : List (String × List Char)) : Option (List (String × String)) :=
  found.mapM fun (name, segment) => (Text.Utf8.text? (percentDecode segment)).map fun value => (name, value)

end Path

end TokenAuthority.Http
