import TokenAuthority.Text.CodePoints
import TokenAuthority.Text.Lowercase.Table

/-!
# Lower case

The full lower-case form of a text: letters by their simple mappings, a capital I with a dot as an i and a
combining dot, and a capital sigma by its place, as a final one where a word ends.
-/

namespace TokenAuthority.Text

/-- The simple lower-case form of a character. -/
def lowerChar (c : Char) : Char :=
  let n := c.toNat
  match Lowercase.runs.find? fun (first, last, step, _) => first ≤ n && n ≤ last && (n - first) % step == 0 with
  | some (_, _, _, shift) => Char.ofNat (n + shift).toNat
  | none => c

/-- Whether a character has case. -/
def isCased (c : Char) : Bool :=
  within Lowercase.casedBounds c.toNat

/-- Whether a character is passed over when the neighbours of a letter are looked for. -/
def isCaseIgnorable (c : Char) : Bool :=
  within Lowercase.ignorableBounds c.toNat

/-- Whether the first character that is not passed over has case. -/
def meetsCased (cs : List Char) : Bool :=
  ((cs.dropWhile isCaseIgnorable).head?.map isCased).getD false

/-- The lower-case form of characters after those `before`, which are listed last first and as they were. -/
def lowerAfter (before : List Char) : List Char → List Char
  | [] => []
  | c :: rest =>
      let lowered :=
        if c = '\u03a3' then (if meetsCased before && !meetsCased rest then ['\u03c2'] else ['\u03c3'])
        else if c = '\u0130' then ['i', '\u0307']
        else [lowerChar c]
      lowered ++ lowerAfter (c :: before) rest

/-- The lower-case form of characters. -/
def lowerChars (cs : List Char) : List Char :=
  lowerAfter [] cs

/-- The lower-case form of a text. -/
def lower (s : String) : String :=
  String.ofList (lowerChars s.toList)

end TokenAuthority.Text
