/-!
# Media types

Whether a content type is one of JSON: `application/json`, with or without a suffix, or an application type with
the suffix `json`, followed by parameters. The text must be well formed to its end.
-/

namespace TokenAuthority.Http.MediaType

/-- Whether a character may stand in a name. -/
def isToken (c : Char) : Bool :=
  c.isAlphanum || "!#$%&'*+-.^_`|~".toList.contains c

/-- Whether a character may stand between quotes. -/
def isQuotable (c : Char) : Bool :=
  31 < c.toNat && c.toNat != 127

/-- The text from the next parameter on, after the quote that closes a value and spaces. -/
def afterQuoted : List Char → Option (List Char)
  | [] => some []
  | ';' :: rest => some rest
  | ' ' :: rest => afterQuoted rest
  | _ :: _ => none

/-- The text from the next parameter on, after the rest of a quoted value of which `taken` characters are read.
A quote closes the value unless it comes first. -/
def quotedValue : (taken : Nat) → List Char → Option (List Char)
  | _, [] => none
  | taken, c :: rest =>
      if c = '"' ∧ 0 < taken then afterQuoted rest
      else if isQuotable c then quotedValue (taken + 1) rest
      else none

/-- The text from the next parameter on, after the rest of a value of which `taken` characters are read. -/
def plainValue : (taken : Nat) → List Char → Option (List Char)
  | _, [] => some []
  | taken, c :: rest =>
      if c = '"' ∧ taken = 0 then quotedValue 0 rest
      else if isToken c then plainValue (taken + 1) rest
      else if c = ';' ∧ 0 < taken then some rest
      else none

/-- The text from the value on, after the rest of a name of which `taken` characters are read. -/
def parameterName : (taken : Nat) → List Char → Option (List Char)
  | _, [] => none
  | taken, c :: rest =>
      if isToken c then parameterName (taken + 1) rest
      else if c = '=' ∧ 0 < taken then some rest
      else none

/-- The text from the next parameter on. -/
def parameter (cs : List Char) : Option (List Char) :=
  (parameterName 0 cs).bind (plainValue 0)

/-- Whether a text is a list of parameters; each uses up at least one character of the `fuel`. -/
def isParameters : (fuel : Nat) → List Char → Bool
  | 0, cs => cs.isEmpty
  | fuel + 1, cs =>
      match cs.dropWhile (· == ' ') with
      | [] => true
      | cs => match parameter cs with
        | some rest => isParameters fuel rest
        | none => false

/-- Whether a subtype, given in lower case, is the one of JSON, with or without a suffix, or has its suffix. The
suffix follows the last plus sign that does not come first. -/
def isJsonSubtype (name : List Char) : Bool :=
  name == "json".toList || match name.reverse.span (· != '+') with
    | (suffix, '+' :: before) =>
        !before.isEmpty && (before.reverse == "json".toList || suffix.reverse == "json".toList)
    | _ => false

/-- Whether a content type is one of JSON. -/
def isJson (cs : List Char) : Bool :=
  match cs.span (· != '/') with
  | (type, '/' :: rest) =>
      let (subtype, tail) := rest.span isToken
      type.map Char.toLower == "application".toList && !subtype.isEmpty &&
        isJsonSubtype (subtype.map Char.toLower) && match tail with
          | [] => true
          | ';' :: parameters => isParameters parameters.length parameters
          | _ => false
  | _ => false

end TokenAuthority.Http.MediaType
