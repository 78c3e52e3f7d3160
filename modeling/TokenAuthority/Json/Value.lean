import TokenAuthority.Json.Token

/-!
# JSON values as they are read

What a left-to-right reader finds in a text, up to the first place where the text is no JSON. There the value
being read is `broken` and every container around it stays open, so that a consumer still meets the parts in
their order and knows where the text failed.
-/

namespace TokenAuthority.Json

/-- What stands where the key of a field is due. -/
inductive Key
  | name (text : String)
  /-- A quoted text without value that is not torn. -/
  | unreadable
  /-- A torn text. -/
  | torn
  /-- The start of a value that is no text. -/
  | misplaced
  deriving DecidableEq, Repr

/-- A value, as far as it could be read. -/
inductive Value
  | null
  | boolean (value : Bool)
  | number (value : Numeral)
  | text (value : Option String)
  /-- A torn text. -/
  | torn
  | array (items : List Value) (closed : Bool)
  | object (fields : List (Key × Value)) (closed : Bool)
  /-- Something that is no value. -/
  | broken
  deriving Repr

/-- Whether a value was read to its end. -/
def Value.isComplete : Value → Bool
  | .array _ closed => closed
  | .object _ closed => closed
  | .broken => false
  | _ => true

namespace Reader

/-- A container that is still open, with its content last first. -/
inductive Frame
  | array (items : List Value)
  /-- An object and the key whose value is being read. -/
  | object (fields : List (Key × Value)) (key : Key)

/-- What is due next. -/
inductive Expected
  | value
  /-- A value or the end of an array without items. -/
  | item
  /-- The next key of an object whose fields so far are given, or its end if there are none. -/
  | key (fields : List (Key × Value)) (first : Bool)
  /-- The colon after a key. -/
  | colon (fields : List (Key × Value)) (key : Key)
  /-- A comma or the end of the array with these items. -/
  | moreItems (items : List Value)
  /-- A comma or the end of the object with these fields. -/
  | moreFields (fields : List (Key × Value))

/-- How reading goes on after a token. -/
inductive Step
  | go (stack : List Frame) (expected : Expected)
  | done (value : Value)

/-- Goes on after a value that is complete. -/
def finish (value : Value) : List Frame → Step
  | [] => .done value
  | .array items :: stack => .go stack (.moreItems (value :: items))
  | .object fields key :: stack => .go stack (.moreFields ((key, value) :: fields))

/-- Leaves every container open around a value that is not complete. -/
def abandon (value : Value) : List Frame → Value
  | [] => value
  | .array items :: stack => abandon (.array (value :: items).reverse false) stack
  | .object fields key :: stack => abandon (.object ((key, value) :: fields).reverse false) stack

/-- What the token stands for where a key is due: nothing, if no value begins with it. -/
def misplacedKey? : Token → Option Key
  | .null | .boolean _ | .openArray | .openObject => some .misplaced
  | .number n => if n.isFinite then some .misplaced else none
  | _ => none

/-- The value that is left where no token, or no fitting one, was found. -/
def giveUp (stack : List Frame) (token : Option Token) : Expected → Value
  | .value => abandon .broken stack
  | .item => abandon (.array [] false) stack
  | .key fields _ =>
      let last := (token.bind misplacedKey?).toList.map fun key => (key, Value.broken)
      abandon (.object (fields.reverse ++ last) false) stack
  | .colon fields key => abandon (.object ((key, .broken) :: fields).reverse false) stack
  | .moreItems items => abandon (.array items.reverse false) stack
  | .moreFields fields => abandon (.object fields.reverse false) stack

/-- Reads a token where a value is due. -/
def begin (stack : List Frame) (expected : Expected) : Token → Step
  | .null => finish .null stack
  | .boolean b => finish (.boolean b) stack
  | .number n => finish (.number n) stack
  | .text t => finish (.text t) stack
  | .torn => finish .torn stack
  | .openArray => .go stack .item
  | .openObject => .go stack (.key [] true)
  | token => .done (giveUp stack (some token) expected)

/-- Reads a token. -/
def step (stack : List Frame) (expected : Expected) (token : Token) : Step :=
  match expected, token with
  | .value, token => begin stack expected token
  | .item, .closeArray => finish (.array [] true) stack
  | .item, token => begin (.array [] :: stack) .value token
  | .key fields _, .text (some name) => .go stack (.colon fields (.name name))
  | .key fields _, .text none => .go stack (.colon fields .unreadable)
  | .key fields _, .torn => .go stack (.colon fields .torn)
  | .key fields true, .closeObject => finish (.object fields.reverse true) stack
  | .colon fields key, .colon => .go (.object fields key :: stack) .value
  | .moreItems items, .comma => .go (.array items :: stack) .value
  | .moreItems items, .closeArray => finish (.array items.reverse true) stack
  | .moreFields fields, .comma => .go stack (.key fields false)
  | .moreFields fields, .closeObject => finish (.object fields.reverse true) stack
  | expected, token => .done (giveUp stack (some token) expected)

/-- Reads tokens to the end of the value, and gives the source after it. -/
def run (stack : List Frame) (expected : Expected) (source : Source) : Value × Source :=
  match _h : Token.next source with
  | none => (giveUp stack none expected, [])
  | some (token, rest) => match step stack expected token with
    | .go stack expected => run stack expected rest
    | .done value => (value, rest)
termination_by source.length
decreasing_by exact Token.next_length _h

end Reader

/-- Reads the value that a source begins with, and gives the source after it. -/
def Value.read (source : Source) : Value × Source :=
  Reader.run [] .value source

end TokenAuthority.Json
