import TokenAuthority.Json.Value

/-!
# Decoding JSON

Values of the domain from JSON values. A decoder goes from left to right and reports the first thing that
stops it: either the text is no JSON there, or it is JSON of an unsuitable shape. A record is read from an
object with its known fields once each, unknown ones being passed over, or from an array of its fields in
order.
-/

namespace TokenAuthority.Json

/-- What stopped a decoder. -/
inductive Fault
  /-- The text is no JSON. -/
  | malformed
  /-- The JSON is not of the shape asked for. -/
  | unsuitable
  deriving DecidableEq, Repr

/-- A reader of a value of the domain. -/
abbrev Decoder (α : Type) := Value → Except Fault α

namespace Decoder

/-- The fault of a value of another kind than the one asked for. A leaf must be read before it can be refused. -/
def mismatch : Value → Fault
  | .broken => .malformed
  | .text none => .malformed
  | .torn => .malformed
  | .number n => if n.isFinite then .unsuitable else .malformed
  | _ => .unsuitable

/-- A text. -/
def text : Decoder String
  | .text (some s) => .ok s
  | v => .error (mismatch v)

/-- A text that stands for something. -/
def parsed {α : Type} (parse? : String → Option α) : Decoder α := fun v => do
  match parse? (← text v) with
  | some a => .ok a
  | none => .error .unsuitable

/-- An integer of 64 bits, signed or unsigned. -/
def integer : Decoder Int
  | .number n => match n.toInt? with
    | some i => if -(Nat.pow 2 63 : Nat) ≤ i ∧ i < (Nat.pow 2 64 : Nat) then .ok i else .error (mismatch (.number n))
    | none => .error (mismatch (.number n))
  | v => .error (mismatch v)

/-- Null for absent. -/
def optional {α : Type} (decode : Decoder α) : Decoder (Option α)
  | .null => .ok none
  | v => (decode v).map some

/-- A list of items. -/
def list {α : Type} (decode : Decoder α) : Decoder (List α)
  | .array items closed => do
      let decoded ← items.mapM decode
      if closed then .ok decoded else .error .malformed
  | v => .error (mismatch v)

/-- A choice among names: a text, or an object whose one key is the name and whose value is null. -/
def named {α : Type} (ofName? : String → Option α) : Decoder α
  | .text (some s) => match ofName? s with
    | some a => .ok a
    | none => .error .unsuitable
  | .object ((.name s, v) :: fields) closed => match ofName? s, v with
    | none, _ => .error .unsuitable
    | some a, .null => if fields.isEmpty && closed then .ok a else .error .malformed
    | some _, v => .error (mismatch v)
  | .object ((.misplaced, _) :: _) _ => .error .unsuitable
  | _ => .error .malformed

end Decoder

/-! ## Records -/

/-- One field of a record that is filled in while it is read. -/
structure Slot (σ : Type) where
  name : String
  /-- Whether the field may be missing at the end of an array. -/
  mayEndBefore : Bool
  /-- Whether the field has been read. -/
  isSet : σ → Bool
  /-- Reads the field. -/
  read : Value → σ → Except Fault σ

/-- A slot that keeps what `decode` reads. -/
def Slot.of {σ α : Type} (name : String) (get : σ → Option α) (set : α → σ → σ) (decode : Decoder α) : Slot σ where
  name := name
  mayEndBefore := false
  isSet s := (get s).isSome
  read v s := (decode v).map fun a => set a s

namespace Record

/-- Reads one field of an object. -/
def field {σ : Type} (slots : List (Slot σ)) (draft : σ) : Key × Value → Except Fault σ
  | (.name k, v) => match slots.find? (·.name = k) with
    | some slot => if slot.isSet draft then .error .unsuitable else slot.read v draft
    | none => if v.isComplete then .ok draft else .error .malformed
  | _ => .error .malformed

/-- Reads the items of an array as the fields in their order. -/
def items {σ : Type} (closed : Bool) : List (Slot σ) → List Value → σ → Except Fault σ
  | [], [], draft => if closed then .ok draft else .error .malformed
  | [], _ :: _, _ => .error .malformed
  | slot :: slots, v :: vs, draft => do items closed slots vs (← slot.read v draft)
  | slot :: slots, [], draft =>
      if !closed then .error .malformed
      else if slot.mayEndBefore then items closed slots [] draft
      else .error .unsuitable

/-- Fills in a blank record from an object or an array. -/
def read {σ : Type} (slots : List (Slot σ)) (blank : σ) : Value → Except Fault σ
  | .object fields closed => do
      let draft ← fields.foldlM (field slots) blank
      if closed then .ok draft else .error .malformed
  | .array vs closed => items closed slots vs blank
  | v => .error (Decoder.mismatch v)

/-- A field that must not be missing. -/
def required {α : Type} : Option α → Except Fault α
  | some a => .ok a
  | none => .error .unsuitable

end Record

/-! ## Whole texts -/

/-- Decodes the value that a source begins with; what follows it does not matter. -/
def decodeLeading {α : Type} (decode : Decoder α) (source : Source) : Except Fault α :=
  decode (Value.read source).1

/-- Decodes a source that holds one value and nothing after it. -/
def decodeWhole {α : Type} (decode : Decoder α) (source : Source) : Except Fault α := do
  let (value, rest) := Value.read source
  let a ← decode value
  if (skipSpace rest).isEmpty then .ok a else .error .malformed

end TokenAuthority.Json
