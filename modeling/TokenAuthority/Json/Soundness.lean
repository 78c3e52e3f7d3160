import TokenAuthority.Json.Value

/-!
# Values that are kept

A reader that keeps a value needs more of it than one that passes over it: its texts must have a value, its
numbers be finite, and its containers not nest too deep.
-/

namespace TokenAuthority.Json

/-- How deep containers may nest in a text of which values are kept. -/
def depthLimit : Nat := 127

namespace Value

/-- Whether a value can be kept when containers may still nest this deep. -/
def isSound : (depth : Nat) → Value → Bool
  | _, .null => true
  | _, .boolean _ => true
  | _, .number n => n.isFinite
  | _, .text t => t.isSome
  | depth + 1, .array items true => items.all (isSound depth)
  | depth + 1, .object fields true => fields.all fun (key, v) =>
      match key with
      | .name _ => isSound depth v
      | _ => false
  | _, _ => false

/-- Whether a reader that gives up a value after trying to keep it stands right after that value. It does after
a sound value, and after a number that is not finite or a text without value that ends the containers around
it. Inside a torn text it never does. -/
def endsCleanly : (depth : Nat) → Value → Bool
  | _, .number n => !n.stopsShort
  | _, .text _ => true
  | depth + 1, .array items true => match items.reverse with
    | [] => true
    | last :: before => before.all (isSound depth) && endsCleanly depth last
  | depth + 1, .object fields true => match fields.reverse with
    | [] => true
    | (.name _, last) :: before => endsCleanly depth last && before.all fun (key, v) =>
        match key with
        | .name _ => isSound depth v
        | _ => false
    | _ => false
  | depth, v => isSound depth v

end Value

end TokenAuthority.Json
