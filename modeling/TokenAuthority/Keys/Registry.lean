import TokenAuthority.Json.Document
import TokenAuthority.Keys.Directory
import TokenAuthority.Log.Event

/-!
# The key registry

A set of key pairs with distinct key ids, and the key id whose pair signs. Every registered pair checks
signatures, the active one or not. The active key id need not be registered; then nothing is signed.

A reload is two steps: a key set is built from what a source holds, all of it or nothing, and then published
over the registry of that moment.
-/

namespace TokenAuthority

/-- Key pairs with distinct key ids. -/
structure KeySet where
  pairs : List KeyPair
  distinct : (pairs.map KeyPair.kid).Nodup

namespace KeySet

/-- The set without keys. -/
def empty : KeySet := ⟨[], by simp⟩

/-- The pair of a key id. -/
def find? (keys : KeySet) (kid : String) : Option KeyPair :=
  keys.pairs.find? fun pair => pair.kid = kid

/-- Whether a key id is registered. -/
def contains (keys : KeySet) (kid : String) : Bool :=
  (keys.find? kid).isSome

/-- Adds a pair whose key id is new. -/
def insert? (keys : KeySet) (pair : KeyPair) : Option KeySet :=
  if h : pair.kid ∈ keys.pairs.map KeyPair.kid then none
  else some ⟨pair :: keys.pairs, by simpa using ⟨by simpa using h, keys.distinct⟩⟩

/-- Adds the key of an entry. A fault of its material comes before a repeated key id. -/
def addEntry (keys : KeySet) (entry : KeyEntry) : Except KeyError KeySet :=
  match KeyPair.ofEntry entry with
  | .error fault => .error (.material entry.kid fault)
  | .ok pair => match keys.insert? pair with
    | none => .error (.material entry.kid .duplicate)
    | some keys => .ok keys

/-- Builds the key set of a source: every entry of it, or none. -/
def load (reading : KeyReading) : Except KeyError KeySet :=
  match reading with
  | .error fault => .error (.source fault)
  | .ok [] => .error .noKeys
  | .ok entries => entries.foldlM addEntry empty

/-- The registered key ids, sorted. -/
def kids (keys : KeySet) : List String :=
  (keys.pairs.map KeyPair.kid).mergeSort fun a b => a ≤ b

end KeySet

/-- The public half of a registered key, for those who check signatures on their own. -/
structure PublishedKey where
  kid : String
  algorithm : String
  active : Bool
  pem : String
  deriving DecidableEq, Repr

/-- The JSON of a published key. -/
def PublishedKey.toDocument (key : PublishedKey) : Json.Document :=
  .object [
    ("kid", .text key.kid), ("alg", .text key.algorithm), ("active", .boolean key.active),
    ("public_key_pem", .text key.pem)]

/-- A key set and the key id whose pair signs. -/
structure Registry where
  keys : KeySet
  activeKid : String

namespace Registry

/-- The registry of a source's keys. -/
def load (reading : KeyReading) (activeKid : String) : Except KeyError Registry := do
  .ok ⟨← KeySet.load reading, activeKid⟩

/-- The pair that signs. -/
def signingPair (registry : Registry) : Except KeyError KeyPair :=
  match registry.keys.find? registry.activeKid with
  | some pair => .ok pair
  | none => .error (.notRegistered registry.activeKid)

/-- The pair that checks signatures under a key id. -/
def checkingPair (registry : Registry) (kid : String) : Except KeyError KeyPair :=
  match registry.keys.find? kid with
  | some pair => .ok pair
  | none => .error (.unknown kid)

/-- The registered key ids, sorted. -/
def kids (registry : Registry) : List String :=
  registry.keys.kids

/-- The public halves of the registered keys, sorted by key id. -/
def publicKeys (registry : Registry) : List PublishedKey :=
  (registry.keys.pairs.mergeSort fun a b => a.kid ≤ b.kid).map fun pair =>
    ⟨pair.kid, KeyPair.algorithm, pair.kid = registry.activeKid, pair.publicPem⟩

/-- Puts a new key set in place of the old one. The key id named, if any, becomes active; it must be in the new
set. -/
def publish (registry : Registry) (keys : KeySet) (kid? : Option String) : Except KeyError Registry :=
  match kid? with
  | none => .ok ⟨keys, registry.activeKid⟩
  | some kid => if keys.contains kid then .ok ⟨keys, kid⟩ else .error (.notRegistered kid)

/-- Builds the key set of a source and publishes it. -/
def reload (registry : Registry) (reading : KeyReading) (kid? : Option String) : Except KeyError Registry := do
  registry.publish (← KeySet.load reading) kid?

/-- Makes a registered key id active. -/
def rotate (registry : Registry) (kid : String) : Except KeyError Registry :=
  if registry.keys.contains kid then .ok ⟨registry.keys, kid⟩ else .error (.notRegistered kid)

/-! ## Events -/

/-- The event of a registry that was loaded or reloaded; a warning if nothing can be signed. -/
def publishedEvent (registry : Registry) (message : String) : Log.Event :=
  let fields := [("kids", Text.quoteList registry.kids), ("active_kid", registry.activeKid)]
  if registry.keys.contains registry.activeKid then ⟨.info, message, fields⟩
  else ⟨.warn, message ++ "; active kid is not registered, issuance will fail", fields⟩

/-- The event of a registry that was loaded. -/
def loadedEvent (registry : Registry) : Log.Event :=
  registry.publishedEvent "signing keys loaded"

/-- The event of a registry that was reloaded. -/
def reloadedEvent (registry : Registry) : Log.Event :=
  registry.publishedEvent "signing keys reloaded"

/-- The event of a registry whose active key id was changed. -/
def rotatedEvent (previous : Registry) (registry : Registry) : Log.Event :=
  ⟨.info, "active signing key rotated", [("previous_kid", previous.activeKid), ("active_kid", registry.activeKid)]⟩

end Registry

end TokenAuthority
