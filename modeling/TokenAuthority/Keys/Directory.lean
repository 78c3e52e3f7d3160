import TokenAuthority.Keys.KeyPair
import TokenAuthority.Text.Utf8

/-!
# Key directories

A directory is a source of keys: each regular file named after a key id with the extension `pem` holds that
key. The entries are sorted by key id, so that the order in which files are listed does not matter.
-/

namespace TokenAuthority

/-- The keys of a source, or why it cannot be read. -/
abbrev KeyReading := Except SourceFault (List KeyEntry)

namespace Directory

/-- An entry of a directory; only a regular file has contents. -/
structure Entry where
  name : String
  contents : Option (List UInt8)
  deriving DecidableEq, Repr

/-- Why a directory cannot be listed. -/
inductive Fault
  | missing
  | notDirectory
  /-- A fault that the host describes in its own words. -/
  | reported (text : String)
  deriving DecidableEq, Repr

/-- The entries of a directory in any order, or why they cannot be listed. -/
abbrev Listing := Except Fault (List Entry)

/-- What a key file's name ends with. -/
def extension : List Char := ['.', 'p', 'e', 'm']

/-- The key id of a file name: what stands before the extension, if anything does. -/
def kid? (name : String) : Option String :=
  let cs := name.toList
  let stem := cs.take (cs.length - extension.length)
  if stem ≠ [] ∧ cs = stem ++ extension then some (String.ofList stem) else none

/-- The key id and the contents of a key file. -/
def keyFile? (entry : Entry) : Option (String × List UInt8) := do
  let kid ← kid? entry.name
  let contents ← entry.contents
  some (kid, contents)

/-- The text of a key file as an entry of the source. -/
def entry? (file : String × List UInt8) : Option KeyEntry :=
  (Text.Utf8.text? file.2).map fun pem => ⟨file.1, pem⟩

/-- Reads the keys of the directory at a path. -/
def read (path : String) (listing : Listing) : KeyReading :=
  match listing with
  | .error .missing => .error (.missing path)
  | .error .notDirectory => .error (.notDirectory path)
  | .error (.reported text) => .error (.reported s!"{path}: {text}")
  | .ok entries => match (entries.filterMap keyFile?).mapM entry? with
    | none => .error (.notText path)
    | some keys => .ok (keys.mergeSort fun a b => a.kid ≤ b.kid)

end Directory

end TokenAuthority
