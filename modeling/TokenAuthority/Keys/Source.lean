import TokenAuthority.Keys.Directory

/-!
# Key sources

A source of keys is a list in memory or a directory. A directory is read anew each time.
-/

namespace TokenAuthority

/-- Where keys come from. -/
inductive KeySource
  | memory (entries : List KeyEntry)
  | directory (path : String)
  deriving DecidableEq, Repr

/-- Reads a source, given what the directories hold. -/
def KeySource.read (source : KeySource) (list : String → Directory.Listing) : KeyReading :=
  match source with
  | .memory entries => .ok entries
  | .directory path => Directory.read path (list path)

end TokenAuthority
