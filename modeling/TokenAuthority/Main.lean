import Std.Time.DateTime.Timestamp
import TokenAuthority.Log.Filter
import TokenAuthority.Log.Format
import TokenAuthority.Startup

/-!
# The program

Starts a server with the variables of the environment and the key directory they name, and stops where it would
listen. The events and the first administrator's token go to standard output, a failure to standard error.
-/

namespace TokenAuthority.Program

/-- The values of the variables that the program reads. -/
def readVariables : IO (List (String × Option String)) :=
  (Log.Format.variableName :: Log.Filter.variableName :: Settings.variableNames).mapM fun name => do
    return (name, ← IO.getEnv name)

/-- The instant that the host's clock shows. -/
def readClock : IO Instant := do
  let now ← Std.Time.Timestamp.now
  match Instant.ofParts? now.val.second.val now.val.nano.val.toNat with
  | some now => return now
  | none => throw (IO.userError "the clock shows no representable instant")

/-- An id that nobody has. -/
def drawId (now : Instant) : IO UserId := do
  let bytes ← IO.getRandomBytes 10
  let random := bytes.toList.foldl (fun n b => n * 256 + b.toNat) 0
  return UserId.timeOrdered (now.seconds * 1000 + now.nanoseconds / 1000000).toNat (BitVec.ofNat 74 random)

/-- An entry of a directory; the contents are read of regular files that could hold a key. -/
def readEntry (entry : IO.FS.DirEntry) : IO Directory.Entry := do
  let wanted := (Directory.kid? entry.fileName).isSome && (← entry.path.metadata).type == .file
  let contents ← if wanted then some <$> IO.FS.readBinFile entry.path else pure none
  return ⟨entry.fileName, contents.map ByteArray.toList⟩

/-- Lists a directory. -/
def listDirectory (path : String) : IO Directory.Listing := do
  let directory := System.mkFilePath [path]
  if !(← directory.pathExists) then return .error .missing
  if !(← directory.isDir) then return .error .notDirectory
  try
    return .ok (← (← directory.readDir).toList.mapM readEntry)
  catch error =>
    return .error (.reported error.toString)

/-- What the host has to offer to a start. -/
def survey (value : String → Option String) : IO Startup.Surroundings := do
  let now ← readClock
  let listing ← match Settings.read value with
    | .ok settings => listDirectory settings.keysDirectory
    | .error _ => pure (.error .missing)
  return {
    variableValue := value
    list := fun _ => listing
    creation := now
    issue := now
    freshId := ← drawId now }

end TokenAuthority.Program

open TokenAuthority in
/-- Runs the program; the result is its exit code. -/
def main : IO UInt32 := do
  let environment ← Program.readVariables
  let value := fun name => (environment.lookup name).join
  let format := ((value Log.Format.variableName).map Log.Format.ofText).getD .json
  let filter := Log.Filter.ofText (value Log.Filter.variableName)
  let world ← Program.survey value
  let outcome := Startup.start world
  for (component, event) in outcome.log do
    if filter.passes component.name event then
      IO.println (format.line (Timestamp.write world.issue) event)
  for token in outcome.printed do
    IO.println token
  match outcome.result with
  | .error failure =>
      IO.eprintln failure.report
      return 1
  | .ok _ => return 0
