import TokenAuthority.Json.Document
import TokenAuthority.Log.Event
import TokenAuthority.Text.Blank

/-!
# Log formats

Events are written as lines of JSON or for a human reader.
-/

namespace TokenAuthority.Log

/-- How events are written. -/
inductive Format
  | json
  | pretty
  deriving DecidableEq, Repr

namespace Format

/-- The variable that chooses the format. -/
def variableName : String := "MEDISYNC_LOG_FORMAT"

/-- The format named by a text in ASCII letters of any case, with white space around it; JSON for any other
text. -/
def ofText (s : String) : Format :=
  let name := String.ofList ((Text.trimChars s.toList).map Char.toLower)
  if name = "pretty" ∨ name = "text" then .pretty else .json

/-- An event as a line of JSON. -/
def jsonLine (time : String) (event : Event) : String :=
  let fields := ("message", event.message) :: event.fields
  Json.Document.write (.object [
    ("timestamp", .text time), ("level", .text event.level.name),
    ("fields", .object (fields.map fun (name, value) => (name, .text value)))])

/-- An event as a line for a human reader. -/
def prettyLine (time : String) (event : Event) : String :=
  ", ".intercalate (s!"{time} {event.level.name} {event.message}" ::
    event.fields.map fun (name, value) => s!"{name}: {value}")

/-- The line of an event that happened at a time. -/
def line (format : Format) (time : String) (event : Event) : String :=
  match format with
  | .json => jsonLine time event
  | .pretty => prettyLine time event

end Format

end TokenAuthority.Log
