/-!
# Log events

What the library reports beside its answers. An event has a level, a message, and fields of text.
-/

namespace TokenAuthority.Log

/-- How grave an event is, the gravest last. -/
inductive Level
  | trace
  | debug
  | info
  | warn
  | error
  deriving DecidableEq, Repr

/-- The name of a level. -/
def Level.name : Level → String
  | .trace => "TRACE"
  | .debug => "DEBUG"
  | .info => "INFO"
  | .warn => "WARN"
  | .error => "ERROR"

/-- The rank of a level, the gravest highest. -/
def Level.rank : Level → Nat
  | .trace => 0
  | .debug => 1
  | .info => 2
  | .warn => 3
  | .error => 4

/-- One event. -/
structure Event where
  level : Level
  message : String
  fields : List (String × String)
  deriving DecidableEq, Repr

/-- The field of a name. -/
def Event.field? (e : Event) (name : String) : Option String :=
  e.fields.lookup name

end TokenAuthority.Log
