import TokenAuthority.Log.Event
import TokenAuthority.Text.Blank

/-!
# Log filters

A filter lets events through by their level and by the component they come from. It is written as directives
between commas: a level for all components, a component for all its levels, or a component and a level with an
equals sign between them. A directive holds for every component whose name begins with the one it names, and of
several directives the one with the longest name decides.

A text with a fault in any directive counts as no text at all.
-/

namespace TokenAuthority.Log

/-- The least grave level that is let through, or nothing at all. -/
abbrev Threshold := Option Level

/-- Whether a threshold lets events of a level through. -/
def Threshold.passes (threshold : Threshold) (level : Level) : Bool :=
  match threshold with
  | some least => least.rank ≤ level.rank
  | none => false

/-- The thresholds by number. -/
def Threshold.numbered : List Threshold :=
  [none, some .error, some .warn, some .info, some .debug, some .trace]

/-- The thresholds by name, in lower case. -/
def Threshold.named : List (String × Threshold) := [
  ("off", none), ("error", some .error), ("warn", some .warn), ("info", some .info), ("debug", some .debug),
  ("trace", some .trace)]

/-- The value of decimal digits, of which there is at least one, after an optional plus sign. -/
def decimal? (cs : List Char) : Option Nat :=
  let digits := if cs.head? = some '+' then cs.tail else cs
  if digits = [] ∨ digits.any (fun c => !c.isDigit) then none
  else some (digits.foldl (fun n c => n * 10 + (c.toNat - 48)) 0)

/-- The threshold that a text gives as a number or as a name in letters of any case. -/
def Threshold.ofText? (cs : List Char) : Option Threshold :=
  match decimal? cs with
  | some n => numbered[n]?
  | none => named.lookup (String.ofList (cs.map Char.toLower))

/-- One directive. -/
inductive Directive
  /-- Events from the components whose names begin with a text, or from all of them. -/
  | events (component : Option String) (threshold : Threshold)
  /-- Events inside a span, of which there are none. -/
  | spans
  deriving DecidableEq, Repr

namespace Directive

/-- Whether a directive may begin with a character. -/
def isStart (c : Char) : Bool :=
  c.isAlphanum || c == '-' || c == ':' || c == '_' || c == '[' || 128 ≤ c.toNat

/-- The threshold after an equals sign: every level unless one is given. -/
def thresholdAfter (cs : List Char) : Option Threshold :=
  if cs = [] then some (some .trace) else Threshold.ofText? cs

/-- Reads a directive about a span, given what follows its opening bracket in the whole text, and the same without
the white space at the end. -/
def spanOfText? (whole trimmed : List Char) : Option Directive :=
  match trimmed.dropWhile (· != ']') with
  | [']'] => some .spans
  | ']' :: '=' :: _ =>
      let found := (trimmed.takeWhile (· != ']')).length
      (thresholdAfter (whole.drop (found + 2))).map fun _ => .spans
  | _ => none

/-- Reads a directive. The white space around it is passed over in the search for an equals sign or a bracket, but
the parts are cut out of the whole text, at the places found. -/
def ofText? (cs : List Char) : Option Directive :=
  let trimmed := Text.trimChars cs
  if !(trimmed.head?.any isStart) then none
  else
    let name := trimmed.takeWhile fun c => c != '=' && c != '['
    match trimmed.drop name.length with
    | '=' :: _ =>
        (thresholdAfter (cs.drop (name.length + 1))).map fun threshold =>
          .events (some (String.ofList (cs.take name.length))) threshold
    | '[' :: rest => spanOfText? (cs.drop (name.length + 1)) rest
    | _ => match Threshold.ofText? cs with
      | some threshold => some (.events none threshold)
      | none => some (.events (some (String.ofList cs)) (some .trace))

/-- How long the name is that a directive gives, when it holds for a component. One for all components counts as
shorter than any name. -/
def reach? (directive : Directive) (component : String) : Option (Nat × Threshold) :=
  match directive with
  | .events none threshold => some (0, threshold)
  | .events (some name) threshold =>
      if name.toList.isPrefixOf component.toList then some (name.length + 1, threshold) else none
  | .spans => none

end Directive

/-- A filter. -/
structure Filter where
  directives : List Directive
  deriving DecidableEq, Repr

namespace Filter

/-- The variable that gives the filter. -/
def variableName : String := "RUST_LOG"

/-- The filter without a text: nothing less grave than an information. -/
def standard : Filter := ⟨[.events none (some .info)]⟩

/-- The filter of a text without directives: errors only. -/
def errorsOnly : Filter := ⟨[.events none (some .error)]⟩

/-- The pieces of a text between commas. -/
def pieces : List Char → List (List Char)
  | [] => [[]]
  | c :: cs =>
      if c = ',' then [] :: pieces cs
      else match pieces cs with
        | first :: others => (c :: first) :: others
        | [] => [[c]]

/-- The filter that a text gives, or that is used without one. -/
def ofText (text : Option String) : Filter :=
  match text with
  | none => standard
  | some text => match ((pieces text.toList).filter (· ≠ [])).mapM Directive.ofText? with
    | none => standard
    | some [] => errorsOnly
    | some directives => ⟨directives⟩

/-- Takes the later of two directives unless it gives the shorter name. -/
def closer (best : Option (Nat × Threshold)) (next : Nat × Threshold) : Option (Nat × Threshold) :=
  match best with
  | some best => if next.1 < best.1 then some best else some next
  | none => some next

/-- The threshold for the events of a component. Without a directive for it nothing passes. -/
def threshold (filter : Filter) (component : String) : Threshold :=
  match (filter.directives.filterMap fun d => d.reach? component).foldl closer none with
  | some (_, threshold) => threshold
  | none => none

/-- Whether an event of a component is let through. -/
def passes (filter : Filter) (component : String) (event : Event) : Bool :=
  (filter.threshold component).passes event.level

end Filter

end TokenAuthority.Log
