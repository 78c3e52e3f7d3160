import TokenAuthority.Settings.SocketAddress
import TokenAuthority.Text.Blank
import TokenAuthority.Time.Duration

/-!
# Settings

The settings of a server, read from named variables. Values are trimmed, and a blank value counts as unset. Of
several faults the one reported is that of the listen address, then of the token lifetime, then of the active
key id.
-/

namespace TokenAuthority

/-- The longest token lifetime in seconds: thirty days. -/
def Settings.longestLifetime : Nat := 2592000

/-- The settings of a server. -/
structure Settings where
  listenAddress : SocketAddress
  keysDirectory : String
  activeKid : String
  issuer : String
  /-- How long a token holds, in seconds. -/
  lifetimeSeconds : Nat
  /-- The e-mail address of the administrator to create at the start. -/
  bootstrapEmail : Option String
  lifetime_pos : 1 ≤ lifetimeSeconds
  lifetime_le : lifetimeSeconds ≤ Settings.longestLifetime
  deriving DecidableEq, Repr

namespace Settings

/-- How long a token holds. -/
def lifetime (settings : Settings) : Duration where
  nanoseconds := settings.lifetimeSeconds * nanosPerSecond
  lower := by
    have := settings.lifetime_le
    simp only [longestLifetime, Duration.limit, nanosPerSecond] at *
    omega
  upper := by
    have := settings.lifetime_le
    simp only [longestLifetime, Duration.limit, nanosPerSecond] at *
    omega

/-- The variable of the listen address. -/
def listenVariable : String := "MEDISYNC_LISTEN_ADDR"

/-- The variable of the key directory. -/
def keysVariable : String := "MEDISYNC_KEYS_DIR"

/-- The variable of the active key id. -/
def kidVariable : String := "MEDISYNC_ACTIVE_KID"

/-- The variable of the issuer. -/
def issuerVariable : String := "MEDISYNC_ISSUER"

/-- The variable of the token lifetime. -/
def lifetimeVariable : String := "MEDISYNC_TOKEN_TTL_SECS"

/-- The variable of the first administrator's e-mail address. -/
def bootstrapVariable : String := "MEDISYNC_BOOTSTRAP_ADMIN_EMAIL"

/-- The variables that settings are read from. -/
def variableNames : List String :=
  [listenVariable, keysVariable, kidVariable, issuerVariable, lifetimeVariable, bootstrapVariable]

/-- Why a text is no integer of 64 bits. -/
inductive IntegerFault
  | invalidDigit
  | tooLarge
  | tooSmall
  deriving DecidableEq, Repr

/-- Why the value of a variable is refused. -/
inductive Reason
  | address
  | integer (fault : IntegerFault)
  | lifetimeRange
  deriving DecidableEq, Repr

/-- The wording of a reason. -/
def Reason.message : Reason → String
  | .address => "invalid socket address syntax"
  | .integer .invalidDigit => "invalid digit found in string"
  | .integer .tooLarge => "number too large to fit in target type"
  | .integer .tooSmall => "number too small to fit in target type"
  | .lifetimeRange => s!"must be between 1 and {longestLifetime} seconds"

/-- Why settings are refused. -/
inductive Error
  | missing (name : String)
  | invalid (name value : String) (reason : Reason)
  deriving DecidableEq, Repr

/-- The wording of an error. -/
def Error.message : Error → String
  | .missing name => s!"{name} must be set"
  | .invalid name value reason => s!"{name} has an invalid value '{value}': {reason.message}"

/-- Goes on reading the digits of a number of at most `limit`. A character that is no digit comes before a number
that has grown beyond the limit with it. -/
def boundedDigits (limit : Nat) (beyond : IntegerFault) (n : Nat) : List Char → Except IntegerFault Nat
  | [] => .ok n
  | c :: cs =>
      if !c.isDigit then .error .invalidDigit
      else if limit < n * 10 + (c.toNat - 48) then .error beyond
      else boundedDigits limit beyond (n * 10 + (c.toNat - 48)) cs

/-- Reads an integer of 64 bits: decimal digits after an optional sign. -/
def readInteger (s : String) : Except IntegerFault Int :=
  match s.toList with
  | [] => .error .invalidDigit
  | ['+'] => .error .invalidDigit
  | ['-'] => .error .invalidDigit
  | '+' :: cs => (boundedDigits (Nat.pow 2 63 - 1) .tooLarge 0 cs).map Int.ofNat
  | '-' :: cs => (boundedDigits (Nat.pow 2 63) .tooSmall 0 cs).map fun n => -(n : Int)
  | cs => (boundedDigits (Nat.pow 2 63 - 1) .tooLarge 0 cs).map Int.ofNat

/-- The trimmed value of a variable, unless it is blank. -/
def value? (lookup : String → Option String) (name : String) : Option String :=
  (lookup name).bind fun raw =>
    let value := Text.trim raw
    if value = "" then none else some value

/-- The address to listen on: port 3000 of every interface unless set. -/
def readListenAddress : Option String → Except Error SocketAddress
  | none => .ok (.v4 [0, 0, 0, 0] 3000)
  | some value => match SocketAddress.ofText? value with
    | some address => .ok address
    | none => .error (.invalid listenVariable value .address)

/-- The seconds a token holds: an hour unless set. -/
def readLifetime : Option String → Except Error { n : Nat // 1 ≤ n ∧ n ≤ longestLifetime }
  | none => .ok ⟨3600, by decide⟩
  | some value => match readInteger value with
    | .error fault => .error (.invalid lifetimeVariable value (.integer fault))
    | .ok n =>
        if h : 1 ≤ n ∧ n ≤ longestLifetime then .ok ⟨n.toNat, by omega⟩
        else .error (.invalid lifetimeVariable value .lifetimeRange)

/-- Reads settings from variables. -/
def read (lookup : String → Option String) : Except Error Settings := do
  let listenAddress ← readListenAddress (value? lookup listenVariable)
  let lifetime ← readLifetime (value? lookup lifetimeVariable)
  let some activeKid := value? lookup kidVariable | throw (.missing kidVariable)
  .ok {
    listenAddress := listenAddress
    keysDirectory := (value? lookup keysVariable).getD "keys"
    activeKid := activeKid
    issuer := (value? lookup issuerVariable).getD "medisync"
    lifetimeSeconds := lifetime.val
    bootstrapEmail := value? lookup bootstrapVariable
    lifetime_pos := lifetime.property.1
    lifetime_le := lifetime.property.2 }

end Settings

end TokenAuthority
