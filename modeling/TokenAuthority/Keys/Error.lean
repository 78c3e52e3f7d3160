/-!
# Key errors

Why keys cannot be read, found or made active.
-/

namespace TokenAuthority

/-- What is wrong with the material of a key. -/
inductive MaterialFault
  /-- The text holds no private key. -/
  | unreadable
  /-- The key has no second form to sign with, its factors not being coprime. -/
  | unusable
  /-- The key id has been seen before. -/
  | duplicate
  /-- A fault that another component describes in its own words. -/
  | reported (text : String)
  deriving DecidableEq, Repr

/-- The wording of a fault. -/
def MaterialFault.message : MaterialFault → String
  | .unreadable => "unparseable private key"
  | .unusable => "encode private key: PKCS#1 cryptographic error"
  | .duplicate => "duplicate kid"
  | .reported text => text

/-- Why a source of keys cannot be read. -/
inductive SourceFault
  | missing (path : String)
  | notDirectory (path : String)
  /-- A key file holds bytes that are no text. -/
  | notText (path : String)
  /-- A fault that another component describes in its own words. -/
  | reported (text : String)
  deriving DecidableEq, Repr

/-- The wording of a fault. -/
def SourceFault.message : SourceFault → String
  | .missing path => s!"{path}: No such file or directory (os error 2)"
  | .notDirectory path => s!"{path}: Not a directory (os error 20)"
  | .notText path => s!"{path}: stream did not contain valid UTF-8"
  | .reported text => text

/-- Why an operation on keys failed. -/
inductive KeyError
  | material (kid : String) (fault : MaterialFault)
  | noKeys
  /-- The key id that is or should become active names no key. -/
  | notRegistered (kid : String)
  | unknown (kid : String)
  | source (fault : SourceFault)
  deriving DecidableEq, Repr

/-- The wording of an error. -/
def KeyError.message : KeyError → String
  | .material kid fault => s!"malformed key material for kid '{kid}': {fault.message}"
  | .noKeys => "key source contains no keys"
  | .notRegistered kid => s!"active kid '{kid}' is not registered"
  | .unknown kid => s!"unknown kid '{kid}'"
  | .source fault => s!"key source unavailable: {fault.message}"

end TokenAuthority
