/-!
# Requests and responses

A request with its headers and body as they arrive, and a response as it goes out.
-/

namespace TokenAuthority.Http

/-- What a request asks to be done. -/
inductive Method
  | get
  | head
  | post
  | other (name : String)
  deriving DecidableEq, Repr

/-- The method of a name. -/
def Method.ofName (name : String) : Method :=
  if name = "GET" then .get else if name = "HEAD" then .head else if name = "POST" then .post else .other name

/-- A request. Header values are bytes; the target is a path, perhaps with a query or a fragment. -/
structure Request where
  method : Method
  target : String
  headers : List (String × List UInt8)
  body : List UInt8
  deriving DecidableEq, Repr

namespace Request

/-- The value of the first header of a name, in letters of any case. -/
def header? (request : Request) (name : String) : Option (List UInt8) :=
  (request.headers.find? fun (n, _) => n.toList.map Char.toLower = name.toList).map Prod.snd

/-- The value of a header as a text, when it holds only visible ASCII characters, spaces and tabs. -/
def visibleText? (value : List UInt8) : Option (List Char) :=
  if value.all fun b => (32 ≤ b && b < 127) || b == 9 then some (value.map fun b => Char.ofNat b.toNat) else none

/-- The path of the target, without query and fragment. -/
def path (request : Request) : List Char :=
  request.target.toList.takeWhile fun c => c ≠ '?' ∧ c ≠ '#'

end Request

/-- A response. -/
structure Response where
  status : Nat
  contentType : Option String
  /-- The methods allowed, in answer to another. -/
  allow : Option String
  body : String
  deriving DecidableEq, Repr

end TokenAuthority.Http
