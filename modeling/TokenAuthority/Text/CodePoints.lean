/-!
# Sets of code points

A set given by the ascending code points at which membership changes, the first of which begins it.
-/

namespace TokenAuthority.Text

/-- Whether a code point is in the set with these bounds. -/
def within (bounds : List Nat) (codePoint : Nat) : Bool :=
  (bounds.takeWhile (· ≤ codePoint)).length % 2 == 1

end TokenAuthority.Text
