/-!
# Sets of characters

A set is the increasing list of the code points where membership changes, beginning outside.
-/

namespace AddonConfig

/-- A set of characters by its bounds. -/
structure Charset where
  bounds : List Nat

namespace Charset

/-- Whether `code` is a member, when the bounds passed so far leave it `inside` or not. -/
def containsFrom (code : Nat) : List Nat → Bool → Bool
  | [], inside => inside
  | bound :: rest, inside => if code < bound then inside else containsFrom code rest (!inside)

def contains (set : Charset) (c : Char) : Bool := containsFrom c.toNat set.bounds false

end Charset

end AddonConfig
