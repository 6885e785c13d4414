import AddonConfig.Json.Basic

/-!
# Pointers

The place of a value inside a JSON value, as steps and as pointer text, where `~` and `/` in a name are
written `~0` and `~1`.
-/

namespace AddonConfig

/-- A step into a collection. -/
inductive Step where
  | member (name : String)
  | item (index : Nat)
  deriving DecidableEq, Repr

namespace Step

/-- A character of a name inside a pointer. -/
def escapeChar (c : Char) : List Char :=
  if c = '~' then ['~', '0'] else if c = '/' then ['~', '1'] else [c]

/-- The text of a step without its slash. -/
def token : Step → List Char
  | .member name => name.toList.flatMap escapeChar
  | .item index => Nat.toDigits 10 index

end Step

/-- The steps from the root to a value. -/
abbrev Pointer := List Step

namespace Pointer

/-- The characters of a pointer: every step after a slash. -/
def chars (pointer : Pointer) : List Char := pointer.flatMap fun step => '/' :: step.token

def text (pointer : Pointer) : String := String.ofList pointer.chars

end Pointer

end AddonConfig
