import AddonConfig.Json.Basic
import AddonConfig.Number.Decimal

/-!
# JSON text

`Json.compact` writes a value without blanks and `Json.pretty` with two blanks a level. Both write
members in the order of the value, and a number that JSON has no text for as `null`.
-/

namespace AddonConfig

/-- The text of a number as it stands in messages. -/
def Number.text : Number → String
  | .int value => toString value
  | .float value => value.text

namespace Json

def hex4 (n : Nat) : List Char :=
  let digits := Nat.toDigits 16 n
  List.replicate (4 - digits.length) '0' ++ digits

/-- A character of a string literal. -/
def escapeChar (c : Char) : List Char :=
  if c = '"' then ['\\', '"']
  else if c = '\\' then ['\\', '\\']
  else if c = '\n' then ['\\', 'n']
  else if c = '\r' then ['\\', 'r']
  else if c = '\t' then ['\\', 't']
  else if c = '\x08' then ['\\', 'b']
  else if c = '\x0c' then ['\\', 'f']
  else if c.toNat < 32 then '\\' :: 'u' :: hex4 c.toNat
  else [c]

/-- A string literal: quotes, backslashes and control characters are escaped, all else stands as it is. -/
def quote (s : String) : String := String.ofList ('"' :: (s.toList.flatMap escapeChar ++ ['"']))

/-- The text of a scalar value. -/
def scalarText : Json → String
  | .bool value => if value then "true" else "false"
  | .num (.int value) => toString value
  | .num (.float value) => if value.isFinite then value.text else "null"
  | .str value => quote value
  | _ => "null"

mutual

/-- The text without blanks. -/
def compact : Json → String
  | .arr items => "[" ++ ",".intercalate (compactItems items) ++ "]"
  | .obj members => "\x7b" ++ ",".intercalate (compactMembers members) ++ "\x7d"
  | scalar => scalarText scalar

def compactItems : List Json → List String
  | [] => []
  | item :: rest => compact item :: compactItems rest

def compactMembers : List (String × Json) → List String
  | [] => []
  | (name, value) :: rest => (quote name ++ ":" ++ compact value) :: compactMembers rest

end

/-- A line break and the indentation of a level. -/
def newline (level : Nat) : String := String.ofList ('\n' :: List.replicate (2 * level) ' ')

mutual

/-- The text over several lines, for a value that stands at a level of indentation. -/
def prettyAt (level : Nat) : Json → String
  | .arr [] => "[]"
  | .arr items =>
      "[" ++ ",".intercalate (prettyItems (level + 1) items) ++ newline level ++ "]"
  | .obj [] => "\x7b\x7d"
  | .obj members =>
      "\x7b" ++ ",".intercalate (prettyMembers (level + 1) members) ++ newline level ++ "\x7d"
  | scalar => scalarText scalar

def prettyItems (level : Nat) : List Json → List String
  | [] => []
  | item :: rest => (newline level ++ prettyAt level item) :: prettyItems level rest

def prettyMembers (level : Nat) : List (String × Json) → List String
  | [] => []
  | (name, value) :: rest =>
      (newline level ++ quote name ++ ": " ++ prettyAt level value) :: prettyMembers level rest

end

/-- The text over several lines. -/
def pretty (value : Json) : String := prettyAt 0 value

end Json

end AddonConfig
