import AddonConfig.Number.Numeral
import AddonConfig.Yaml.Node

/-!
# What scalars mean

A scalar without quotes may be null, a truth value, a number or a text; its form alone decides.
-/

namespace AddonConfig.Yaml

/-- The meaning of a scalar. -/
inductive Datum where
  | null
  | bool (value : Bool)
  | int (value : Int)
  | float (value : Binary64)
  | text (value : String)
  deriving DecidableEq, Repr, Inhabited

/-- The spellings of null that have a letter or a sign. -/
def isNullWord (text : String) : Bool := text = "null" || text = "Null" || text = "NULL" || text = "~"

def boolOf? (text : String) : Option Bool :=
  if text = "true" ∨ text = "True" ∨ text = "TRUE" then some true
  else if text = "false" ∨ text = "False" ∨ text = "FALSE" then some false
  else none

/-- Several digits of which the first is a zero. They are no number. -/
def hasLeadingZero (text : List Char) : Bool :=
  match (splitSign text).2 with
  | '0' :: rest => !rest.isEmpty && rest.all Char.isDigit
  | _ => false

/-- The digits of an integer and their base, which two characters after a zero may give. -/
def splitBase : List Char → Nat × List Char
  | '0' :: 'x' :: rest => (16, rest)
  | '0' :: 'o' :: rest => (8, rest)
  | '0' :: 'b' :: rest => (2, rest)
  | rest => (10, rest)

/-- The integer that a text writes, if it has one of that many bits: up to `2 ^ bits - 1`, and down to
`-2 ^ (bits - 1)`. -/
def integerOf? (bits : Nat) (text : List Char) : Option Int := do
  if hasLeadingZero text then none
  let (negative, digits) := splitSign text
  let (base, digits) := splitBase digits
  let size ← naturalOf? base digits
  if negative then
    if size ≤ Nat.pow 2 (bits - 1) then some (-(size : Int)) else none
  else if size < Nat.pow 2 bits then some size
  else none

/-- The number, infinity or NaN that a text writes. -/
def floatOf? (text : List Char) : Option Binary64 :=
  let words := fun (list : List String) => list.contains (String.ofList text)
  if words [".inf", ".Inf", ".INF", "+.inf", "+.Inf", "+.INF"] then some (.infinite false)
  else if words ["-.inf", "-.Inf", "-.INF"] then some (.infinite true)
  else if words [".nan", ".NaN", ".NAN"] then some .nan
  else
    match (Decimal.ofChars? text).map Binary64.ofDecimal with
    | some value => if value.isFinite then some value else none
    | none => none

/-- The meaning of a scalar without quotes. -/
def Datum.ofPlain (text : String) : Datum :=
  if text.isEmpty || isNullWord text then .null
  else
    match boolOf? text with
    | some value => .bool value
    | none =>
        let chars := text.toList
        match integerOf? 64 chars with
        | some value => .int value
        | none =>
            if hasLeadingZero chars then .text text
            else
              match floatOf? chars with
              | some value => .float value
              | none => .text text

/-- The name of a tag of the standard. -/
def standardTag (name : String) : String := "tag:yaml.org,2002:" ++ name

/-- The meaning of a scalar. A tag for integers makes one also of a scalar in quotes. -/
def Datum.ofScalar (tag : Option String) (style : ScalarStyle) (text : String) : Datum :=
  let tagged := if tag = some (standardTag "int") then integerOf? 64 text.toList else none
  match tagged, style with
  | some value, _ => .int value
  | none, .plain => Datum.ofPlain text
  | none, _ => .text text

end AddonConfig.Yaml
