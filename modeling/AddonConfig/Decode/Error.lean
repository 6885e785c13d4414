import AddonConfig.Json.Printer
import AddonConfig.Text.Quoted

/-!
# Why a value is not of a type

`DecodeError` names the cause and `DecodeError.message` is the only place that words it.
-/

namespace AddonConfig

/-- What stands where something else was expected. -/
inductive Found where
  | null
  | bool (value : Bool)
  | int (value : Int)
  | float (value : Binary64)
  | text (value : String)
  | sequence
  | map
  deriving DecidableEq, Repr

namespace Found

/-- What a value shows of itself. -/
def of : Json → Found
  | .null => .null
  | .bool value => .bool value
  | .num (.int value) => .int value
  | .num (.float value) => .float value
  | .str value => .text value
  | .arr _ => .sequence
  | .obj _ => .map

def message : Found → String
  | .null => "null"
  | .bool value => "boolean `" ++ (if value then "true" else "false") ++ "`"
  | .int value => "integer `" ++ toString value ++ "`"
  | .float value => "floating point `" ++ value.text ++ "`"
  | .text value => "string " ++ quoted value
  | .sequence => "sequence"
  | .map => "map"

end Found

/-- What a value should have been. -/
inductive Expected where
  | string
  | boolean
  | sequence
  | signed
  | unsigned
  | double
  | unit
  | record (title : String)
  | itemsOf (title : String) (count : Nat)
  | variantItems (title : String) (count : Nat)
  | itemsInSequence (count : Nat)
  | fewerItems
  | tagged (title : String)
  | tag
  | stringOrMap
  | singleMember
  deriving DecidableEq, Repr

namespace Expected

def message : Expected → String
  | .string => "a string"
  | .boolean => "a boolean"
  | .sequence => "a sequence"
  | .signed => "i64"
  | .unsigned => "u64"
  | .double => "f64"
  | .unit => "unit"
  | .record title => "struct " ++ title
  | .itemsOf title count =>
      "struct " ++ title ++ " with " ++ toString count ++ (if count = 1 then " element" else " elements")
  | .variantItems title count =>
      "struct variant Validator::" ++ title ++ " with " ++ toString count
        ++ (if count = 1 then " element" else " elements")
  | .itemsInSequence count =>
      toString count ++ (if count = 1 then " element in sequence" else " elements in sequence")
  | .fewerItems => "fewer elements in array"
  | .tagged title => "internally tagged enum " ++ title
  | .tag => "variant identifier"
  | .stringOrMap => "string or map"
  | .singleMember => "map with a single key"

end Expected

/-- Why a value is not of a type. -/
inductive DecodeError where
  | invalidType (found : Found) (expected : Expected)
  | invalidValue (found : Found) (expected : Expected)
  | invalidLength (count : Nat) (expected : Expected)
  | missingField (name : String)
  | unknownVariant (name : String) (known : List String)
  | noVariant (title : String)
  deriving DecidableEq, Repr

namespace DecodeError

def message : DecodeError → String
  | .invalidType found expected =>
      "invalid type: " ++ found.message ++ ", expected " ++ expected.message
  | .invalidValue found expected =>
      "invalid value: " ++ found.message ++ ", expected " ++ expected.message
  | .invalidLength count expected =>
      "invalid length " ++ toString count ++ ", expected " ++ expected.message
  | .missingField name => "missing field `" ++ name ++ "`"
  | .unknownVariant name known =>
      "unknown variant `" ++ name ++ "`, expected one of "
        ++ ", ".intercalate (known.map fun other => "`" ++ other ++ "`")
  | .noVariant title => "data did not match any variant of untagged enum " ++ title

end DecodeError

end AddonConfig
