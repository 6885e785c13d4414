import AddonConfig.Json.Basic
import AddonConfig.Yaml.Datum
import AddonConfig.Yaml.Linked

/-!
# Values of no expected shape

Where nothing is expected the form and the tag of a scalar decide what it is. Collections nest no deeper
than the levels that are left, and a reading follows no more aliases than it has steps for.
-/

namespace AddonConfig.Yaml

/-- A reading with the number of aliases that may still be followed. -/
abbrev Reading := StateT Nat Option

/-- The node itself, or the one that an alias stands for. -/
def follow (targets : Targets) : Linked → Reading Linked
  | .alias number => do
      match ← get with
      | 0 => failure
      | left + 1 => do
          set left
          targets.lookup number
  | node => return node

/-- The text of a scalar, whatever its form and tag. -/
def readText (targets : Targets) (node : Linked) : Reading String := do
  match ← follow targets node with
  | .scalar _ _ text => return text
  | _ => failure

/-- The name in a tag of the document's own. -/
def localTag? (tag : Option String) : Option String := do
  match (← tag).toList with
  | ['!'] => some "!"
  | '!' :: name => some (String.ofList name)
  | _ => none

/-- The meaning of a scalar without quotes and tag. Integers have at most 64 bits; those of up to 128 bits
are refused, and longer ones are read as floating point numbers. -/
def plainDatum? (text : String) : Option Datum :=
  let chars := text.toList
  if (integerOf? 64 chars).isNone ∧ (integerOf? 128 chars).isSome then none else some (.ofPlain text)

/-- The meaning of a scalar. One of the tags of the standard makes it what it says. -/
def datum? (tag : Option String) (style : ScalarStyle) (text : String) : Option Datum :=
  match tag with
  | none => if style = .plain then plainDatum? text else some (.text text)
  | some name =>
      if (localTag? tag).isSome then none
      else if name = standardTag "bool" then (boolOf? text).map .bool
      else if name = standardTag "int" then (integerOf? 64 text.toList).map .int
      else if name = standardTag "float" then (floatOf? text.toList).map .float
      else if name = standardTag "null" then if isNullWord text then some .null else none
      else some (.text text)

/-- A value of no expected shape. -/
inductive Untyped where
  | scalar (datum : Datum)
  | sequence (items : List Untyped)
  | mapping (entries : List (Untyped × Untyped))
  deriving Repr, Inhabited

namespace Untyped

/-- Reads a node with that many levels of collections. Keys are taken as texts where `namedKeys` says so. -/
def read (namedKeys : Bool) (targets : Targets) : Nat → Linked → Reading Untyped
  | 0, node => do
      match ← follow targets node with
      | .scalar tag style text => scalar <$> datum? tag style text
      | _ => failure
  | levels + 1, node => do
      match ← follow targets node with
      | .scalar tag style text => scalar <$> datum? tag style text
      | .sequence tag items => do
          if (localTag? tag).isSome then failure
          sequence <$> items.mapM (read namedKeys targets levels)
      | .mapping tag entries => do
          if (localTag? tag).isSome then failure
          mapping <$> entries.mapM fun (key, value) => do
            let key ←
              if namedKeys then scalar <$> Datum.text <$> readText targets key
              else read namedKeys targets levels key
            return (key, ← read namedKeys targets levels value)
      | .alias _ => failure

end Untyped

/-- The value as JSON; numbers that are not finite stay as they are. -/
def Datum.toJson : Datum → Json
  | .null => .null
  | .bool value => .bool value
  | .int value => .num (.int value)
  | .float value => .num (.float value)
  | .text value => .str value

namespace Untyped

mutual

/-- The value as JSON if all its keys are texts; the last entry of a key wins. -/
def toJson? : Untyped → Option Json
  | .scalar datum => some datum.toJson
  | .sequence items => (itemsToJson? items).map .arr
  | .mapping entries => (entriesToJson? entries).map Json.ofMembers

def itemsToJson? : List Untyped → Option (List Json)
  | [] => some []
  | item :: rest => do
      let item ← toJson? item
      return item :: (← itemsToJson? rest)

def entriesToJson? : List (Untyped × Untyped) → Option (List (String × Json))
  | [] => some []
  | (key, value) :: rest => do
      let .scalar (.text name) := key | none
      let value ← toJson? value
      return (name, value) :: (← entriesToJson? rest)

end

end Untyped

end AddonConfig.Yaml
