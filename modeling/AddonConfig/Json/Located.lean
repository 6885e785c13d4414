import AddonConfig.Json.Pointer
import AddonConfig.Yaml.Value

/-!
# JSON values with their places in a text

`Located.ofValue` turns a YAML value into the JSON value it stands for and lists the bytes that every node
of that was read from. Numbers that JSON cannot write become null, own tags are dropped, and so are entries
whose key is no text.
-/

namespace AddonConfig

/-- A JSON value and the bytes of its nodes. -/
structure Located where
  value : Json
  spans : List (Pointer × Yaml.Span)
  deriving Repr, Inhabited

namespace Located

def ofDatum : Yaml.Datum → Json
  | .null => .null
  | .bool value => .bool value
  | .int value => .num (.int value)
  | .float value => if value.isFinite then .num (.float value) else .null
  | .text value => .str value

mutual

/-- The JSON value at a place. -/
def ofValueAt (place : Pointer) : Yaml.Value → Located
  | .scalar datum span => ⟨ofDatum datum, [(place, span)]⟩
  | .sequence items span =>
      let (values, spans) := ofItems place 0 items
      ⟨.arr values, (place, span) :: spans⟩
  | .mapping entries span =>
      let (members, spans) := ofEntries place entries
      ⟨Json.ofMembers members, (place, span) :: spans⟩
  | .tagged _ value => ofValueAt place value

/-- The items of a sequence from an index on. -/
def ofItems (place : Pointer) (index : Nat) : List Yaml.Value → List Json × List (Pointer × Yaml.Span)
  | [] => ([], [])
  | item :: rest =>
      let first := ofValueAt (place ++ [.item index]) item
      let (values, spans) := ofItems place (index + 1) rest
      (first.value :: values, first.spans ++ spans)

/-- The entries of a mapping whose keys are texts. -/
def ofEntries (place : Pointer) :
    List (Yaml.Value × Yaml.Value) → List (String × Json) × List (Pointer × Yaml.Span)
  | [] => ([], [])
  | (.scalar (.text name) _, value) :: rest =>
      let first := ofValueAt (place ++ [.member name]) value
      let (members, spans) := ofEntries place rest
      ((name, first.value) :: members, first.spans ++ spans)
  | _ :: rest => ofEntries place rest

end

/-- A YAML value as JSON. -/
def ofValue (value : Yaml.Value) : Located := ofValueAt [] value

/-- A value that was not read from a known place. -/
def unplaced (value : Json) : Located := ⟨value, []⟩

/-- The bytes of the node at a place, those of the whole where there is no such node. -/
def spanAt (located : Located) (place : Pointer) : Yaml.Span :=
  ((located.spans.lookup place).or (located.spans.lookup [])).getD ⟨0, 0⟩

/-- The value of the first YAML document of a text. -/
def ofText? (text : String) : Option Located := (Yaml.Value.ofText? text).map ofValue

end Located

end AddonConfig
