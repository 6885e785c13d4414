import AddonConfig.Json.Pointer
import AddonConfig.Json.Printer

/-!
# Schemas

A schema says which values a place may hold. `Schema.violations` lists all that is wrong with a value,
each with its place: in an object first what its conditions demand, then its declared members by name,
then what is always required, then its kind.
-/

namespace AddonConfig

/-- The kinds of values that a schema asks for. -/
inductive ValueKind where
  | object | array | string | boolean | integer | number
  deriving DecidableEq, Repr

namespace ValueKind

def name : ValueKind → String
  | .object => "object"
  | .array => "array"
  | .string => "string"
  | .boolean => "boolean"
  | .integer => "integer"
  | .number => "number"

/-- Whether a value is of a kind; a number without a fraction is an integer. -/
def holds : ValueKind → Json → Bool
  | .object, .obj _ => true
  | .array, .arr _ => true
  | .string, .str _ => true
  | .boolean, .bool _ => true
  | .integer, .num (.int _) => true
  | .integer, .num (.float value) => value.isWhole
  | .number, .num _ => true
  | _, _ => false

end ValueKind

/-- If a member has that text, or is not there, another member is required. -/
structure Condition where
  member : String
  value : String
  demands : String
  deriving DecidableEq, Repr

/-- Whether an object meets the premise of a condition. -/
def Condition.applies (condition : Condition) (members : Members) : Bool :=
  match Members.get? members condition.member with
  | some (.str text) => text == condition.value
  | some _ => false
  | none => true

/-- Which values a place may hold. -/
inductive Schema where
  | string
  | word
  | choice (allowed : List String)
  | boolean
  | integer
  | natural
  | number
  | scalar
  | array (item : Schema)
  | object (members : List (String × Schema)) (required : List String) (conditions : List Condition)
  deriving Inhabited

/-- What is wrong with a value. -/
inductive Complaint where
  | kind (value : Json) (expected : List ValueKind)
  | notAllowed (value : Json) (allowed : List String)
  | negative (value : Json)
  | notWord (value : Json)
  | missing (name : String)

namespace Complaint

/-- The pattern of a word. -/
def wordPattern : String := "\"^[A-Za-z0-9_]+$\""

def message : Complaint → String
  | .kind value [expected] => value.compact ++ " is not of type " ++ Json.quote expected.name
  | .kind value expected =>
      value.compact ++ " is not of types "
        ++ ", ".intercalate (expected.map fun kind => Json.quote kind.name)
  | .notAllowed value allowed =>
      value.compact ++ " is not one of [" ++ ",".intercalate (allowed.map Json.quote) ++ "]"
  | .negative value => value.compact ++ " is less than the minimum of 0"
  | .notWord value => value.compact ++ " does not match " ++ wordPattern
  | .missing name => Json.quote name ++ " is a required property"

end Complaint

/-- A complaint about the value at a place. -/
structure Violation where
  place : Pointer
  complaint : Complaint

namespace Schema

/-- Whether a character may stand in a word. -/
def isWordChar (c : Char) : Bool := c.isAlphanum || c = '_'

/-- Whether a text is a word: at least one letter, digit or underscore and nothing else. -/
def isWord (text : String) : Bool :=
  let chars := text.toList
  !chars.isEmpty && chars.all isWordChar

def isNegative : Number → Bool
  | .int value => decide (value < 0)
  | .float value => value.lt (.zero false)

def kindComplaint (kinds : List ValueKind) (value : Json) : List Complaint :=
  if kinds.any (·.holds value) then [] else [.kind value kinds]

def choiceComplaint (allowed : List String) : Json → List Complaint
  | .str text => if allowed.contains text then [] else [.notAllowed (.str text) allowed]
  | value => [.notAllowed value allowed]

def wordComplaint : Json → List Complaint
  | .str text => if isWord text then [] else [.notWord (.str text)]
  | _ => []

def naturalComplaint : Json → List Complaint
  | .num n => if isNegative n then [.negative (.num n)] else []
  | _ => []

/-- What a value that is not a collection has to be. -/
def scalarComplaints : Schema → Json → List Complaint
  | .string, value => kindComplaint [.string] value
  | .word, value => wordComplaint value ++ kindComplaint [.string] value
  | .choice allowed, value => choiceComplaint allowed value ++ kindComplaint [.string] value
  | .boolean, value => kindComplaint [.boolean] value
  | .integer, value => kindComplaint [.integer] value
  | .natural, value => naturalComplaint value ++ kindComplaint [.integer] value
  | .number, value => kindComplaint [.number] value
  | .scalar, value => kindComplaint [.boolean, .number, .string] value
  | .array _, value => kindComplaint [.array] value
  | .object .., value => kindComplaint [.object] value

/-- The complaints about names that an object does not have. -/
def missing (names : List String) (members : Members) : List Complaint :=
  (names.filter fun name => (Members.get? members name).isNone).map .missing

/-- What the conditions demand of an object and it does not have. -/
def conditionComplaints (conditions : List Condition) (members : Members) : List Complaint :=
  conditions.flatMap fun condition =>
    if condition.applies members then missing [condition.demands] members else []

/-- Complaints about the value at a place. -/
def complain (place : Pointer) (complaints : List Complaint) : List Violation :=
  complaints.map fun complaint => ⟨place, complaint⟩

mutual

/-- All that is wrong with the value at a place. -/
def violationsAt : Schema → Pointer → Json → List Violation
  | .array item, place, .arr items =>
      items.zipIdx.flatMap fun (value, index) => violationsAt item (place ++ [.item index]) value
  | .object declared required conditions, place, .obj members =>
      complain place (conditionComplaints conditions members)
        ++ memberViolations declared place members
        ++ complain place (missing required members)
  | schema, place, value => complain place (scalarComplaints schema value)

/-- What is wrong with the members that an object's schema declares. -/
def memberViolations : List (String × Schema) → Pointer → Members → List Violation
  | [], _, _ => []
  | (name, schema) :: rest, place, members =>
      (match Members.get? members name with
        | some value => violationsAt schema (place ++ [.member name]) value
        | none => [])
        ++ memberViolations rest place members

end

/-- All that is wrong with a value. -/
def violations (schema : Schema) (value : Json) : List Violation := violationsAt schema [] value

end Schema

end AddonConfig
