/-!
# Defects of a configuration

`Defect` names what a rule found; its kind, code, help, payload and wording are functions of it.
-/

namespace AddonConfig

/-- A collection whose items have to differ. -/
inductive Collection where
  | tabs
  | services
  | fields
  | choices (entity : String)
  | children (entity : String)
  | menuGroups
  deriving DecidableEq, Repr

/-- What a rule found. -/
inductive Defect where
  | noTabs
  | tabWithoutName (tab : String)
  | fileWithoutOptions (field : String)
  | fileWithoutTypes (field : String)
  | reversedLengths (field : String)
  | rangeSize (field : String)
  | reversedRange (field : String)
  | badPattern (field : String)
  | duplicates (collection : Collection) (keys : List String)
  | mixedHandler (service : String)
  | halfHandler (service : String)
  | unknownService (name : String)
  | unknownGroup (name title : String)
  deriving DecidableEq, Repr

/-- The families of defects. -/
inductive DefectKind where
  | structuralOmission
  | invalidValidator
  | duplicateKey
  | handlerConflict
  | crossReference
  deriving DecidableEq, Repr

namespace DefectKind

def code : DefectKind → String
  | .structuralOmission => "global_config::structural_omission"
  | .invalidValidator => "global_config::invalid_validator_spec"
  | .duplicateKey => "global_config::duplicate_key"
  | .handlerConflict => "global_config::rest_handler_binding_conflict"
  | .crossReference => "global_config::cross_reference"

/-- Advice that goes with every defect of the kind. -/
def help : DefectKind → Option String
  | .invalidValidator =>
      some "string lengths, number ranges and regex patterns must be consistent"
  | .handlerConflict =>
      some ("declare either 'restHandlerName' alone, or 'restHandlerModule' together with "
        ++ "'restHandlerClass'")
  | _ => none

end DefectKind

/-- What has duplicates, as the message says it. -/
def Collection.duplicateMessage : Collection → String
  | .tabs => "Duplicates found for tabs names or titles"
  | .services => "Duplicates found for inputs (services) names or titles"
  | .fields => "Duplicates found for entity field or label"
  | .choices entity => "Duplicates found for autoCompleteFields: '" ++ entity ++ "'"
  | .children entity =>
      "Duplicates found for autoCompleteFields children in entity '" ++ entity ++ "'"
  | .menuGroups => "Duplicates found for multi-level menu groups' names or titles."

namespace Defect

def kind : Defect → DefectKind
  | .noTabs | .tabWithoutName _ | .fileWithoutOptions _ | .fileWithoutTypes _ => .structuralOmission
  | .reversedLengths _ | .rangeSize _ | .reversedRange _ | .badPattern _ => .invalidValidator
  | .duplicates .. => .duplicateKey
  | .mixedHandler _ | .halfHandler _ => .handlerConflict
  | .unknownService _ | .unknownGroup .. => .crossReference

/-- The field, service or menu entry that the defect is about, where its kind has one. -/
def subject : Defect → Option String
  | .reversedLengths field | .rangeSize field | .reversedRange field | .badPattern field => some field
  | .mixedHandler service | .halfHandler service => some service
  | .unknownService name | .unknownGroup name _ => some name
  | _ => none

/-- The keys that occur more than once. -/
def keys : Defect → List String
  | .duplicates _ keys => keys
  | _ => []

def message : Defect → String
  | .noTabs => "[] is too short"
  | .tabWithoutName tab => "Tab '" ++ tab ++ "' should have entity with field 'name'"
  | .fileWithoutOptions field =>
      "Options field for the file type should be present for '" ++ field ++ "' field."
  | .fileWithoutTypes field =>
      "You should define your supported file types in the `supportedFileTypes` field for the '"
        ++ field ++ "' field."
  | .reversedLengths field =>
      "Entity '" ++ field ++ "' has incorrect string validator, 'maxLength' should be greater or equal "
        ++ "than 'minLength'."
  | .rangeSize field =>
      "Entity '" ++ field ++ "' has incorrect number validator, it should have 2 elements under 'range' "
        ++ "field."
  | .reversedRange field =>
      "Entity '" ++ field ++ "' has incorrect number validator, second element should be greater or "
        ++ "equal than first element."
  | .badPattern field =>
      "Entity '" ++ field ++ "' has incorrect regex validator, pattern provided in the 'pattern' field "
        ++ "is not compilable."
  | .duplicates collection _ => collection.duplicateMessage
  | .mixedHandler service =>
      "Input '" ++ service ++ "' has both 'restHandlerName' and 'restHandlerModule' or "
        ++ "'restHandlerClass' fields present. Please use only 'restHandlerName' or "
        ++ "'restHandlerModule' and 'restHandlerClass'."
  | .halfHandler service =>
      "Input '" ++ service ++ "' should have both 'restHandlerModule' and 'restHandlerClass' fields "
        ++ "present, only 1 of them was found."
  | .unknownService name =>
      name ++ " ServiceName in the multi-level menu does not match any services name."
  | .unknownGroup name title =>
      name ++ " groupName or " ++ title ++ " groupTitle in the multi-level menu does not match any "
        ++ "services name or title."

end Defect

/-- The answer of a rule: nothing, or what it found. -/
abbrev Check := Except Defect Unit

end AddonConfig
