import AddonConfig.Model.Decode
import AddonConfig.Yaml.Shape

/-!
# Reading a configuration from YAML

The shapes of the model's records, and `Config.ofYaml?`, which reads a text by them without the schema.
-/

namespace AddonConfig

open Yaml (Shape)

/-- The parameters that a validator of a kind has. -/
def Validator.parameterNames (kind : String) : Option (List String) :=
  match (Tag.ofName kind).parameters with
  | .inl (_, record) => some record.names
  | .inr _ => none

def Validator.shape : Shape := .tagged tagName parameterNames

/-- A choice with that many levels of children. -/
def Choice.shapeNested : Nat → Shape
  | 0 => .record []
  | levels + 1 => .record
      [("value", .primitive), ("label", .text), ("children", .optional (.list (shapeNested levels)))]

/-- Children are two levels deeper than their choice. -/
def Choice.shape : Shape := shapeNested (Yaml.levelLimit / 2)

def OAuthField.shape : Shape := .record
  [("oauth_field", .text), ("label", .text), ("field", .text), ("required", .optional .flag),
   ("validators", .list Validator.shape)]

def EntityOptions.shape : Shape := .openRecord
  [("autoCompleteFields", .optional (.list Choice.shape)), ("supportedFileTypes", .optionalTexts),
   ("maxFileSize", .optional .natural), ("fileSupportMessage", .optionalText),
   ("oauth", .optional (.list OAuthField.shape)), ("basic", .optional (.list OAuthField.shape)),
   ("auth_type", .optionalTexts)]

def Entity.shape : Shape := .record
  [("field", .text), ("label", .text), ("type", .variant), ("required", .optional .flag),
   ("defaultValue", .optional .any), ("help", .optionalText), ("validators", .list Validator.shape),
   ("options", .optional EntityOptions.shape)]

def Column.shape : Shape := .record [("field", .text), ("label", .text)]

def Table.shape : Shape := .record [("header", .list Column.shape), ("actions", .list .text)]

def Tab.shape : Shape := .record
  [("name", .text), ("title", .text), ("entity", .list Entity.shape), ("table", .optional Table.shape),
   ("confName", .optionalText)]

def Service.shape : Shape := .record
  [("name", .text), ("title", .text), ("entity", .list Entity.shape), ("confName", .optionalText),
   ("restHandlerName", .optionalText), ("restHandlerModule", .optionalText),
   ("restHandlerClass", .optionalText)]

def MenuGroup.shape : Shape := .record
  [("groupName", .text), ("groupTitle", .text), ("serviceNames", .optionalTexts)]

def InputsPage.shape : Shape := .record
  [("title", .optionalText), ("services", .list Service.shape),
   ("multiLevelMenu", .optional (.list MenuGroup.shape))]

def Pages.shape : Shape := .record
  [("configuration", .optional (.list Tab.shape)), ("inputs", .optional InputsPage.shape)]

def Meta.shape : Shape := .record
  [("name", .text), ("restRoot", .text), ("version", .text), ("displayName", .text),
   ("schemaVersion", .optionalText)]

def Config.shape : Shape := .record [("meta", Meta.shape), ("pages", Pages.shape)]

/-- The configuration in a YAML text, which need not satisfy the schema. -/
def Config.ofYaml? (text : String) : Option Config := do
  let value ← Config.shape.ofText? text
  (Config.decode value).toOption

end AddonConfig
