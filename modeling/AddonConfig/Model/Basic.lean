import AddonConfig.Json.Basic

/-!
# The model of a configuration document

A configuration has product data and two pages: tabs, each a set of fields, and input services with
their menu. Fields are entities; an `oauth` entity stands for the fields below it.
-/

namespace AddonConfig

/-- A constraint on the values of a field. -/
inductive Validator where
  | string (minLength maxLength : Option Int) (errorMsg : Option String)
  | number (range : List Binary64) (errorMsg : Option String)
  | regex (pattern : String) (errorMsg : Option String)
  | email
  | ipv4
  | date
  | url
  | other
  deriving DecidableEq, Repr, Inhabited

def Validator.kind : Validator → String
  | .string .. => "string"
  | .number .. => "number"
  | .regex .. => "regex"
  | .email => "email"
  | .ipv4 => "ipv4"
  | .date => "date"
  | .url => "url"
  | .other => "other"

/-- How a field is presented. -/
inductive EntityType where
  | text | textarea | singleSelect | multipleSelect | checkbox | checkboxGroup | radio | file | oauth
  | custom | helpLink | link | interval | index | date
  deriving DecidableEq, Repr, Inhabited

namespace EntityType

def name : EntityType → String
  | .text => "text"
  | .textarea => "textarea"
  | .singleSelect => "singleSelect"
  | .multipleSelect => "multipleSelect"
  | .checkbox => "checkbox"
  | .checkboxGroup => "checkboxGroup"
  | .radio => "radio"
  | .file => "file"
  | .oauth => "oauth"
  | .custom => "custom"
  | .helpLink => "helpLink"
  | .link => "link"
  | .interval => "interval"
  | .index => "index"
  | .date => "date"

def all : List EntityType :=
  [.text, .textarea, .singleSelect, .multipleSelect, .checkbox, .checkboxGroup, .radio, .file, .oauth,
   .custom, .helpLink, .link, .interval, .index, .date]

def ofName? (name : String) : Option EntityType := all.find? (·.name == name)

end EntityType

inductive ChoiceValue where
  | text (value : String)
  | number (value : Number)
  | flag (value : Bool)
  deriving DecidableEq, Repr, Inhabited

/-- An entry of a list to choose from; one with children is a group. -/
structure Choice where
  value : ChoiceValue
  label : String
  children : Option (List Choice)
  deriving Repr, Inhabited

/-- A field below an `oauth` entity. -/
structure OAuthField where
  oauthField : String
  label : String
  field : String
  required : Option Bool
  validators : List Validator
  deriving DecidableEq, Repr, Inhabited

/-- The options of an entity; those of unknown name are kept as they are. -/
structure EntityOptions where
  autoCompleteFields : Option (List Choice)
  supportedFileTypes : Option (List String)
  maxFileSize : Option Nat
  fileSupportMessage : Option String
  oauth : Option (List OAuthField)
  basic : Option (List OAuthField)
  authType : Option (List String)
  extra : Members
  deriving Repr, Inhabited

/-- A configurable field of a tab or service. -/
structure Entity where
  field : String
  label : String
  type : EntityType
  required : Option Bool
  defaultValue : Option Json
  help : Option String
  validators : List Validator
  options : Option EntityOptions
  deriving Repr, Inhabited

/-- What an entity contributes to its tab or service. -/
structure FieldView where
  field : String
  label : String
  validators : List Validator
  deriving DecidableEq, Repr, Inhabited

namespace Entity

def isFile (entity : Entity) : Bool := entity.type == .file

/-- The list to choose from, if the entity has one. -/
def choices (entity : Entity) : Option (List Choice) := entity.options.bind (·.autoCompleteFields)

/-- The fields below an `oauth` entity, those of the flow before the basic ones. -/
def subFields (options : EntityOptions) : List OAuthField :=
  options.oauth.getD [] ++ options.basic.getD []

/-- The fields of an entity: itself, or the fields below it where it is an `oauth` entity. -/
def fields (entity : Entity) : List FieldView :=
  if entity.type = .oauth then
    match entity.options with
    | some options => (subFields options).map fun sub => ⟨sub.field, sub.label, sub.validators⟩
    | none => []
  else [⟨entity.field, entity.label, entity.validators⟩]

end Entity

structure Column where
  field : String
  label : String
  deriving DecidableEq, Repr, Inhabited

/-- A list of rows that a tab manages. -/
structure Table where
  header : List Column
  actions : List String
  deriving DecidableEq, Repr, Inhabited

structure Tab where
  name : String
  title : String
  entity : List Entity
  table : Option Table
  confName : Option String
  deriving Repr, Inhabited

def Tab.isTable (tab : Tab) : Bool := tab.table.isSome

/-- A kind of data input. -/
structure Service where
  name : String
  title : String
  entity : List Entity
  confName : Option String
  restHandlerName : Option String
  restHandlerModule : Option String
  restHandlerClass : Option String
  deriving Repr, Inhabited

/-- A group of the inputs menu; without service names it stands for one service. -/
structure MenuGroup where
  groupName : String
  groupTitle : String
  serviceNames : Option (List String)
  deriving DecidableEq, Repr, Inhabited

structure InputsPage where
  title : Option String
  services : List Service
  multiLevelMenu : Option (List MenuGroup)
  deriving Repr, Inhabited

structure Pages where
  configuration : Option (List Tab)
  inputs : Option InputsPage
  deriving Repr, Inhabited

/-- What identifies the product. -/
structure Meta where
  name : String
  restRoot : String
  version : String
  displayName : String
  schemaVersion : Option String
  deriving DecidableEq, Repr, Inhabited

/-- A configuration document. -/
structure Config where
  product : Meta
  pages : Pages
  deriving Repr, Inhabited

namespace Config

/-- The tabs, none where the page is absent. -/
def tabs (config : Config) : List Tab := config.pages.configuration.getD []

/-- The services, none where the page is absent. -/
def services (config : Config) : List Service := (config.pages.inputs.map (·.services)).getD []

def menu (config : Config) : Option (List MenuGroup) := config.pages.inputs.bind (·.multiLevelMenu)

end Config

end AddonConfig
