import AddonConfig.Model.Basic

/-!
# Writing the model

Members stand in declaration order; absent options and empty defaulted lists are left out.
-/

namespace AddonConfig

def encodeList {α : Type} (item : α → Json) (items : List α) : Json := .arr (items.map item)

/-- A member that is always written. -/
def member (name : String) (value : Json) : Members := [(name, value)]

/-- A member that is written if it has a value. -/
def memberIf {α : Type} (name : String) (encode : α → Json) : Option α → Members
  | some value => [(name, encode value)]
  | none => []

/-- A member that is written if its list is not empty. -/
def memberList {α : Type} (name : String) (encode : α → Json) : List α → Members
  | [] => []
  | items => [(name, encodeList encode items)]

def encodeInt (value : Int) : Json := .num (.int value)

def encodeStrings (values : List String) : Json := encodeList .str values

def EntityType.encode (type : EntityType) : Json := .str type.name

def Validator.encode (validator : Validator) : Json :=
  .obj (member "type" (.str validator.kind) ++
    match validator with
    | .string minLength maxLength errorMsg =>
        memberIf "minLength" encodeInt minLength ++ memberIf "maxLength" encodeInt maxLength
          ++ memberIf "errorMsg" .str errorMsg
    | .number range errorMsg =>
        member "range" (encodeList (fun bound => .num (.float bound)) range)
          ++ memberIf "errorMsg" .str errorMsg
    | .regex pattern errorMsg => member "pattern" (.str pattern) ++ memberIf "errorMsg" .str errorMsg
    | _ => [])

def ChoiceValue.encode : ChoiceValue → Json
  | .text value => .str value
  | .number value => .num value
  | .flag value => .bool value

mutual

def Choice.encode : Choice → Json
  | ⟨value, label, children⟩ =>
      .obj (member "value" value.encode ++ member "label" (.str label) ++
        match children with
        | some children => [("children", .arr (Choice.encodeAll children))]
        | none => [])

def Choice.encodeAll : List Choice → List Json
  | [] => []
  | choice :: rest => Choice.encode choice :: Choice.encodeAll rest

end

def OAuthField.encode (sub : OAuthField) : Json :=
  .obj (member "oauth_field" (.str sub.oauthField) ++ member "label" (.str sub.label)
    ++ member "field" (.str sub.field) ++ memberIf "required" .bool sub.required
    ++ memberList "validators" Validator.encode sub.validators)

/-- The options of known name come first. -/
def EntityOptions.encode (options : EntityOptions) : Json :=
  .obj (memberIf "autoCompleteFields" (encodeList Choice.encode) options.autoCompleteFields
    ++ memberIf "supportedFileTypes" encodeStrings options.supportedFileTypes
    ++ memberIf "maxFileSize" (fun size => encodeInt size) options.maxFileSize
    ++ memberIf "fileSupportMessage" .str options.fileSupportMessage
    ++ memberIf "oauth" (encodeList OAuthField.encode) options.oauth
    ++ memberIf "basic" (encodeList OAuthField.encode) options.basic
    ++ memberIf "auth_type" encodeStrings options.authType
    ++ options.extra)

def Entity.encode (entity : Entity) : Json :=
  .obj (member "field" (.str entity.field) ++ member "label" (.str entity.label)
    ++ member "type" entity.type.encode ++ memberIf "required" .bool entity.required
    ++ memberIf "defaultValue" id entity.defaultValue ++ memberIf "help" .str entity.help
    ++ memberList "validators" Validator.encode entity.validators
    ++ memberIf "options" EntityOptions.encode entity.options)

def Column.encode (column : Column) : Json :=
  .obj (member "field" (.str column.field) ++ member "label" (.str column.label))

def Table.encode (table : Table) : Json :=
  .obj (memberList "header" Column.encode table.header ++ memberList "actions" .str table.actions)

def Tab.encode (tab : Tab) : Json :=
  .obj (member "name" (.str tab.name) ++ member "title" (.str tab.title)
    ++ member "entity" (encodeList Entity.encode tab.entity) ++ memberIf "table" Table.encode tab.table
    ++ memberIf "confName" .str tab.confName)

def Service.encode (service : Service) : Json :=
  .obj (member "name" (.str service.name) ++ member "title" (.str service.title)
    ++ member "entity" (encodeList Entity.encode service.entity)
    ++ memberIf "confName" .str service.confName
    ++ memberIf "restHandlerName" .str service.restHandlerName
    ++ memberIf "restHandlerModule" .str service.restHandlerModule
    ++ memberIf "restHandlerClass" .str service.restHandlerClass)

def MenuGroup.encode (group : MenuGroup) : Json :=
  .obj (member "groupName" (.str group.groupName) ++ member "groupTitle" (.str group.groupTitle)
    ++ memberIf "serviceNames" encodeStrings group.serviceNames)

def InputsPage.encode (page : InputsPage) : Json :=
  .obj (memberIf "title" .str page.title ++ member "services" (encodeList Service.encode page.services)
    ++ memberIf "multiLevelMenu" (encodeList MenuGroup.encode) page.multiLevelMenu)

def Pages.encode (pages : Pages) : Json :=
  .obj (memberIf "configuration" (encodeList Tab.encode) pages.configuration
    ++ memberIf "inputs" InputsPage.encode pages.inputs)

def Meta.encode (product : Meta) : Json :=
  .obj (member "name" (.str product.name) ++ member "restRoot" (.str product.restRoot)
    ++ member "version" (.str product.version) ++ member "displayName" (.str product.displayName)
    ++ memberIf "schemaVersion" .str product.schemaVersion)

def Config.encode (config : Config) : Json :=
  .obj (member "meta" config.product.encode ++ member "pages" config.pages.encode)

end AddonConfig
