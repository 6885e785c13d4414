import AddonConfig.Schema.Basic

/-!
# The schema of configuration documents

One schema a type of the document; members are declared in the order of their names.
-/

namespace AddonConfig.Schema

def entityTypes : List String :=
  ["text", "textarea", "singleSelect", "multipleSelect", "checkbox", "checkboxGroup", "radio", "file",
   "oauth", "custom", "helpLink", "link", "interval", "index", "date"]

def tableActions : List String := ["edit", "delete", "clone", "enable", "search"]

/-- A number validator has a range, and a regex validator a pattern. -/
def validator : Schema :=
  .object
    [("errorMsg", .string), ("maxLength", .integer), ("minLength", .integer), ("pattern", .string),
     ("range", .array .number), ("type", .string)]
    ["type"]
    [⟨"type", "number", "range"⟩, ⟨"type", "regex", "pattern"⟩]

def oauthField : Schema :=
  .object
    [("field", .string), ("label", .string), ("oauth_field", .string), ("required", .boolean),
     ("validators", .array validator)]
    ["oauth_field", "label", "field"] []

/-- A choice of a group. -/
def childChoice : Schema := .object [("label", .string), ("value", .scalar)] ["value", "label"] []

def choiceEntry : Schema :=
  .object [("children", .array childChoice), ("label", .string), ("value", .scalar)]
    ["value", "label"] []

def entityOptions : Schema :=
  .object
    [("auth_type", .array .string), ("autoCompleteFields", .array choiceEntry),
     ("basic", .array oauthField), ("fileSupportMessage", .string), ("maxFileSize", .natural),
     ("oauth", .array oauthField), ("supportedFileTypes", .array .string)]
    [] []

def entity : Schema :=
  .object
    [("field", .string), ("help", .string), ("label", .string), ("options", entityOptions),
     ("required", .boolean), ("type", .choice entityTypes), ("validators", .array validator)]
    ["field", "label", "type"] []

def column : Schema := .object [("field", .string), ("label", .string)] ["field", "label"] []

def table : Schema :=
  .object [("actions", .array (.choice tableActions)), ("header", .array column)] [] []

def tab : Schema :=
  .object
    [("confName", .string), ("entity", .array entity), ("name", .string), ("table", table),
     ("title", .string)]
    ["name", "title", "entity"] []

def service : Schema :=
  .object
    [("confName", .string), ("entity", .array entity), ("name", .string),
     ("restHandlerClass", .string), ("restHandlerModule", .string), ("restHandlerName", .string),
     ("title", .string)]
    ["name", "title", "entity"] []

def menuGroup : Schema :=
  .object
    [("groupName", .string), ("groupTitle", .string), ("serviceNames", .array .string)]
    ["groupName", "groupTitle"] []

def inputsPage : Schema :=
  .object
    [("multiLevelMenu", .array menuGroup), ("services", .array service), ("title", .string)]
    ["services"] []

def pages : Schema := .object [("configuration", .array tab), ("inputs", inputsPage)] [] []

def product : Schema :=
  .object
    [("displayName", .string), ("name", .string), ("restRoot", .word), ("schemaVersion", .string),
     ("version", .string)]
    ["name", "restRoot", "version", "displayName"] []

/-- The schema of a whole document. -/
def document : Schema := .object [("meta", product), ("pages", pages)] ["meta", "pages"] []

end AddonConfig.Schema
