import AddonConfig.Model.Basic
import AddonConfig.Text.LowerCase

/-!
# Endpoints

Every tab and service is served by an endpoint: a table tab and a service by one of its own, all other
tabs by one that they share.
-/

namespace AddonConfig

/-- What serves an endpoint. -/
inductive Handler where
  | named (name : String)
  | custom (inModule ofClass : String)
  deriving DecidableEq, Repr, Inhabited

namespace Handler

/-- The handler of an endpoint that names none. -/
def generated (restRoot name : String) : Handler := .named (restRoot ++ "_rh_" ++ name)

/-- The handler that a service names, or the generated one. -/
def ofService (restRoot : String) (service : Service) : Handler :=
  match service.restHandlerName, service.restHandlerModule, service.restHandlerClass with
  | some name, _, _ => .named name
  | none, some inModule, some ofClass => .custom inModule ofClass
  | _, _, _ => generated restRoot service.name

end Handler

/-- What an endpoint holds: the rows of one table, one stanza a tab, or the inputs of one service. -/
inductive EndpointKind where
  | singleModel
  | multipleModel
  | dataInput
  deriving DecidableEq, Repr, Inhabited

/-- The fields of a tab or service as its endpoint shows them. -/
structure EndpointEntity where
  name : String
  fields : List String
  supportsDisablement : Bool
  deriving DecidableEq, Repr, Inhabited

/-- The field by which an entity is switched off. -/
def disabledField : String := "disabled"

/-- The fields, and the one that switches the entity off if it can be. -/
def EndpointEntity.fieldNames (entity : EndpointEntity) : List String :=
  if entity.supportsDisablement then entity.fields ++ [disabledField] else entity.fields

structure Endpoint where
  name : String
  kind : EndpointKind
  confName : String
  handler : Handler
  entities : List EndpointEntity
  deriving DecidableEq, Repr, Inhabited

/-- The name of the endpoint that tabs without a table share. -/
def settingsName : String := "settings"

/-- The field names of the entities of a tab or service. -/
def fieldNamesOf (entities : List Entity) : List String :=
  (entities.flatMap Entity.fields).map (·.field)

namespace Endpoint

/-- An endpoint without entities; its file is named after it where no name is given. -/
def make (restRoot name : String) (kind : EndpointKind) (confName : Option String) (handler : Handler)
    (entities : List EndpointEntity) : Endpoint where
  name := restRoot ++ "_" ++ name
  kind := kind
  confName := confName.getD (lowerCase name)
  handler := handler
  entities := entities

/-- The endpoint of a table; its rows can be switched off only in a file of their own. -/
def ofTable (restRoot : String) (tab : Tab) : Endpoint :=
  make restRoot tab.name .singleModel tab.confName (.generated restRoot tab.name)
    [⟨tab.name, fieldNamesOf tab.entity, tab.confName.isSome⟩]

/-- What a tab without a table adds to the shared endpoint. -/
def settingsEntity (tab : Tab) : EndpointEntity := ⟨tab.name, fieldNamesOf tab.entity, false⟩

/-- The endpoint that tabs without a table share. -/
def settings (restRoot : String) (entities : List EndpointEntity) : Endpoint :=
  make restRoot settingsName .multipleModel none (.generated restRoot settingsName) entities

def ofService (restRoot : String) (service : Service) : Endpoint :=
  make restRoot service.name .dataInput service.confName (.ofService restRoot service)
    [⟨service.name, fieldNamesOf service.entity, true⟩]

/-- The endpoints of the tabs passed so far. -/
structure Draft where
  tables : List Endpoint := []
  shared : Option (List EndpointEntity) := none

def Draft.add (restRoot : String) (draft : Draft) (tab : Tab) : Draft :=
  if tab.isTable then { draft with tables := draft.tables ++ [ofTable restRoot tab] }
  else { draft with shared := some (draft.shared.getD [] ++ [settingsEntity tab]) }

/-- The endpoints of a configuration: tables in document order, the shared one, then services. -/
def plan (config : Config) : List Endpoint :=
  let restRoot := config.product.restRoot
  let draft := config.tabs.foldl (Draft.add restRoot) {}
  draft.tables ++ (draft.shared.map (settings restRoot)).toList
    ++ config.services.map (ofService restRoot)

end Endpoint

end AddonConfig
