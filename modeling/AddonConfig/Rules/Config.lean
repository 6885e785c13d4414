import AddonConfig.Rules.Entity
import AddonConfig.Rules.Handler
import AddonConfig.Rules.Menu

/-!
# Checking a configuration

`Config.check` runs every rule in document order and ends with the first defect.
-/

namespace AddonConfig
variable [PatternEngine]

/-- The entities of a tab or service: each one alone, then all together. -/
def checkEntities (entities : List Entity) : Check := do
  entities.forM Entity.check
  checkEntityKeys entities

/-- The field that every tab has. -/
def nameField : String := "name"

/-- A tab has an entity that names its rows. -/
def Tab.checkName (tab : Tab) : Check :=
  if tab.entity.any (·.field == nameField) then .ok () else .error (.tabWithoutName tab.name)

def Tab.check (tab : Tab) : Check := do
  tab.checkName
  checkEntities tab.entity

/-- The configuration page has tabs. -/
def checkTabCount (tabs : List Tab) : Check := if tabs.isEmpty then .error .noTabs else .ok ()

/-- The configuration page has tabs that are right on their own and differ from one another. -/
def checkTabs (tabs : List Tab) : Check := do
  checkTabCount tabs
  tabs.forM Tab.check
  checkTabKeys tabs

/-- The services, their handlers and the menu that refers to them. -/
def InputsPage.check (page : InputsPage) : Check := do
  page.services.forM fun service => checkEntities service.entity
  checkServiceKeys page.services
  page.services.forM Service.checkHandler
  match page.multiLevelMenu with
  | some groups => checkMenu page.services groups
  | none => .ok ()

/-- The first defect of a configuration, if it has one. -/
def Config.check (config : Config) : Check := do
  match config.pages.configuration with
  | some tabs => checkTabs tabs
  | none => .ok ()
  match config.pages.inputs with
  | some page => page.check
  | none => .ok ()

end AddonConfig
