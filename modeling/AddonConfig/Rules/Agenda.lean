import AddonConfig.Note
import AddonConfig.Rules.Config

/-!
# The agenda of a check

`Config.agenda` lists every single check of a configuration in document order, with the notes that are made
on the way.
-/

namespace AddonConfig
variable [PatternEngine]

/-- A step of checking a configuration. -/
inductive Task where
  | note (note : Note)
  | check (check : Check)

/-- The steps of checking something. -/
abbrev Agenda := List Task

namespace Agenda

/-- The notes before the first check that fails. -/
def notes : Agenda → List Note
  | [] => []
  | .note note :: rest => note :: notes rest
  | .check (.ok _) :: rest => notes rest
  | .check (.error _) :: _ => []

/-- One check alone. -/
def one (check : Check) : Agenda := [.check check]

/-- The file types of an entity, then every validator of its fields. -/
def ofEntity (entity : Entity) : Agenda :=
  one (checkFile entity) ++ entity.fields.flatMap fun view =>
    view.validators.map fun validator => .check (validator.check view.field)

/-- Each group of choices, then the labels; or the choices as the children of one group. -/
def ofChoices (entity : String) (choices : List Choice) : Agenda :=
  match choiceGroups choices with
  | [] => one (checkChildren entity choices)
  | groups =>
      groups.map (fun children => .check (checkChildren entity children))
        ++ one (checkGroupLabels entity choices)

/-- The entities of a tab or service: each one alone, then all together. -/
def ofEntities (entities : List Entity) : Agenda :=
  entities.flatMap ofEntity ++ one (checkFieldKeys entities) ++ entities.flatMap fun entity =>
    match entity.choices with
    | some choices => ofChoices entity.label choices
    | none => []

def ofTab (tab : Tab) : Agenda :=
  .note (.checkingTab tab.name) :: .check tab.checkName :: ofEntities tab.entity

def ofTabs (tabs : List Tab) : Agenda :=
  .note (.checkingTabs tabs.length) :: .check (checkTabCount tabs) :: tabs.flatMap ofTab
    ++ one (checkTabKeys tabs)

def ofService (service : Service) : Agenda :=
  .note (.checkingService service.name) :: ofEntities service.entity

def ofMenuGroup (services : List Service) (group : MenuGroup) : Agenda :=
  match group.serviceNames with
  | some names => names.map fun name => .check (checkReference services name)
  | none => one (checkIdentity services group)

def ofMenu (services : List Service) (groups : List MenuGroup) : Agenda :=
  .note (.checkingMenu groups.length) :: groups.flatMap (ofMenuGroup services) ++ one (checkMenuKeys groups)

def ofInputs (page : InputsPage) : Agenda :=
  .note (.checkingServices page.services.length) :: page.services.flatMap ofService
    ++ one (checkServiceKeys page.services)
    ++ .note .checkingHandlers :: page.services.map (fun service => .check service.checkHandler)
    ++ match page.multiLevelMenu with
      | some groups => ofMenu page.services groups
      | none => []

end Agenda

/-- Every step of checking a configuration. -/
def Config.agenda (config : Config) : Agenda :=
  (match config.pages.configuration with
    | some tabs => Agenda.ofTabs tabs
    | none => [])
    ++ (match config.pages.inputs with
      | some page => Agenda.ofInputs page
      | none => [])
    ++ [.note .passed]

end AddonConfig
