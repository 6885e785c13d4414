import AddonConfig.Model.Basic
import AddonConfig.Json.Printer
import AddonConfig.Rules.Defect

/-!
# Duplicate keys

`findDuplicates` lists the keys that more than one item has, in the order of their first items. The
checks below apply it to the collections of a configuration.
-/

namespace AddonConfig

/-- The first occurrence of every key. -/
def firstOccurrences {κ : Type} [DecidableEq κ] : List κ → List κ
  | [] => []
  | k :: rest => k :: (firstOccurrences rest).filter (· ≠ k)

/-- The keys of more than one item, in the order of their first items. -/
def findDuplicates {α κ : Type} [DecidableEq κ] (key : α → κ) (items : List α) : List κ :=
  let keys := items.map key
  (firstOccurrences keys).filter fun k => 1 < keys.countP (· = k)

/-- The duplicates of two keys, those of the first key before those of the second. -/
def findPairDuplicates {α : Type} (left right : α → String) (items : List α) : List String :=
  findDuplicates left items ++ findDuplicates right items

/-- Nothing may occur twice. -/
def ensureDistinct (collection : Collection) : List String → Check
  | [] => .ok ()
  | keys => .error (.duplicates collection keys)

/-- The text by which values are compared. -/
def ChoiceValue.display : ChoiceValue → String
  | .text value => value
  | .number value => value.text
  | .flag value => if value then "true" else "false"

/-- Values differ among one another, and so do labels. -/
def checkChildren (entity : String) (children : List Choice) : Check :=
  ensureDistinct (.children entity) (findDuplicates (·.value.display) children
    ++ findDuplicates (·.label) children)

/-- The children of every group, which is an entry that has a list of children. -/
def choiceGroups (choices : List Choice) : List (List Choice) := choices.filterMap (·.children)

/-- The labels of a list with groups differ. -/
def checkGroupLabels (entity : String) (choices : List Choice) : Check :=
  ensureDistinct (.choices entity) (findDuplicates (·.label) choices)

/-- A list without groups is checked as the children of one group; otherwise each group is, and then
the labels of the whole list. -/
def checkChoices (entity : String) (choices : List Choice) : Check :=
  match choiceGroups choices with
  | [] => checkChildren entity choices
  | groups => do
      groups.forM (checkChildren entity)
      checkGroupLabels entity choices

/-- Fields and labels differ over all entities. -/
def checkFieldKeys (entities : List Entity) : Check :=
  ensureDistinct .fields
    (findPairDuplicates (·.field) (·.label) (entities.flatMap Entity.fields))

/-- Fields and labels differ; then each list of choices is checked. -/
def checkEntityKeys (entities : List Entity) : Check := do
  checkFieldKeys entities
  entities.forM fun entity =>
    match entity.choices with
    | some choices => checkChoices entity.label choices
    | none => .ok ()

def checkTabKeys (tabs : List Tab) : Check :=
  ensureDistinct .tabs (findPairDuplicates (·.name) (·.title) tabs)

def checkServiceKeys (services : List Service) : Check :=
  ensureDistinct .services (findPairDuplicates (·.name) (·.title) services)

def checkMenuKeys (groups : List MenuGroup) : Check :=
  ensureDistinct .menuGroups (findPairDuplicates (·.groupName) (·.groupTitle) groups)

end AddonConfig
