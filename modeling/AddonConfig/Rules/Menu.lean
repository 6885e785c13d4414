import AddonConfig.Rules.Duplicates

/-!
# The inputs menu

Every menu group refers to declared services: by the names it lists, or by its own name and title.
-/

namespace AddonConfig

/-- A name that a group lists is that of a service. -/
def checkReference (services : List Service) (name : String) : Check :=
  if services.any (·.name == name) then .ok () else .error (.unknownService name)

/-- The name and the title of a group are those of services. -/
def checkIdentity (services : List Service) (group : MenuGroup) : Check :=
  if services.any (·.name == group.groupName) && services.any (·.title == group.groupTitle) then .ok ()
  else .error (.unknownGroup group.groupName group.groupTitle)

/-- The references of a group. -/
def MenuGroup.check (services : List Service) (group : MenuGroup) : Check :=
  match group.serviceNames with
  | some names => names.forM (checkReference services)
  | none => checkIdentity services group

/-- The references of all groups, then the groups' own names and titles. -/
def checkMenu (services : List Service) (groups : List MenuGroup) : Check := do
  groups.forM (MenuGroup.check services)
  checkMenuKeys groups

end AddonConfig
