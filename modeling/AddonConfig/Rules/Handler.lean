import AddonConfig.Model.Basic
import AddonConfig.Rules.Defect

/-!
# Handlers of a service

A service names no handler, or one by name, or one by module and class together.
-/

namespace AddonConfig

/-- The handler members of a service do not contradict each other. -/
def Service.checkHandler (service : Service) : Check :=
  let named := service.restHandlerName.isSome
  let inModule := service.restHandlerModule.isSome
  let ofClass := service.restHandlerClass.isSome
  if named && (inModule || ofClass) then .error (.mixedHandler service.name)
  else if inModule != ofClass then .error (.halfHandler service.name)
  else .ok ()

end AddonConfig
