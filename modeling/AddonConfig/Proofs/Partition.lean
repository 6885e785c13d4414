import AddonConfig.Endpoint.Basic
import Mathlib.Data.List.Basic

/-!
# The plan of endpoints by parts

`Endpoint.partition` writes the plan down without a loop: an endpoint for each table, one for all other
tabs if there are any, an endpoint for each service. `Draft.Covers` is what the loop over the tabs keeps
up (`Covers.add`, `Covers.foldl`), and `plan_partitions` says that the plan is the partition, in which
every tab and every service is found once.
-/

namespace AddonConfig

/-- The names of an entity's fields: of those below it, the flow's first, if it is an `oauth` entity. -/
def Entity.shownFields (entity : Entity) : List String :=
  if entity.type = .oauth then
    match entity.options with
    | some options => (options.oauth.getD []).map (·.field) ++ (options.basic.getD []).map (·.field)
    | none => []
  else [entity.field]

/-- What an endpoint holds of a tab; a tab is switched off only in a table with a file of its own. -/
def Tab.shown (tab : Tab) : EndpointEntity where
  name := tab.name
  fields := tab.entity.flatMap Entity.shownFields
  supportsDisablement := tab.isTable && tab.confName.isSome

/-- What an endpoint holds of a service. -/
def Service.shown (service : Service) : EndpointEntity where
  name := service.name
  fields := service.entity.flatMap Entity.shownFields
  supportsDisablement := true

namespace Endpoint
variable {restRoot : String}

def tableEndpoint (restRoot : String) (tab : Tab) : Endpoint where
  name := restRoot ++ "_" ++ tab.name
  kind := .singleModel
  confName := tab.confName.getD (lowerCase tab.name)
  handler := .named (restRoot ++ "_rh_" ++ tab.name)
  entities := [tab.shown]

def sharedEndpoint (restRoot : String) (tabs : List Tab) : Endpoint where
  name := restRoot ++ "_settings"
  kind := .multipleModel
  confName := "settings"
  handler := .named (restRoot ++ "_rh_settings")
  entities := tabs.map Tab.shown

def serviceEndpoint (restRoot : String) (service : Service) : Endpoint where
  name := restRoot ++ "_" ++ service.name
  kind := .dataInput
  confName := service.confName.getD (lowerCase service.name)
  handler := .ofService restRoot service
  entities := [service.shown]

/-- Tables in document order, then all other tabs together, then services in document order. -/
def partition (config : Config) : List Endpoint :=
  let restRoot := config.product.restRoot
  (config.tabs.filter (·.isTable)).map (tableEndpoint restRoot)
    ++ (if ∃ tab ∈ config.tabs, tab.isTable = false then
        [sharedEndpoint restRoot (config.tabs.filter (!·.isTable))]
      else [])
    ++ config.services.map (serviceEndpoint restRoot)

/-! ### One endpoint -/

theorem fieldNamesOf_eq (entities : List Entity) : fieldNamesOf entities = entities.flatMap Entity.shownFields := by
  rw [fieldNamesOf, List.map_flatMap]
  refine List.flatMap_congr fun entity _ => ?_
  by_cases htype : entity.type = .oauth
  · cases hoptions : entity.options with
    | none => simp [Entity.fields, Entity.shownFields, htype, hoptions]
    | some options => simp [Entity.fields, Entity.shownFields, Entity.subFields, htype, hoptions, Function.comp_def]
  · simp [Entity.fields, Entity.shownFields, htype]

theorem ofTable_eq {tab : Tab} (h : tab.isTable = true) : ofTable restRoot tab = tableEndpoint restRoot tab := by
  simp [ofTable, make, tableEndpoint, Handler.generated, Tab.shown, fieldNamesOf_eq, h]

theorem settingsEntity_eq {tab : Tab} (h : tab.isTable = false) : settingsEntity tab = tab.shown := by
  simp [settingsEntity, Tab.shown, fieldNamesOf_eq, h]

theorem ofService_eq (service : Service) : ofService restRoot service = serviceEndpoint restRoot service := by
  simp [ofService, make, serviceEndpoint, Service.shown, fieldNamesOf_eq]

theorem lowerCase_settingsName : lowerCase settingsName = "settings" := by
  decide

theorem settings_eq (tabs : List Tab) :
    settings restRoot (tabs.map Tab.shown) = sharedEndpoint restRoot tabs := by
  simp only [settings, make, sharedEndpoint, Handler.generated, Option.getD_none, lowerCase_settingsName,
    String.append_assoc]
  rfl

/-! ### The loop over the tabs -/

/-- The draft after the tabs `passed`: their tables, and the other ones if there are any. -/
structure Draft.Covers (restRoot : String) (passed : List Tab) (draft : Draft) : Prop where
  tables : draft.tables = (passed.filter (·.isTable)).map (tableEndpoint restRoot)
  shared : draft.shared = if ∃ tab ∈ passed, tab.isTable = false then
    some ((passed.filter (!·.isTable)).map Tab.shown) else none

namespace Draft.Covers
variable {passed : List Tab} {draft : Draft}

theorem empty (restRoot : String) : Covers restRoot [] {} := ⟨rfl, by simp⟩

theorem add (h : Covers restRoot passed draft) (tab : Tab) :
    Covers restRoot (passed ++ [tab]) (draft.add restRoot tab) := by
  cases htab : tab.isTable with
  | true =>
    refine ⟨?_, ?_⟩
    · simp [Draft.add, htab, h.tables, ofTable_eq htab]
    · simp [Draft.add, htab, h.shared]
  | false =>
    refine ⟨?_, ?_⟩
    · simp [Draft.add, htab, h.tables]
    · -- only the first of them starts the shared entities
      by_cases hany : ∃ tab ∈ passed, tab.isTable = false
      · simp [Draft.add, htab, h.shared, settingsEntity_eq htab, hany]
      · have hnone : passed.filter (!·.isTable) = [] := by simpa using hany
        simp [Draft.add, htab, h.shared, settingsEntity_eq htab, hany, hnone]

theorem foldl (tabs : List Tab) (h : Covers restRoot passed draft) :
    Covers restRoot (passed ++ tabs) (tabs.foldl (Draft.add restRoot) draft) := by
  induction tabs generalizing passed draft with
  | nil => simpa using h
  | cons tab rest ih => simpa using ih (h.add tab)

end Draft.Covers

/-! ### The plan -/

theorem plan_eq_partition (config : Config) : plan config = partition config := by
  have h := Draft.Covers.foldl config.tabs (Draft.Covers.empty config.product.restRoot)
  rw [List.nil_append] at h
  have hservices : config.services.map (ofService config.product.restRoot) =
      config.services.map (serviceEndpoint config.product.restRoot) :=
    List.map_congr_left fun service _ => ofService_eq service
  unfold plan partition
  simp only [h.tables, h.shared, hservices]
  congr 2
  split
  · simp [settings_eq]
  · rfl

theorem flatMap_entities_map {α : Type} {endpoint : α → Endpoint} (shown : α → EndpointEntity)
    (h : ∀ item, (endpoint item).entities = [shown item]) (items : List α) :
    (items.map endpoint).flatMap (·.entities) = items.map shown := by
  rw [List.flatMap_map, List.map_eq_flatMap]
  exact List.flatMap_congr fun item _ => h item

/-- Tables and other tabs together are all tabs, in some order. -/
theorem entities_partition (config : Config) :
    ((partition config).flatMap (·.entities)).Perm
      (config.tabs.map Tab.shown ++ config.services.map Service.shown) := by
  have hshared : (if ∃ tab ∈ config.tabs, tab.isTable = false then
        [sharedEndpoint config.product.restRoot (config.tabs.filter (!·.isTable))] else []).flatMap
      (·.entities) = (config.tabs.filter (!·.isTable)).map Tab.shown := by
    split
    · simp [sharedEndpoint]
    · rename_i hnone
      have hfilter : config.tabs.filter (!·.isTable) = [] := by simpa using hnone
      rw [hfilter]
      rfl
  simp only [partition, List.flatMap_append, hshared]
  rw [flatMap_entities_map Tab.shown fun _ => rfl,
    flatMap_entities_map Service.shown fun _ => rfl, ← List.map_append]
  exact ((List.filter_append_perm _ _).map Tab.shown).append_right _

/-- The plan is the partition of tabs and services, and its entities are theirs, each one once. -/
theorem plan_partitions (config : Config) :
    plan config = partition config ∧
      ((plan config).flatMap (·.entities)).Perm
        (config.tabs.map Tab.shown ++ config.services.map Service.shown) := by
  rw [plan_eq_partition]
  exact ⟨rfl, entities_partition config⟩

end Endpoint

end AddonConfig
