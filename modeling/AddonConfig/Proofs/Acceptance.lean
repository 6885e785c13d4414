import AddonConfig.Proofs.Checks

/-!
# What an accepted configuration is

`Config.Ok` says which configurations are right, in terms of the document and its patterns: which members are
there, which names differ, which names refer to what. `check_eq_ok` lemmas tie each rule to its part of
it, and `accepted_iff_ok` says that exactly these configurations are accepted.
-/

namespace AddonConfig

section
variable [PatternEngine]

/-- The parameters of a validator agree with one another. -/
def Validator.Ok : Validator → Prop
  | .string (some least) (some greatest) _ => least ≤ greatest
  | .number range _ => ∃ low high, range = [low, high] ∧ high.lt low = false
  | .regex pattern _ => PatternEngine.compiles pattern = true
  | _ => True

/-- Choices that can be told apart, by value and by label. -/
structure ChildrenOk (children : List Choice) : Prop where
  values : (children.map (·.value.display)).Nodup
  labels : (children.map (·.label)).Nodup

/-- Next to a group, labels differ and so do the children of each group; a list without groups is
one set of children. -/
def ChoicesOk (choices : List Choice) : Prop :=
  if ∃ choice ∈ choices, choice.children.isSome then
    (choices.map (·.label)).Nodup ∧
      ∀ choice ∈ choices, ∀ children, choice.children = some children → ChildrenOk children
  else ChildrenOk choices

/-- The entities of a tab or service. -/
structure EntitiesOk (entities : List Entity) : Prop where
  files : ∀ entity ∈ entities, entity.type = .file →
    ∃ options, entity.options = some options ∧ options.supportedFileTypes.isSome
  validators : ∀ entity ∈ entities, ∀ view ∈ entity.fields, ∀ validator ∈ view.validators, validator.Ok
  fields : ((entities.flatMap Entity.fields).map (·.field)).Nodup
  labels : ((entities.flatMap Entity.fields).map (·.label)).Nodup
  choices : ∀ entity ∈ entities, ∀ choices, entity.choices = some choices → ChoicesOk choices

/-- A service names no handler, or one by name alone, or one by module and class alone. -/
def Service.HandlerOk (service : Service) : Prop :=
  (service.restHandlerName = none ∧ service.restHandlerModule = none ∧ service.restHandlerClass = none) ∨
  (service.restHandlerName.isSome ∧ service.restHandlerModule = none ∧ service.restHandlerClass = none) ∨
  (service.restHandlerName = none ∧ service.restHandlerModule.isSome ∧ service.restHandlerClass.isSome)

/-- A group lists names of services, or else has the name and the title of services. -/
structure MenuGroup.Ok (services : List Service) (group : MenuGroup) : Prop where
  listed : ∀ names, group.serviceNames = some names →
    ∀ name ∈ names, ∃ service ∈ services, service.name = name
  direct : group.serviceNames = none →
    (∃ service ∈ services, service.name = group.groupName) ∧
      ∃ service ∈ services, service.title = group.groupTitle

structure MenuOk (services : List Service) (groups : List MenuGroup) : Prop where
  alone : ∀ group ∈ groups, group.Ok services
  names : (groups.map (·.groupName)).Nodup
  titles : (groups.map (·.groupTitle)).Nodup

structure TabsOk (tabs : List Tab) : Prop where
  nonempty : tabs ≠ []
  named : ∀ tab ∈ tabs, ∃ entity ∈ tab.entity, entity.field = "name"
  entities : ∀ tab ∈ tabs, EntitiesOk tab.entity
  names : (tabs.map (·.name)).Nodup
  titles : (tabs.map (·.title)).Nodup

structure InputsPage.Ok (page : InputsPage) : Prop where
  entities : ∀ service ∈ page.services, EntitiesOk service.entity
  names : (page.services.map (·.name)).Nodup
  titles : (page.services.map (·.title)).Nodup
  handlers : ∀ service ∈ page.services, service.HandlerOk
  menu : ∀ groups, page.multiLevelMenu = some groups → MenuOk page.services groups

/-- The pages that are there are right. -/
structure Config.Ok (config : Config) : Prop where
  tabs : ∀ tabs, config.pages.configuration = some tabs → TabsOk tabs
  inputs : ∀ page, config.pages.inputs = some page → page.Ok

end

/-! ### Files, choices, handlers and menus -/

theorem checkFile_eq_ok (entity : Entity) :
    checkFile entity = .ok () ↔ (entity.type = .file →
      ∃ options, entity.options = some options ∧ options.supportedFileTypes.isSome) := by
  by_cases hfile : entity.type = .file
  · cases hoptions : entity.options with
    | none => simp [checkFile, Entity.isFile, hfile, hoptions]
    | some options =>
      cases htypes : options.supportedFileTypes <;>
        simp [checkFile, Entity.isFile, hfile, hoptions, htypes]
  · simp [checkFile, Entity.isFile, hfile]

theorem checkChildren_eq_ok (entity : String) (children : List Choice) :
    checkChildren entity children = .ok () ↔ ChildrenOk children := by
  rw [checkChildren, ensureDistinct_eq_ok, List.append_eq_nil_iff, findDuplicates_eq_nil_iff,
    findDuplicates_eq_nil_iff]
  exact ⟨fun ⟨values, labels⟩ => ⟨values, labels⟩, fun h => ⟨h.values, h.labels⟩⟩

theorem mem_choiceGroups {choices : List Choice} {children : List Choice} :
    children ∈ choiceGroups choices ↔ ∃ choice ∈ choices, choice.children = some children := by
  simp [choiceGroups]

theorem choiceGroups_eq_nil_iff {choices : List Choice} :
    choiceGroups choices = [] ↔ ¬ ∃ choice ∈ choices, choice.children.isSome := by
  simp [choiceGroups]

theorem checkChoices_eq_ok (entity : String) (choices : List Choice) :
    checkChoices entity choices = .ok () ↔ ChoicesOk choices := by
  unfold checkChoices ChoicesOk
  split
  · rename_i hnil
    rw [if_neg (choiceGroups_eq_nil_iff.1 hnil), checkChildren_eq_ok]
  · rename_i hne
    have hgroup : ∃ choice ∈ choices, choice.children.isSome :=
      not_not.1 fun h => hne (choiceGroups_eq_nil_iff.2 h)
    -- the children are checked before the labels
    rw [if_pos hgroup, Check.bind_eq_ok, Check.forM_eq_ok, checkGroupLabels, ensureDistinct_eq_ok,
      findDuplicates_eq_nil_iff, and_comm]
    simp only [checkChildren_eq_ok, mem_choiceGroups]
    refine and_congr_right fun _ => ?_
    constructor
    · intro h choice hc children hch
      exact h children ⟨choice, hc, hch⟩
    · rintro h children ⟨choice, hc, hch⟩
      exact h choice hc children hch

theorem checkEntityKeys_eq_ok (entities : List Entity) :
    checkEntityKeys entities = .ok () ↔
      (((entities.flatMap Entity.fields).map (·.field)).Nodup ∧
        ((entities.flatMap Entity.fields).map (·.label)).Nodup) ∧
      ∀ entity ∈ entities, ∀ choices, entity.choices = some choices → ChoicesOk choices := by
  rw [checkEntityKeys, Check.bind_eq_ok, checkFieldKeys, ensureDistinct_pair_eq_ok, Check.forM_eq_ok]
  refine and_congr_right fun _ => forall₂_congr fun entity _ => ?_
  cases entity.choices with
  | none => simp
  | some choices => simp [checkChoices_eq_ok]

theorem Service.checkHandler_eq_ok (service : Service) :
    service.checkHandler = .ok () ↔ service.HandlerOk := by
  unfold Service.checkHandler Service.HandlerOk
  cases service.restHandlerName <;> cases service.restHandlerModule <;>
    cases service.restHandlerClass <;> simp

theorem checkReference_eq_ok (services : List Service) (name : String) :
    checkReference services name = .ok () ↔ ∃ service ∈ services, service.name = name := by
  simp [checkReference]

theorem checkIdentity_eq_ok (services : List Service) (group : MenuGroup) :
    checkIdentity services group = .ok () ↔
      (∃ service ∈ services, service.name = group.groupName) ∧
        ∃ service ∈ services, service.title = group.groupTitle := by
  unfold checkIdentity
  split
  · rename_i h
    simpa using h
  · rename_i h
    simpa using h

theorem MenuGroup.check_eq_ok (services : List Service) (group : MenuGroup) :
    group.check services = .ok () ↔ group.Ok services := by
  unfold MenuGroup.check
  split
  · rename_i names hnames
    simp only [Check.forM_eq_ok, checkReference_eq_ok]
    constructor
    · intro h
      refine ⟨fun names' hnames' => ?_, fun hnone => ?_⟩
      · obtain rfl := Option.some.inj (hnames.symm.trans hnames')
        exact h
      · simp [hnames] at hnone
    · intro h
      exact h.listed names hnames
  · rename_i hnone
    rw [checkIdentity_eq_ok]
    constructor
    · intro h
      exact ⟨fun names hnames => by simp [hnone] at hnames, fun _ => h⟩
    · intro h
      exact h.direct hnone

theorem checkMenu_eq_ok (services : List Service) (groups : List MenuGroup) :
    checkMenu services groups = .ok () ↔ MenuOk services groups := by
  rw [checkMenu, Check.bind_eq_ok, Check.forM_eq_ok, checkMenuKeys, ensureDistinct_pair_eq_ok]
  simp only [MenuGroup.check_eq_ok]
  exact ⟨fun ⟨alone, names, titles⟩ => ⟨alone, names, titles⟩,
    fun h => ⟨h.alone, h.names, h.titles⟩⟩

/-! ### Entities and pages -/

variable [PatternEngine]

theorem Validator.check_eq_ok (field : String) (validator : Validator) :
    validator.check field = .ok () ↔ validator.Ok := by
  cases validator with
  | string least greatest errorMsg =>
    cases least with
    | none => simp [Validator.check, checkLengths, Validator.Ok]
    | some least =>
      cases greatest with
      | none => simp [Validator.check, checkLengths, Validator.Ok]
      | some greatest => simp [Validator.check, checkLengths, Validator.Ok]
  | number range errorMsg =>
    match range with
    | [] | [_] | _ :: _ :: _ :: _ => simp [Validator.check, checkRange, Validator.Ok]
    | [low, high] => simp [Validator.check, checkRange, Validator.Ok]
  | regex pattern errorMsg => simp [Validator.check, checkPattern, Validator.Ok]
  | email | ipv4 | date | url | other => simp [Validator.check, Validator.Ok]

theorem Entity.check_eq_ok (entity : Entity) :
    entity.check = .ok () ↔ checkFile entity = .ok () ∧
      ∀ view ∈ entity.fields, ∀ validator ∈ view.validators, validator.Ok := by
  simp only [Entity.check, Check.bind_eq_ok, Check.forM_eq_ok, FieldView.check, Validator.check_eq_ok]

theorem checkEntities_eq_ok (entities : List Entity) :
    checkEntities entities = .ok () ↔ EntitiesOk entities := by
  rw [checkEntities, Check.bind_eq_ok, Check.forM_eq_ok, checkEntityKeys_eq_ok]
  simp only [Entity.check_eq_ok, checkFile_eq_ok]
  constructor
  · rintro ⟨alone, ⟨fields, labels⟩, choices⟩
    exact ⟨fun e he => (alone e he).1, fun e he => (alone e he).2, fields, labels, choices⟩
  · intro h
    exact ⟨fun e he => ⟨h.files e he, h.validators e he⟩, ⟨h.fields, h.labels⟩, h.choices⟩

theorem Tab.check_eq_ok (tab : Tab) :
    tab.check = .ok () ↔ (∃ entity ∈ tab.entity, entity.field = "name") ∧ EntitiesOk tab.entity := by
  rw [Tab.check, Check.bind_eq_ok, checkEntities_eq_ok]
  refine and_congr_left fun _ => ?_
  simp [Tab.checkName, nameField]

theorem checkTabs_eq_ok (tabs : List Tab) : checkTabs tabs = .ok () ↔ TabsOk tabs := by
  rw [checkTabs, Check.bind_eq_ok, Check.bind_eq_ok, Check.forM_eq_ok, checkTabKeys,
    ensureDistinct_pair_eq_ok]
  simp only [Tab.check_eq_ok]
  have hcount : checkTabCount tabs = .ok () ↔ tabs ≠ [] := by simp [checkTabCount]
  rw [hcount]
  constructor
  · rintro ⟨nonempty, alone, names, titles⟩
    exact ⟨nonempty, fun t ht => (alone t ht).1, fun t ht => (alone t ht).2, names, titles⟩
  · intro h
    exact ⟨h.nonempty, fun t ht => ⟨h.named t ht, h.entities t ht⟩, h.names, h.titles⟩

theorem InputsPage.check_eq_ok (page : InputsPage) : page.check = .ok () ↔ page.Ok := by
  rw [InputsPage.check, Check.bind_eq_ok, Check.bind_eq_ok, Check.bind_eq_ok, Check.forM_eq_ok,
    Check.forM_eq_ok, checkServiceKeys, ensureDistinct_pair_eq_ok]
  simp only [checkEntities_eq_ok, Service.checkHandler_eq_ok]
  refine (and_congr_right fun _ => and_congr_right fun _ => and_congr_right fun _ =>
    (?menu : _ ↔ ∀ groups, page.multiLevelMenu = some groups → MenuOk page.services groups)).trans ?_
  case menu =>
    cases page.multiLevelMenu with
    | none => simp
    | some groups => simp [checkMenu_eq_ok]
  constructor
  · rintro ⟨entities, ⟨names, titles⟩, handlers, menu⟩
    exact ⟨entities, names, titles, handlers, menu⟩
  · intro h
    exact ⟨h.entities, ⟨h.names, h.titles⟩, h.handlers, h.menu⟩

theorem Config.check_eq_ok {config : Config} :
    config.check = .ok () ↔ (∀ tabs, config.pages.configuration = some tabs → TabsOk tabs) ∧
      ∀ page, config.pages.inputs = some page → page.Ok := by
  simp only [← checkTabs_eq_ok, ← InputsPage.check_eq_ok]
  unfold Config.check
  cases config.pages.configuration with
  | none =>
    cases config.pages.inputs with
    | none => simp [Check.bind_eq_ok]
    | some page => simp [Check.bind_eq_ok]
  | some tabs =>
    cases config.pages.inputs with
    | none => simp [Check.bind_eq_ok]
    | some page => simp [Check.bind_eq_ok]

theorem Config.ok_iff {config : Config} :
    config.Ok ↔ (∀ tabs, config.pages.configuration = some tabs → TabsOk tabs) ∧
      ∀ page, config.pages.inputs = some page → page.Ok :=
  ⟨fun h => ⟨h.tabs, h.inputs⟩, fun ⟨tabs, inputs⟩ => ⟨tabs, inputs⟩⟩

theorem Config.tab_names_nodup (config : Config) (accepted : config.check = .ok ()) :
    (config.tabs.map (·.name)).Nodup := by
  unfold Config.tabs
  cases htabs : config.pages.configuration with
  | none => exact List.nodup_nil
  | some tabs => exact ((check_eq_ok.1 accepted).1 tabs htabs).names

theorem Config.service_names_nodup (config : Config) (accepted : config.check = .ok ()) :
    (config.services.map (·.name)).Nodup := by
  unfold Config.services
  cases hpage : config.pages.inputs with
  | none => exact List.nodup_nil
  | some page => exact ((check_eq_ok.1 accepted).2 page hpage).names

/-- The configurations in which no rule finds a defect are the right ones. -/
theorem Config.accepted_iff_ok (config : Config) : config.check = .ok () ↔ config.Ok := by
  rw [Config.check_eq_ok, Config.ok_iff]

end AddonConfig
