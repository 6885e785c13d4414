import AddonConfig.Proofs.EndpointNames
import AddonConfig.Proofs.UnreadMembers

/-!
# What an `oauth` entity stands for

An `oauth` entity gives its tab or service the fields below it and nothing of its own (`Entity.mem_fields`),
and both the rules and the plan of endpoints see entities through their fields. So the validators of an
accepted configuration are sound at every position but one, the `oauth` entity itself, where any others
could stand in their place (`check_mapEntities`). And a tab that is right by an `oauth` entity called
`name` may be planned without a field of that name.
-/

namespace AddonConfig

namespace Entity
variable {entity : Entity} {view : FieldView}

/-- The fields below an entity, which an `oauth` entity stands for. -/
def below (entity : Entity) : List OAuthField := (entity.options.map subFields).getD []

theorem fields_oauth (h : entity.type = .oauth) :
    entity.fields = entity.below.map fun sub => ⟨sub.field, sub.label, sub.validators⟩ := by
  cases hoptions : entity.options with
  | none => simp [fields, below, h, hoptions]
  | some options => simp [fields, below, h, hoptions]

theorem fields_plain (h : entity.type ≠ .oauth) :
    entity.fields = [⟨entity.field, entity.label, entity.validators⟩] := by
  simp [fields, h]

theorem mem_fields : view ∈ entity.fields ↔
    (entity.type ≠ .oauth ∧ view = ⟨entity.field, entity.label, entity.validators⟩) ∨
      (entity.type = .oauth ∧ ∃ sub ∈ entity.below, view = ⟨sub.field, sub.label, sub.validators⟩) := by
  by_cases h : entity.type = .oauth
  · rw [fields_oauth h]
    simp [h, eq_comm]
  · rw [fields_plain h]
    simp [h]

/-- What the rules read of an entity is the same in another. -/
structure ReadAlike (a b : Entity) : Prop where
  field : a.field = b.field
  label : a.label = b.label
  fields : a.fields = b.fields
  file : checkFile a = checkFile b
  choices : a.choices = b.choices

theorem ReadAlike.checkedAlike [PatternEngine] {a b : Entity} (h : ReadAlike a b) : a.CheckedAlike b := by
  refine ⟨h.field, ?_, h.file, ?_⟩
  · rw [h.fields]
    exact List.forall₂_same.2 fun _ _ => ⟨rfl, rfl, rfl⟩
  · rw [h.label, h.choices]
    cases b.choices with
    | none => exact .none
    | some choices => exact .some rfl

/-- An `oauth` entity with other validators of its own; any other entity as it is. -/
def withOwnValidators (own : Entity → List Validator) (entity : Entity) : Entity :=
  if entity.type = .oauth then { entity with validators := own entity } else entity

theorem withOwnValidators_readAlike (own : Entity → List Validator) (entity : Entity) :
    ReadAlike (entity.withOwnValidators own) entity := by
  unfold withOwnValidators
  split
  · rename_i h
    -- the fields come from the options alone
    have hfields : Entity.fields { entity with validators := own entity } = entity.fields := by
      rw [fields_oauth h]
      exact fields_oauth h
    exact ⟨rfl, rfl, hfields, rfl, rfl⟩
  · exact ⟨rfl, rfl, rfl, rfl, rfl⟩

end Entity

/-! ### Another entity at every position -/

def Tab.mapEntities (f : Entity → Entity) (tab : Tab) : Tab := { tab with entity := tab.entity.map f }

def Service.mapEntities (f : Entity → Entity) (service : Service) : Service :=
  { service with entity := service.entity.map f }

def InputsPage.mapEntities (f : Entity → Entity) (page : InputsPage) : InputsPage :=
  { page with services := page.services.map (Service.mapEntities f) }

def Config.mapEntities (f : Entity → Entity) (config : Config) : Config :=
  { config with
    pages := ⟨config.pages.configuration.map (List.map (Tab.mapEntities f)),
      config.pages.inputs.map (InputsPage.mapEntities f)⟩ }

theorem forall₂_map_of_forall {α : Type} (R : α → α → Prop) {f : α → α} (h : ∀ a, R (f a) a) (items : List α) :
    List.Forall₂ R (items.map f) items := by
  rw [List.forall₂_map_left_iff]
  exact List.forall₂_same.2 fun a _ => h a

/-- Entities that are changed one by one stand where they were. -/
theorem Config.mapEntities_differsUnread (f : Entity → Entity) (config : Config) :
    (config.mapEntities f).DiffersUnread (fun a b => a = f b) config := by
  have hentities (entities : List Entity) : List.Forall₂ (fun a b => a = f b) (entities.map f) entities :=
    forall₂_map_of_forall (fun a b => a = f b) (fun _ => rfl) entities
  have htabs (tabs : List Tab) :
      List.Forall₂ (Tab.DiffersUnread fun a b => a = f b) (tabs.map (Tab.mapEntities f)) tabs :=
    forall₂_map_of_forall _ (fun tab => ⟨hentities tab.entity, rfl⟩) tabs
  have hpage (page : InputsPage) : (page.mapEntities f).DiffersUnread (fun a b => a = f b) page :=
    ⟨forall₂_map_of_forall _ (fun service => ⟨hentities service.entity, rfl, rfl, rfl, rfl⟩) page.services, rfl⟩
  obtain ⟨product, configuration, inputs⟩ := config
  constructor
  · cases configuration with
    | none => exact .none
    | some tabs => exact .some (htabs tabs)
  · cases inputs with
    | none => exact .none
    | some page => exact .some (hpage page)

/-- The rules find the same in configurations whose entities they read alike. -/
theorem Config.check_mapEntities [PatternEngine] {f : Entity → Entity}
    (alike : ∀ entity, Entity.ReadAlike (f entity) entity) (config : Config) : (config.mapEntities f).check = config.check := by
  refine Config.check_congr (fun a b hab => ?_) (config.mapEntities_differsUnread f)
  rw [hab]
  exact (alike b).checkedAlike

/-! ### The validators of an accepted configuration -/

namespace Config
variable {config : Config}

/-- The entities of all tabs and services. -/
def entities (config : Config) : List Entity :=
  config.tabs.flatMap (·.entity) ++ config.services.flatMap (·.entity)

variable [PatternEngine]

theorem tabsOk (accepted : config.check = .ok ()) {tab : Tab} (h : tab ∈ config.tabs) : TabsOk config.tabs := by
  unfold Config.tabs at h ⊢
  cases htabs : config.pages.configuration with
  | none => simp [htabs] at h
  | some tabs => exact (check_eq_ok.1 accepted).1 tabs htabs

theorem pageOk (accepted : config.check = .ok ()) {service : Service} (h : service ∈ config.services) :
    ∃ page : InputsPage, page.Ok ∧ config.services = page.services := by
  unfold Config.services at h ⊢
  cases hpage : config.pages.inputs with
  | none => simp [hpage] at h
  | some page => exact ⟨page, (check_eq_ok.1 accepted).2 page hpage, rfl⟩

theorem service_entitiesOk (accepted : config.check = .ok ()) {service : Service}
    (h : service ∈ config.services) : EntitiesOk service.entity := by
  obtain ⟨page, hok, hservices⟩ := pageOk accepted h
  exact hok.entities service (hservices ▸ h)

theorem view_validator_ok (accepted : config.check = .ok ()) {entity : Entity} (he : entity ∈ config.entities)
    {view : FieldView} (hview : view ∈ entity.fields) {validator : Validator} (hv : validator ∈ view.validators) :
    validator.check view.field = .ok () := by
  rw [Validator.check_eq_ok]
  rcases List.mem_append.1 he with he | he
  · obtain ⟨tab, htab, he⟩ := List.mem_flatMap.1 he
    exact ((tabsOk accepted htab).entities tab htab).validators entity he view hview validator hv
  · obtain ⟨service, hservice, he⟩ := List.mem_flatMap.1 he
    exact (service_entitiesOk accepted hservice).validators entity he view hview validator hv

end Config

/-- In an accepted configuration the validators of every entity pass, those of the fields below it where it
is an `oauth` entity. The validators of `oauth` entities themselves do not matter: with any others in their
place the configuration is accepted as well. -/
theorem attached_validators_pass [PatternEngine] (config : Config) (accepted : config.check = .ok ()) :
    (∀ entity ∈ config.entities, entity.type ≠ .oauth → ∀ validator ∈ entity.validators,
      validator.check entity.field = .ok ()) ∧
    (∀ entity ∈ config.entities, entity.type = .oauth → ∀ sub ∈ entity.below, ∀ validator ∈ sub.validators,
      validator.check sub.field = .ok ()) ∧
    ∀ own : Entity → List Validator, (config.mapEntities (Entity.withOwnValidators own)).check = .ok () := by
  refine ⟨?plain, ?below, ?own⟩
  case plain =>
    intro entity he htype validator hv
    have hview : ⟨entity.field, entity.label, entity.validators⟩ ∈ entity.fields :=
      Entity.mem_fields.2 (.inl ⟨htype, rfl⟩)
    exact Config.view_validator_ok accepted he hview hv
  case below =>
    intro entity he htype sub hsub validator hv
    have hview : ⟨sub.field, sub.label, sub.validators⟩ ∈ entity.fields :=
      Entity.mem_fields.2 (.inr ⟨htype, sub, hsub, rfl⟩)
    exact Config.view_validator_ok accepted he hview hv
  case own =>
    intro own
    rw [Config.check_mapEntities (Entity.withOwnValidators_readAlike own), accepted]

/-- An `oauth` entity with validators of its own and the fields `oauth` below it. -/
def oauthEntity (field : String) (own : List Validator) (oauth : List OAuthField) : Entity :=
  ⟨field, "Authentication", .oauth, none, none, none, own,
    some ⟨none, none, none, none, some oauth, none, none, []⟩⟩

def clientId : OAuthField := ⟨"client_id", "Client Id", "client_id", none, [.string (some 1) (some 50) none]⟩

/-- A tab of its own entity `name` and an `oauth` entity. -/
def oauthTab (own : List Validator) : Tab :=
  ⟨"account", "Account", [sampleEntity, oauthEntity "oauth" own [clientId]], some ⟨[], []⟩, none⟩

theorem clientId_validators_pass :
    (∀ [PatternEngine], (sampleConfig [oauthTab []] []).check = .ok ()) ∧
      ∀ [PatternEngine], ∀ validator ∈ clientId.validators, validator.check "client_id" = .ok () := by
  refine ⟨rfl, ?_⟩
  intro
  have haccepted : (sampleConfig [oauthTab []] []).check = .ok () := rfl
  exact (attached_validators_pass _ haccepted).2.1 (oauthEntity "oauth" [] [clientId])
    (by simp [Config.entities, Config.tabs, sampleConfig, oauthTab]) rfl clientId
    (by simp [Entity.below, oauthEntity, Entity.subFields])

/-- A range of one bound at an `oauth` entity itself passes unseen. -/
theorem oauth_validator_unchecked :
    ¬ ∃ _ : PatternEngine, ∀ config : Config, config.check = .ok () → ∀ entity ∈ config.entities,
      ∀ validator ∈ entity.validators, validator.check entity.field = .ok () := by
  rintro ⟨_, h⟩
  have hrange : Validator.check "oauth" (.number [.ofInt 5] none) = .ok () :=
    h (sampleConfig [oauthTab [.number [.ofInt 5] none]] []) rfl
      (oauthEntity "oauth" [.number [.ofInt 5] none] [clientId])
      (by simp [Config.entities, Config.tabs, sampleConfig, oauthTab]) (.number [.ofInt 5] none)
      (by simp [oauthEntity])
  simp [Validator.check, checkRange] at hrange

/-! ### The field that names the rows of a tab -/

theorem Entity.shownFields_eq (entity : Entity) : entity.shownFields = entity.fields.map (·.field) := by
  have h := Endpoint.fieldNamesOf_eq [entity]
  rw [fieldNamesOf, List.flatMap_singleton, List.flatMap_singleton] at h
  exact h.symm

theorem Entity.mem_shownFields {entity : Entity} {field : String} : field ∈ entity.shownFields ↔
    (entity.type ≠ .oauth ∧ entity.field = field) ∨
      (entity.type = .oauth ∧ ∃ sub ∈ entity.below, sub.field = field) := by
  rw [shownFields_eq, List.mem_map]
  constructor
  · rintro ⟨view, hview, rfl⟩
    rcases mem_fields.1 hview with ⟨htype, rfl⟩ | ⟨htype, sub, hsub, rfl⟩
    · exact .inl ⟨htype, rfl⟩
    · exact .inr ⟨htype, sub, hsub, rfl⟩
  · rintro (⟨htype, rfl⟩ | ⟨htype, sub, hsub, rfl⟩)
    · exact ⟨_, mem_fields.2 (.inl ⟨htype, rfl⟩), rfl⟩
    · exact ⟨_, mem_fields.2 (.inr ⟨htype, sub, hsub, rfl⟩), rfl⟩

theorem Tab.mem_shown_fields {tab : Tab} {field : String} : field ∈ tab.shown.fields ↔
    ∃ entity ∈ tab.entity, (entity.type ≠ .oauth ∧ entity.field = field) ∨
      (entity.type = .oauth ∧ ∃ sub ∈ entity.below, sub.field = field) := by
  simp only [Tab.shown, List.mem_flatMap, Entity.mem_shownFields]

/-- The endpoints that serve no service hold tabs. -/
theorem Endpoint.entities_of_tabs {config : Config} {endpoint : Endpoint} (h : endpoint ∈ plan config)
    (hkind : endpoint.kind ≠ .dataInput) {model : EndpointEntity} (hmodel : model ∈ endpoint.entities) :
    ∃ tab ∈ config.tabs, model = tab.shown := by
  rw [plan_eq_partition, partition] at h
  simp only [List.mem_append, List.mem_map, List.mem_filter] at h
  rcases h with (⟨tab, ⟨htab, -⟩, rfl⟩ | hshared) | ⟨service, -, rfl⟩
  · exact ⟨tab, htab, List.mem_singleton.1 hmodel⟩
  · split at hshared
    · rw [List.mem_singleton.1 hshared] at hmodel
      obtain ⟨tab, htab, rfl⟩ := List.mem_map.1 hmodel
      exact ⟨tab, (List.mem_filter.1 htab).1, rfl⟩
    · exact absurd hshared List.not_mem_nil
  · exact absurd rfl hkind

/-- Every planned entity that is not a service's is that of a tab. Among its fields is `name` if an entity
of the tab other than an `oauth` one, or a field below an `oauth` one, is called so, as is always the case
where no `oauth` entity is called `name`. -/
theorem planned_tab_named [PatternEngine] (config : Config) (accepted : config.check = .ok ()) :
    ∀ endpoint ∈ Endpoint.plan config, endpoint.kind ≠ .dataInput → ∀ model ∈ endpoint.entities,
      ∃ tab ∈ config.tabs, model = tab.shown ∧
        ("name" ∈ model.fields ↔ ∃ entity ∈ tab.entity, (entity.type ≠ .oauth ∧ entity.field = "name") ∨
          (entity.type = .oauth ∧ ∃ sub ∈ entity.below, sub.field = "name")) ∧
        ((∀ entity ∈ tab.entity, entity.type = .oauth → entity.field ≠ "name") → "name" ∈ model.fields) := by
  intro endpoint hendpoint hkind model hmodel
  obtain ⟨tab, htab, rfl⟩ := Endpoint.entities_of_tabs hendpoint hkind hmodel
  refine ⟨tab, htab, rfl, Tab.mem_shown_fields, fun hother => ?_⟩
  obtain ⟨entity, he, hname⟩ := (Config.tabsOk accepted htab).named tab htab
  have htype : entity.type ≠ .oauth := fun h => hother entity he h hname
  exact Tab.mem_shown_fields.2 ⟨entity, he, .inl ⟨htype, hname⟩⟩

theorem account_named :
    (∀ [PatternEngine], (sampleConfig [oauthTab []] []).check = .ok ()) ∧
      "name" ∈ (oauthTab []).shown.fields := by
  obtain ⟨tab, htab, hmodel, -, hnamed⟩ := @planned_tab_named .refusing (sampleConfig [oauthTab []] []) rfl
    (Endpoint.tableEndpoint "addon" (oauthTab [])) (by decide) (by decide) (oauthTab []).shown
    (List.mem_singleton_self _)
  rw [List.mem_singleton.1 htab] at hnamed
  exact ⟨rfl, hnamed (by decide)⟩

/-- A tab whose only entity called `name` is an `oauth` entity is accepted and planned with the field below it
alone. -/
theorem oauth_name_not_planned :
    ¬ ∃ _ : PatternEngine, ∀ config : Config, config.check = .ok () → ∀ endpoint ∈ Endpoint.plan config,
      endpoint.kind ≠ .dataInput → ∀ model ∈ endpoint.entities, "name" ∈ model.fields := by
  rintro ⟨_, h⟩
  let tab : Tab := ⟨"account", "Account", [oauthEntity "name" [] [clientId]], some ⟨[], []⟩, none⟩
  have hname : "name" ∈ tab.shown.fields :=
    h (sampleConfig [tab] []) rfl (Endpoint.tableEndpoint "addon" tab) (by decide) (by decide) tab.shown
      (List.mem_singleton_self _)
  revert hname
  decide

end AddonConfig
