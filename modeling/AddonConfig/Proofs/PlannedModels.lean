import AddonConfig.Proofs.OauthEntities

/-!
# What endpoints show of their owners

The entities of a plan are those of tabs and services (`Endpoint.mem_models`), so the fields of an accepted
configuration are planned without repetition. The field that switches an entity off is added behind them
unseen: `disabled` stands there twice where its owner declares it too.

An endpoint of a service has the handler that the service names. `Handler.Keeps` says that nothing of it is
lost, and the rule on handlers accepts exactly the services of which that is true.
-/

namespace AddonConfig

/-! ### Field names -/

theorem Endpoint.mem_models {config : Config} {model : EndpointEntity} :
    model ∈ (plan config).flatMap (·.entities) ↔
      (∃ tab ∈ config.tabs, tab.shown = model) ∨ ∃ service ∈ config.services, service.shown = model := by
  rw [plan_eq_partition, (entities_partition config).mem_iff, List.mem_append, List.mem_map, List.mem_map]

theorem EntitiesOk.shownFields_nodup [PatternEngine] {entities : List Entity} (h : EntitiesOk entities) :
    (entities.flatMap Entity.shownFields).Nodup := by
  rw [← Endpoint.fieldNamesOf_eq]
  exact h.fields

theorem Config.planned_fields_nodup [PatternEngine] {config : Config} (accepted : config.check = .ok ())
    {model : EndpointEntity} (h : model ∈ (Endpoint.plan config).flatMap (·.entities)) : model.fields.Nodup := by
  rcases Endpoint.mem_models.1 h with ⟨tab, htab, rfl⟩ | ⟨service, hservice, rfl⟩
  · exact ((tabsOk accepted htab).entities tab htab).shownFields_nodup
  · exact (service_entitiesOk accepted hservice).shownFields_nodup

theorem EndpointEntity.fieldNames_nodup_iff {model : EndpointEntity} (h : model.fields.Nodup) :
    model.fieldNames.Nodup ↔ ¬ (model.supportsDisablement = true ∧ "disabled" ∈ model.fields) := by
  cases hsupports : model.supportsDisablement with
  | false =>
    have hnames : model.fieldNames = model.fields := by simp [fieldNames, hsupports]
    rw [hnames]
    simp [h]
  | true =>
    have hnames : model.fieldNames = model.fields ++ ["disabled"] := by simp [fieldNames, hsupports, disabledField]
    rw [hnames, ← List.concat_eq_append, List.nodup_concat]
    simp [h]

/-- No entity of an accepted configuration's plan has a declared field twice. Its field names repeat one only
where it can be switched off and declares a field `disabled` itself. -/
theorem planned_field_names_nodup_iff [PatternEngine] (config : Config) (accepted : config.check = .ok ()) :
    ∀ endpoint ∈ Endpoint.plan config, ∀ model ∈ endpoint.entities,
      model.fields.Nodup ∧
        (model.fieldNames.Nodup ↔ ¬ (model.supportsDisablement = true ∧ "disabled" ∈ model.fields)) := by
  intro endpoint hendpoint model hmodel
  have hfields : model.fields.Nodup :=
    config.planned_fields_nodup accepted (List.mem_flatMap.2 ⟨endpoint, hendpoint, hmodel⟩)
  exact ⟨hfields, EndpointEntity.fieldNames_nodup_iff hfields⟩

/-- An author's own field of the name that is added where an entity can be switched off. -/
def disabledEntity : Entity := ⟨"disabled", "Disabled", .checkbox, none, none, none, [], none⟩

/-- A table that declares the field and cannot be switched off, as it has no file of its own. -/
def disabledTable : Tab := ⟨"account", "Account", [sampleEntity, disabledEntity], some ⟨[], []⟩, none⟩

theorem disabledTable_field_names_nodup :
    (∀ [PatternEngine], (sampleConfig [disabledTable] [sampleService "input"]).check = .ok ()) ∧
      disabledTable.shown.fieldNames.Nodup := by
  have h := @planned_field_names_nodup_iff .refusing (sampleConfig [disabledTable] [sampleService "input"]) rfl
    (Endpoint.tableEndpoint "addon" disabledTable) (by decide) disabledTable.shown (List.mem_singleton_self _)
  exact ⟨rfl, h.2.2 (by decide)⟩

/-- A service is always switched off by a field `disabled`; with one that it declares there are two. -/
theorem field_names_not_nodup :
    ¬ ∃ _ : PatternEngine, ∀ config : Config, config.check = .ok () → ∀ endpoint ∈ Endpoint.plan config,
      ∀ model ∈ endpoint.entities, model.fieldNames.Nodup := by
  rintro ⟨_, h⟩
  let service : Service := ⟨"input", "Input", [sampleEntity, disabledEntity], none, none, none, none⟩
  let config : Config := ⟨⟨"addon", "addon", "1.0.0", "Addon", none⟩, ⟨none, some ⟨none, [service], none⟩⟩⟩
  have hnames : service.shown.fieldNames.Nodup :=
    h config rfl (Endpoint.serviceEndpoint "addon" service) (by decide) service.shown
      (List.mem_singleton_self _)
  revert hnames
  decide

/-! ### Handlers -/

/-- Whatever handler members a service has, they stand in the handler. -/
structure Handler.Keeps (handler : Handler) (service : Service) : Prop where
  name : ∀ name, service.restHandlerName = some name → handler = .named name
  inModule : ∀ inModule, service.restHandlerModule = some inModule → ∃ ofClass, handler = .custom inModule ofClass
  ofClass : ∀ ofClass, service.restHandlerClass = some ofClass → ∃ inModule, handler = .custom inModule ofClass

/-- A service has at least one of the three handler members. -/
def Service.DeclaresHandler (service : Service) : Prop :=
  service.restHandlerName.isSome ∨ service.restHandlerModule.isSome ∨ service.restHandlerClass.isSome

namespace Handler
variable {restRoot : String} {service : Service}

theorem keeps_named {carried : String} : (named carried).Keeps service ↔
    (∀ name, service.restHandlerName = some name → carried = name) ∧
      service.restHandlerModule = none ∧ service.restHandlerClass = none := by
  constructor
  · intro h
    refine ⟨fun name hname => Handler.named.inj (h.name name hname), ?_, ?_⟩
    · rw [Option.eq_none_iff_forall_ne_some]
      intro inModule hmodule
      obtain ⟨ofClass, hcustom⟩ := h.inModule inModule hmodule
      cases hcustom
    · rw [Option.eq_none_iff_forall_ne_some]
      intro ofClass hclass
      obtain ⟨inModule, hcustom⟩ := h.ofClass ofClass hclass
      cases hcustom
  · rintro ⟨hname, hmodule, hclass⟩
    exact ⟨fun name h => congrArg named (hname name h), by simp [hmodule], by simp [hclass]⟩

theorem keeps_custom {inModule ofClass : String} : (custom inModule ofClass).Keeps service ↔
    service.restHandlerName = none ∧
      (∀ declared, service.restHandlerModule = some declared → inModule = declared) ∧
      ∀ declared, service.restHandlerClass = some declared → ofClass = declared := by
  constructor
  · intro h
    refine ⟨?_, fun declared hmodule => ?_, fun declared hclass => ?_⟩
    · rw [Option.eq_none_iff_forall_ne_some]
      intro name hname
      cases h.name name hname
    · obtain ⟨_, hcustom⟩ := h.inModule declared hmodule
      exact (Handler.custom.inj hcustom).1
    · obtain ⟨_, hcustom⟩ := h.ofClass declared hclass
      exact (Handler.custom.inj hcustom).2
  · rintro ⟨hname, hmodule, hclass⟩
    refine ⟨by simp [hname], fun declared h => ⟨ofClass, ?_⟩, fun declared h => ⟨inModule, ?_⟩⟩
    · rw [hmodule declared h]
    · rw [hclass declared h]

theorem ofService_name {name : String} (h : service.restHandlerName = some name) :
    ofService restRoot service = .named name := by
  simp [ofService, h]

theorem ofService_custom {inModule ofClass : String} (hname : service.restHandlerName = none)
    (hmodule : service.restHandlerModule = some inModule) (hclass : service.restHandlerClass = some ofClass) :
    ofService restRoot service = .custom inModule ofClass := by
  simp [ofService, hname, hmodule, hclass]

/-- The generated handler stands in for a missing part as well. -/
theorem ofService_generated (hname : service.restHandlerName = none)
    (hpart : service.restHandlerModule = none ∨ service.restHandlerClass = none) :
    ofService restRoot service = .named (restRoot ++ "_rh_" ++ service.name) := by
  rcases hpart with hmodule | hclass
  · simp [ofService, hname, hmodule, generated]
  · cases hmodule : service.restHandlerModule <;> simp [ofService, hname, hmodule, hclass, generated]

/-- The three ways in which a service is right are those in which its handler holds all that it declares. -/
theorem keeps_ofService_iff : (ofService restRoot service).Keeps service ↔ service.HandlerOk := by
  cases hname : service.restHandlerName with
  | some name =>
    rw [ofService_name hname, keeps_named]
    simp [Service.HandlerOk, hname]
  | none =>
    cases hmodule : service.restHandlerModule with
    | none =>
      rw [ofService_generated hname (.inl hmodule), keeps_named]
      simp [Service.HandlerOk, hname, hmodule]
    | some inModule =>
      cases hclass : service.restHandlerClass with
      | none =>
        rw [ofService_generated hname (.inr hclass), keeps_named]
        simp [Service.HandlerOk, hname, hmodule, hclass]
      | some ofClass =>
        rw [ofService_custom hname hmodule hclass, keeps_custom]
        simp [Service.HandlerOk, hname, hmodule, hclass]

theorem ofService_undeclared (h : ¬ service.DeclaresHandler) :
    ofService restRoot service = .named (restRoot ++ "_rh_" ++ service.name) := by
  simp only [Service.DeclaresHandler, not_or, Option.not_isSome_iff_eq_none] at h
  exact ofService_generated h.1 (.inl h.2.1)

/-- What a right service declares is carried under any namespace, so it is not the generated handler. -/
theorem ofService_declared (hok : service.HandlerOk) (h : service.DeclaresHandler) (other : String) :
    ofService other service = ofService restRoot service := by
  rcases hok with ⟨hname, hmodule, hclass⟩ | ⟨hname, -, -⟩ | ⟨hname, hmodule, hclass⟩
  · simp [Service.DeclaresHandler, hname, hmodule, hclass] at h
  · obtain ⟨name, hname⟩ := Option.isSome_iff_exists.1 hname
    rw [ofService_name hname, ofService_name hname]
  · obtain ⟨inModule, hmodule⟩ := Option.isSome_iff_exists.1 hmodule
    obtain ⟨ofClass, hclass⟩ := Option.isSome_iff_exists.1 hclass
    rw [ofService_custom hname hmodule hclass, ofService_custom hname hmodule hclass]

end Handler

/-- All endpoints but the one that tabs share are of tables or services. -/
theorem Endpoint.filter_plan (config : Config) {kind : EndpointKind} (hkind : kind ≠ .multipleModel) :
    (plan config).filter (·.kind = kind) =
      ((config.tabs.filter (·.isTable)).map (tableEndpoint config.product.restRoot)).filter (·.kind = kind)
        ++ (config.services.map (serviceEndpoint config.product.restRoot)).filter (·.kind = kind) := by
  rw [plan_eq_partition, partition]
  simp only [List.filter_append]
  split <;> simp [sharedEndpoint, hkind.symm]

theorem Endpoint.filter_dataInput (config : Config) :
    (plan config).filter (·.kind = .dataInput) =
      config.services.map (serviceEndpoint config.product.restRoot) := by
  rw [filter_plan config (by decide)]
  simp [List.filter_map, Function.comp_def, tableEndpoint, serviceEndpoint]

theorem Config.service_handlerOk [PatternEngine] {config : Config} (accepted : config.check = .ok ())
    {service : Service} (h : service ∈ config.services) : service.HandlerOk := by
  obtain ⟨page, hok, hservices⟩ := pageOk accepted h
  exact hok.handlers service (hservices ▸ h)

/-- The rule on handlers accepts exactly the services whose handler keeps all they declare. In an accepted
configuration the endpoints of services are those of its services in order: each keeps all that its service
declares, and has the generated handler only where that is nothing. A service may well declare the text that
would be generated; it is then served by what it declares, under any other namespace too. -/
theorem handlers_kept :
    (∀ (restRoot : String) (service : Service),
      service.checkHandler = .ok () ↔ (Handler.ofService restRoot service).Keeps service) ∧
    ∀ [PatternEngine] (config : Config), config.check = .ok () →
      List.Forall₂ (fun service endpoint => endpoint.handler.Keeps service ∧
          (service.DeclaresHandler → ∀ other, Handler.ofService other service = endpoint.handler) ∧
          (¬ service.DeclaresHandler →
            endpoint.handler = .generated config.product.restRoot service.name))
        config.services ((Endpoint.plan config).filter (·.kind = .dataInput)) := by
  refine ⟨fun restRoot service => ?_, fun {_} config accepted => ?_⟩
  · rw [Service.checkHandler_eq_ok, Handler.keeps_ofService_iff]
  · rw [Endpoint.filter_dataInput, List.forall₂_map_right_iff, List.forall₂_same]
    intro service hservice
    have hok : service.HandlerOk := config.service_handlerOk accepted hservice
    refine ⟨Handler.keeps_ofService_iff.2 hok, fun hdeclares other => ?_, fun hnothing => ?_⟩
    · exact Handler.ofService_declared hok hdeclares other
    · exact Handler.ofService_undeclared hnothing

def handledService : Service :=
  ⟨"input", "Input", [sampleEntity], none, none, some "input_helper", some "InputHandler"⟩

theorem handledService_kept :
    (∀ [PatternEngine],
      (sampleConfig [sampleTab "account" none] [sampleService "plain", handledService]).check = .ok ()) ∧
      (Endpoint.serviceEndpoint "addon" handledService).handler.Keeps handledService ∧
      (Endpoint.serviceEndpoint "addon" (sampleService "plain")).handler = .generated "addon" "plain" := by
  obtain ⟨-, hplanned⟩ := handlers_kept
  have h := @hplanned .refusing
    (sampleConfig [sampleTab "account" none] [sampleService "plain", handledService]) rfl
  rw [Endpoint.filter_dataInput] at h
  obtain ⟨⟨-, -, hplain⟩, h⟩ := List.forall₂_cons.1 h
  obtain ⟨⟨hkept, -⟩, -⟩ := List.forall₂_cons.1 h
  exact ⟨rfl, hkept, hplain (by simp [Service.DeclaresHandler, sampleService])⟩

end AddonConfig
