import AddonConfig.Proofs.PlannedModels

/-!
# Files that are named after their owners

A table or service that names no file of its own has the one that its name gives in lower case. Lower-casing
leaves a text without capital letters as it is (`lowerCase_of_settled`) and may bring others together, so two
owners of different names meet in one file exactly if their names have the same lower-case form.
-/

namespace AddonConfig

/-! ### Texts that lower-casing leaves as they are -/

namespace LowerCase

/-- No character of the text has a lower-case form other than itself. -/
def Settled (text : String) : Prop := ∀ c ∈ text.toList, ofChar c = [c]

theorem ofChars_of_settled {chars : List Char} (h : ∀ c ∈ chars, ofChar c = [c]) (before : List Char) :
    ofChars before chars = chars := by
  induction chars generalizing before with
  | nil => rfl
  | cons c rest ih =>
    have hsigma : c ≠ 'Σ' := by
      rintro rfl
      have hlower := h 'Σ' List.mem_cons_self
      revert hlower
      decide
    rw [ofChars]
    simp only [hsigma, if_false, h c List.mem_cons_self, List.singleton_append]
    rw [ih fun c hc => h c (List.mem_cons_of_mem _ hc)]

end LowerCase

theorem lowerCase_of_settled {text : String} (h : LowerCase.Settled text) : lowerCase text = text := by
  rw [lowerCase, LowerCase.ofChars_of_settled h, String.ofList_toList]

/-! ### Owners and their endpoints -/

theorem Endpoint.filter_singleModel (config : Config) :
    (plan config).filter (·.kind = .singleModel) =
      (config.tabs.filter (·.isTable)).map (tableEndpoint config.product.restRoot) := by
  rw [filter_plan config (by decide)]
  simp [List.filter_map, Function.comp_def, tableEndpoint, serviceEndpoint]

namespace Config

/-- The tables with the endpoints that are planned for them. -/
def servedTables (config : Config) : List (Tab × Endpoint) :=
  (config.tabs.filter (·.isTable)).zip ((Endpoint.plan config).filter (·.kind = .singleModel))

/-- The services with the endpoints that are planned for them. -/
def servedServices (config : Config) : List (Service × Endpoint) :=
  config.services.zip ((Endpoint.plan config).filter (·.kind = .dataInput))

theorem servedTables_eq (config : Config) : config.servedTables =
    (config.tabs.filter (·.isTable)).map fun tab => (tab, Endpoint.tableEndpoint config.product.restRoot tab) := by
  rw [servedTables, Endpoint.filter_singleModel, List.map_prod_left_eq_zip]

theorem servedServices_eq (config : Config) : config.servedServices =
    config.services.map fun service => (service, Endpoint.serviceEndpoint config.product.restRoot service) := by
  rw [servedServices, Endpoint.filter_dataInput, List.map_prod_left_eq_zip]

end Config

/-! ### Owners that name no file -/

section
variable {α : Type} (name : α → String) (confName : α → Option String)

/-- Of two owners that name no file, the endpoints have one file exactly if the names have one lower-case form,
and so never where lower-casing leaves both names as they are. -/
def MeetInLowerCase (one other : α × Endpoint) : Prop :=
  confName one.1 = none → confName other.1 = none →
    (one.2.confName = other.2.confName ↔ lowerCase (name one.1) = lowerCase (name other.1)) ∧
      (LowerCase.Settled (name one.1) → LowerCase.Settled (name other.1) → one.2.confName ≠ other.2.confName)

variable {name confName}

theorem pairwise_meetInLowerCase {endpoint : α → Endpoint} {items : List α} (names : (items.map name).Nodup)
    (hfile : ∀ item, (endpoint item).confName = (confName item).getD (lowerCase (name item))) :
    (items.map fun item => (item, endpoint item)).Pairwise (MeetInLowerCase name confName) := by
  rw [List.pairwise_map]
  refine (List.pairwise_map.1 names).imp fun {one other} hne hone hother => ?_
  have hone' : (endpoint one).confName = lowerCase (name one) := by rw [hfile, hone, Option.getD_none]
  have hother' : (endpoint other).confName = lowerCase (name other) := by rw [hfile, hother, Option.getD_none]
  rw [hone', hother']
  refine ⟨Iff.rfl, fun hsettled hsettled' => ?_⟩
  rw [lowerCase_of_settled hsettled, lowerCase_of_settled hsettled']
  exact hne

end

/-- In an accepted configuration every table and every service has its endpoint, named after it. Two tables of no
file of their own, which differ in name, are planned one file exactly if their names have one lower-case form;
so are two services. -/
theorem unnamed_files_meet_in_lower_case [PatternEngine] (config : Config) (accepted : config.check = .ok ()) :
    (config.servedTables.map (·.1) = config.tabs.filter (·.isTable) ∧
      (∀ served ∈ config.servedTables, served.2.name = config.product.restRoot ++ "_" ++ served.1.name) ∧
      config.servedTables.Pairwise (MeetInLowerCase Tab.name Tab.confName)) ∧
    config.servedServices.map (·.1) = config.services ∧
      (∀ served ∈ config.servedServices, served.2.name = config.product.restRoot ++ "_" ++ served.1.name) ∧
      config.servedServices.Pairwise (MeetInLowerCase Service.name Service.confName) := by
  have htables : ((config.tabs.filter (·.isTable)).map (·.name)).Nodup :=
    (config.tab_names_nodup accepted).sublist (List.filter_sublist.map _)
  rw [config.servedTables_eq, config.servedServices_eq]
  refine ⟨⟨by simp [Function.comp_def], ?_, pairwise_meetInLowerCase htables fun _ => rfl⟩,
    by simp [Function.comp_def], ?_,
    pairwise_meetInLowerCase (config.service_names_nodup accepted) fun _ => rfl⟩
  · intro served hserved
    obtain ⟨tab, -, rfl⟩ := List.mem_map.1 hserved
    rfl
  · intro served hserved
    obtain ⟨service, -, rfl⟩ := List.mem_map.1 hserved
    rfl

/-- Tables of which two have names that differ in case. -/
def casedConfig : Config :=
  sampleConfig
    [sampleTab "Konto" (some ⟨[], []⟩), sampleTab "konto" (some ⟨[], []⟩), sampleTab "proxy" (some ⟨[], []⟩)] []

theorem casedConfig_files : (∀ [PatternEngine], casedConfig.check = .ok ()) ∧
    (Endpoint.tableEndpoint "addon" (sampleTab "Konto" (some ⟨[], []⟩))).confName =
      (Endpoint.tableEndpoint "addon" (sampleTab "konto" (some ⟨[], []⟩))).confName ∧
    (Endpoint.tableEndpoint "addon" (sampleTab "konto" (some ⟨[], []⟩))).confName ≠
      (Endpoint.tableEndpoint "addon" (sampleTab "proxy" (some ⟨[], []⟩))).confName := by
  obtain ⟨⟨-, -, hpairs⟩, -⟩ := @unnamed_files_meet_in_lower_case .refusing casedConfig rfl
  rw [casedConfig.servedTables_eq] at hpairs
  obtain ⟨hfirst, hrest⟩ := List.pairwise_cons.1 hpairs
  obtain ⟨hsecond, -⟩ := List.pairwise_cons.1 hrest
  refine ⟨rfl, ?_, ?_⟩
  · exact (hfirst _ List.mem_cons_self rfl rfl).1.2 (by decide)
  · have hkonto : LowerCase.Settled "konto" := by simp [LowerCase.Settled, LowerCase.ofChar]
    have hproxy : LowerCase.Settled "proxy" := by simp [LowerCase.Settled, LowerCase.ofChar]
    exact (hsecond _ List.mem_cons_self rfl rfl).2 hkonto hproxy

/-- Names that differ in case alone are accepted, for tables and for services, and meet in one file. -/
theorem unnamed_files_clash :
    (¬ ∃ _ : PatternEngine, ∀ config : Config, config.check = .ok () →
      config.servedTables.Pairwise fun one other =>
        one.1.confName = none → other.1.confName = none → one.2.confName ≠ other.2.confName) ∧
    ¬ ∃ _ : PatternEngine, ∀ config : Config, config.check = .ok () →
      config.servedServices.Pairwise fun one other =>
        one.1.confName = none → other.1.confName = none → one.2.confName ≠ other.2.confName := by
  constructor
  · rintro ⟨_, h⟩
    have hpairs := h casedConfig rfl
    revert hpairs
    decide
  · rintro ⟨_, h⟩
    have hpairs := h (sampleConfig [sampleTab "account" none] [sampleService "Input", sampleService "input"]) rfl
    revert hpairs
    decide

end AddonConfig
