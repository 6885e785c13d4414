import AddonConfig.Proofs.EndpointNames
import AddonConfig.Proofs.MenuEntries

/-!
# One service more

A service is appended to the inputs page of an accepted configuration. What the rules have said of the tabs and
of the services before stands (`Check.forM_concat`), the keys of the services gain those of the new one
(`findDuplicates_concat`), and the menu finds in more services what it found in fewer (`MenuOk.mono`). So the
check answers with what is wrong with the new service alone (`check_addService`), and the plan gains its
endpoint at the end.
-/

namespace AddonConfig

/-! ### A list with one item more -/

theorem Check.forM_concat {α : Type} {f : α → Check} {items : List α} (h : items.forM f = .ok ()) (item : α) :
    (items ++ [item]).forM f = f item := by
  induction items with
  | nil =>
    show (f item >>= fun _ => .ok ()) = _
    cases f item <;> rfl
  | cons first rest ih =>
    have hparts : f first = .ok () ∧ rest.forM f = .ok () := Check.bind_eq_ok.1 h
    show (f first >>= fun _ => (rest ++ [item]).forM f) = _
    rw [hparts.1, ← ih hparts.2]
    rfl

/-- Keys that all differ are found twice after one item more only if it is the last one's. -/
theorem findDuplicates_concat {α κ : Type} [DecidableEq κ] {key : α → κ} {items : List α}
    (h : (items.map key).Nodup) (item : α) :
    findDuplicates key (items ++ [item]) = if key item ∈ items.map key then [key item] else [] := by
  split_ifs with htaken
  · -- both lists are without repetition, so the same keys are enough
    have hnodup : (findDuplicates key (items ++ [item])).Nodup := (firstOccurrences_nodup _).filter _
    refine List.perm_singleton.1 ((List.perm_ext_iff_of_nodup hnodup (List.nodup_singleton _)).2 fun k => ?_)
    rw [mem_findDuplicates, List.map_append, List.count_append, List.map_singleton, List.mem_singleton]
    have hone : (items.map key).count k ≤ 1 := List.nodup_iff_count_le_one.1 h k
    by_cases hk : k = key item
    · subst hk
      have hpos : 0 < (items.map key).count (key item) := List.count_pos_iff.2 htaken
      simp only [List.count_singleton_self, iff_true]
      omega
    · have hzero : [key item].count k = 0 := List.count_eq_zero.2 (by simpa using hk)
      simp only [hk, iff_false]
      omega
  · rw [findDuplicates_eq_nil_iff, List.map_append, List.map_singleton, ← List.concat_eq_append, List.nodup_concat]
    exact ⟨htaken, h⟩

/-! ### The page with a service appended -/

/-- The page with a service behind the others. -/
def InputsPage.addService (page : InputsPage) (service : Service) : InputsPage :=
  { page with services := page.services ++ [service] }

/-- The configuration with a service behind the others of its inputs page. -/
def Config.addService (config : Config) (service : Service) : Config :=
  { config with pages := { config.pages with inputs := config.pages.inputs.map (·.addService service) } }

/-- The name of a service if one of the services has it, and the title if one has that. -/
def takenKeys (services : List Service) (service : Service) : List String :=
  (if ∃ other ∈ services, other.name = service.name then [service.name] else [])
    ++ if ∃ other ∈ services, other.title = service.title then [service.title] else []

theorem Endpoint.plan_addService {config : Config} {page : InputsPage} (hpage : config.pages.inputs = some page)
    (service : Service) :
    plan (config.addService service) = plan config ++ [serviceEndpoint config.product.restRoot service] := by
  have htabs : (config.addService service).tabs = config.tabs := rfl
  have hservices : (config.addService service).services = config.services ++ [service] := by
    simp [Config.services, Config.addService, InputsPage.addService, hpage]
  simp only [plan_eq_partition, partition, htabs, hservices, List.map_append, List.map_singleton, List.append_assoc]
  rfl

section
variable {services : List Service} {service : Service}

theorem takenKeys_eq_nil_iff : takenKeys services service = [] ↔
    ∀ other ∈ services, other.name ≠ service.name ∧ other.title ≠ service.title := by
  unfold takenKeys
  rw [List.append_eq_nil_iff, forall₂_and]
  split_ifs <;> simp_all

theorem checkServiceKeys_concat (names : (services.map (·.name)).Nodup) (titles : (services.map (·.title)).Nodup)
    (service : Service) :
    checkServiceKeys (services ++ [service]) = ensureDistinct .services (takenKeys services service) := by
  rw [checkServiceKeys, findPairDuplicates, findDuplicates_concat names, findDuplicates_concat titles, takenKeys]
  simp only [List.mem_map]

variable [PatternEngine]

/-- What is asked of a service that joins others: of its entities, of its name and title, of its handler. -/
def Service.checkJoining (services : List Service) (service : Service) : Check := do
  checkEntities service.entity
  ensureDistinct .services (takenKeys services service)
  service.checkHandler

theorem Service.checkJoining_eq_ok : service.checkJoining services = .ok () ↔
    EntitiesOk service.entity ∧ service.HandlerOk ∧
      ∀ other ∈ services, other.name ≠ service.name ∧ other.title ≠ service.title := by
  rw [checkJoining, Check.bind_eq_ok, Check.bind_eq_ok, checkEntities_eq_ok, ensureDistinct_eq_ok,
    takenKeys_eq_nil_iff, checkHandler_eq_ok, and_comm (b := service.HandlerOk)]

theorem Service.checkJoining_eq_error {defect : Defect} : service.checkJoining services = .error defect ↔
    checkEntities service.entity = .error defect ∨
      (EntitiesOk service.entity ∧ takenKeys services service ≠ [] ∧
        defect = .duplicates .services (takenKeys services service)) ∨
      (EntitiesOk service.entity ∧ takenKeys services service = [] ∧ service.checkHandler = .error defect) := by
  simp only [Check.eq_error_iff, checkJoining, Check.defect?_bind, ← checkEntities_eq_ok, Check.eq_ok_iff,
    Option.or_eq_some_iff, defect?_ensureDistinct]
  have hnone : (ensureDistinct .services (takenKeys services service)).defect? = none ↔
      takenKeys services service = [] := by
    rw [← Check.eq_ok_iff, ensureDistinct_eq_ok]
  rw [hnone, and_or_left, eq_comm (a := defect)]

theorem InputsPage.check_addService {page : InputsPage} (hok : page.Ok) (service : Service) :
    (page.addService service).check = service.checkJoining page.services := by
  have hentities : page.services.forM (fun service => checkEntities service.entity) = .ok () :=
    Check.forM_eq_ok.2 fun other h => (checkEntities_eq_ok _).2 (hok.entities other h)
  have hhandlers : page.services.forM Service.checkHandler = .ok () :=
    Check.forM_eq_ok.2 fun other h => other.checkHandler_eq_ok.2 (hok.handlers other h)
  have hkeys := checkServiceKeys_concat hok.names hok.titles service
  -- the menu, which comes last, adds nothing
  cases hgroups : page.multiLevelMenu with
  | none =>
    simp only [check, addService, hgroups, Check.forM_concat hentities, Check.forM_concat hhandlers, hkeys,
      Service.checkJoining]
    cases service.checkHandler <;> rfl
  | some groups =>
    have hmenu : checkMenu (page.services ++ [service]) groups = .ok () :=
      (checkMenu_eq_ok _ groups).2 ((hok.menu groups hgroups).mono (by simp) (by simp))
    simp only [check, addService, hgroups, Check.forM_concat hentities, Check.forM_concat hhandlers, hkeys, hmenu,
      Service.checkJoining]
    cases service.checkHandler <;> rfl

theorem Config.check_addService {config : Config} {page : InputsPage} (hpage : config.pages.inputs = some page)
    (accepted : config.check = .ok ()) (service : Service) :
    (config.addService service).check = service.checkJoining page.services := by
  obtain ⟨htabsOk, hpageOk⟩ := check_eq_ok.1 accepted
  have hjoining := InputsPage.check_addService (hpageOk page hpage) service
  cases htabs : config.pages.configuration with
  | none => simp only [Config.check, addService, htabs, hpage, Option.map_some, hjoining]; rfl
  | some tabs =>
    simp only [Config.check, addService, htabs, hpage, Option.map_some, hjoining,
      (checkTabs_eq_ok tabs).2 (htabsOk tabs htabs)]
    rfl

/-- An accepted configuration with a service more is accepted exactly if the service is right alone and has
neither the name nor the title of another one. What is reported is the first defect of its entities, or else
which of its name and title are taken, or else its handler; never the menu. The plan is longer by its endpoint,
whether or not it is right. -/
theorem added_service_checked_alone (config : Config) (page : InputsPage) (service : Service)
    (hpage : config.pages.inputs = some page) (accepted : config.check = .ok ()) :
    ((config.addService service).check = .ok () ↔
      EntitiesOk service.entity ∧ service.HandlerOk ∧
        ∀ other ∈ page.services, other.name ≠ service.name ∧ other.title ≠ service.title) ∧
    (∀ defect, (config.addService service).check = .error defect ↔
      checkEntities service.entity = .error defect ∨
      (EntitiesOk service.entity ∧ takenKeys page.services service ≠ [] ∧
        defect = .duplicates .services (takenKeys page.services service)) ∨
      (EntitiesOk service.entity ∧ takenKeys page.services service = [] ∧ service.checkHandler = .error defect)) ∧
    Endpoint.plan (config.addService service) =
      Endpoint.plan config ++ [Endpoint.serviceEndpoint config.product.restRoot service] := by
  rw [Config.check_addService hpage accepted, Service.checkJoining_eq_ok]
  exact ⟨Iff.rfl, fun defect => Service.checkJoining_eq_error, Endpoint.plan_addService hpage service⟩

end

/-- A configuration whose menu has its one service. -/
def joinedConfig : Config where
  product := ⟨"addon", "addon", "1.0.0", "Addon", none⟩
  pages := ⟨none, some ⟨none, [⟨"one", "One", [sampleEntity], none, none, none, none⟩], some [⟨"one", "One", none⟩]⟩⟩

/-- A service of another name joins it; one of the same title does not, whatever its handler. -/
theorem joinedConfig_checked :
    (∀ [PatternEngine], joinedConfig.check = .ok () ∧
      (joinedConfig.addService ⟨"two", "Two", [sampleEntity], none, none, none, none⟩).check = .ok () ∧
      (joinedConfig.addService ⟨"two", "One", [sampleEntity], none, none, some "helper", none⟩).check =
        .error (.duplicates .services ["One"])) ∧
      (Endpoint.plan (joinedConfig.addService ⟨"two", "One", [sampleEntity], none, none, some "helper", none⟩)).map
        (·.name) = ["addon_one", "addon_two"] := by
  have hplan := (@added_service_checked_alone .refusing joinedConfig _
    ⟨"two", "One", [sampleEntity], none, none, some "helper", none⟩ rfl rfl).2.2
  refine ⟨?_, ?_⟩
  · intro
    have haccepted : joinedConfig.check = .ok () := rfl
    have hentities : EntitiesOk [sampleEntity] := (checkEntities_eq_ok _).1 rfl
    obtain ⟨hright, -, -⟩ := added_service_checked_alone joinedConfig _
      ⟨"two", "Two", [sampleEntity], none, none, none, none⟩ rfl haccepted
    obtain ⟨-, hwrong, -⟩ := added_service_checked_alone joinedConfig _
      ⟨"two", "One", [sampleEntity], none, none, some "helper", none⟩ rfl haccepted
    refine ⟨haccepted, hright.2 ⟨hentities, .inl ⟨rfl, rfl, rfl⟩, by decide⟩, ?_⟩
    exact (hwrong _).2 (.inr (.inl ⟨hentities, by decide, by decide⟩))
  · rw [hplan, List.map_append]
    decide

end AddonConfig
