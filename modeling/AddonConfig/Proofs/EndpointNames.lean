import AddonConfig.Proofs.Acceptance
import AddonConfig.Proofs.Partition
import Mathlib.Data.List.Nodup

/-!
# Names of endpoints

An accepted configuration has tabs of different names and services of different names, but a table tab,
a service and the endpoint that all other tabs share may still meet under one name.
`endpoint_names_nodup_iff` says when they do not.
-/

namespace AddonConfig

namespace Endpoint

/-- What the endpoints of a plan are named after. -/
def owners (config : Config) : List String :=
  (config.tabs.filter (·.isTable)).map (·.name)
    ++ (if ∃ tab ∈ config.tabs, tab.isTable = false then ["settings"] else [])
    ++ config.services.map (·.name)

/-- An endpoint has its owner's name behind the namespace of the product. -/
theorem names_plan (config : Config) :
    (plan config).map (·.name) = (owners config).map (config.product.restRoot ++ "_" ++ ·) := by
  have hshared : config.product.restRoot ++ "_settings" = config.product.restRoot ++ "_" ++ "settings" := by
    rw [String.append_assoc]
    rfl
  rw [plan_eq_partition, partition, owners]
  split <;> simp [tableEndpoint, sharedEndpoint, serviceEndpoint, hshared, Function.comp_def]

theorem nodup_names_plan {config : Config} :
    ((plan config).map (·.name)).Nodup ↔ (owners config).Nodup := by
  rw [names_plan]
  exact List.nodup_map_iff fun _ _ h => (String.append_right_inj _).1 h

end Endpoint

/-- The endpoints of an accepted configuration differ in name as long as no table has the name of a
service, and none of them that of the endpoint shared by the other tabs. -/
theorem endpoint_names_nodup_iff [PatternEngine] (config : Config) (accepted : config.check = .ok ()) :
    ((Endpoint.plan config).map (·.name)).Nodup ↔
      (∀ tab ∈ config.tabs, tab.isTable = true → ∀ service ∈ config.services, tab.name ≠ service.name) ∧
        ((∃ tab ∈ config.tabs, tab.isTable = false) →
          (∀ tab ∈ config.tabs, tab.isTable = true → tab.name ≠ "settings") ∧
            ∀ service ∈ config.services, service.name ≠ "settings") := by
  have htables : ((config.tabs.filter (·.isTable)).map (·.name)).Nodup :=
    (config.tab_names_nodup accepted).sublist (List.filter_sublist.map _)
  have hservices := config.service_names_nodup accepted
  -- tables and services differ among themselves; what is left is who meets whom
  rw [Endpoint.nodup_names_plan, Endpoint.owners]
  split
  · rename_i hshared
    simp only [List.nodup_append, htables, hservices, List.nodup_singleton, List.mem_append, List.mem_map,
      List.mem_filter, List.mem_singleton, true_and, hshared, forall_const]
    constructor
    · rintro ⟨htable, howner⟩
      exact ⟨fun tab ht htab service hs => howner _ (.inl ⟨tab, ⟨ht, htab⟩, rfl⟩) _ ⟨service, hs, rfl⟩,
        fun tab ht htab => htable _ ⟨tab, ⟨ht, htab⟩, rfl⟩ _ rfl,
        fun service hs h => howner _ (.inr rfl) _ ⟨service, hs, rfl⟩ h.symm⟩
    · rintro ⟨hcross, htable, hservice⟩
      refine ⟨?_, ?_⟩
      · rintro _ ⟨tab, ⟨ht, htab⟩, rfl⟩ _ rfl
        exact htable tab ht htab
      · rintro _ (⟨tab, ⟨ht, htab⟩, rfl⟩ | rfl) _ ⟨service, hs, rfl⟩
        · exact hcross tab ht htab service hs
        · exact (hservice service hs).symm
  · rename_i hnone
    simp only [List.append_nil, List.nodup_append, htables, hservices, List.mem_map, List.mem_filter,
      true_and, hnone, false_imp_iff, and_true]
    constructor
    · intro howner tab ht htab service hs
      exact howner _ ⟨tab, ⟨ht, htab⟩, rfl⟩ _ ⟨service, hs, rfl⟩
    · rintro hcross _ ⟨tab, ⟨ht, htab⟩, rfl⟩ _ ⟨service, hs, rfl⟩
      exact hcross tab ht htab service hs

/-- An engine to which no text is a pattern. -/
abbrev PatternEngine.refusing : PatternEngine := ⟨fun _ => false⟩

/-- An entity called `name`, as every tab has one. -/
def sampleEntity : Entity := ⟨"name", "Name", .text, none, none, none, [], none⟩

def sampleTab (name : String) (table : Option Table) : Tab := ⟨name, name, [sampleEntity], table, none⟩

def sampleService (name : String) : Service := ⟨name, name, [sampleEntity], none, none, none, none⟩

def sampleConfig (tabs : List Tab) (services : List Service) : Config where
  product := ⟨"addon", "addon", "1.0.0", "Addon", none⟩
  pages := ⟨some tabs, some ⟨none, services, none⟩⟩

theorem endpoint_names_nodup_sample :
    (∀ [PatternEngine], (sampleConfig [sampleTab "account" (some ⟨[], []⟩), sampleTab "logging" none]
      [sampleService "input"]).check = .ok ()) ∧
    ((Endpoint.plan (sampleConfig [sampleTab "account" (some ⟨[], []⟩), sampleTab "logging" none]
      [sampleService "input"])).map (·.name)).Nodup :=
  ⟨rfl, (@endpoint_names_nodup_iff .refusing _ rfl).2 (by decide)⟩

/-- A table called `settings` beside a tab without a table: accepted, and served twice under one name. -/
theorem endpoint_names_not_nodup :
    ¬ ∃ _ : PatternEngine, ∀ config : Config, config.check = .ok () →
      ((Endpoint.plan config).map (·.name)).Nodup := by
  rintro ⟨_, h⟩
  have hnames := h (sampleConfig [sampleTab "settings" (some ⟨[], []⟩), sampleTab "logging" none] []) rfl
  revert hnames
  decide

end AddonConfig
