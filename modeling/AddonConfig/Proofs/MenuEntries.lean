import AddonConfig.Proofs.Acceptance

/-!
# Entries of the inputs menu

The menu is held against the names of all services and the titles of all services, each taken for itself.
An accepted menu therefore stays right with any services among which these names and titles are found
(`MenuOk.mono`), in whatever pairs. So an entry that is meant for one service has the name of a service and
the title of a service, and these may be two.
-/

namespace AddonConfig

section
variable {services others : List Service} (names : services.map (·.name) ⊆ others.map (·.name))
  (titles : services.map (·.title) ⊆ others.map (·.title))
include names titles

theorem MenuGroup.Ok.mono {group : MenuGroup} (h : group.Ok services) : group.Ok others := by
  have hname : ∀ service ∈ services, ∃ other ∈ others, other.name = service.name := by
    intro service hservice
    exact List.mem_map.1 (names (List.mem_map_of_mem hservice))
  have htitle : ∀ service ∈ services, ∃ other ∈ others, other.title = service.title := by
    intro service hservice
    exact List.mem_map.1 (titles (List.mem_map_of_mem hservice))
  refine ⟨fun listed hlisted name hmem => ?_, fun hdirect => ?_⟩
  · obtain ⟨service, hservice, rfl⟩ := h.listed listed hlisted name hmem
    exact hname service hservice
  · obtain ⟨⟨named, hnamed, hgroup⟩, titled, htitled, hgroup'⟩ := h.direct hdirect
    rw [← hgroup, ← hgroup']
    exact ⟨hname named hnamed, htitle titled htitled⟩

theorem MenuOk.mono {groups : List MenuGroup} (h : MenuOk services groups) : MenuOk others groups :=
  ⟨fun group hgroup => (h.alone group hgroup).mono names titles, h.names, h.titles⟩

end

/-- Every entry of an accepted menu that lists no services has the name of a service and the title of a
service. No more is asked: the menu is accepted as well with any other services that have these names and
titles between them. -/
theorem direct_groups_found (services : List Service) (groups : List MenuGroup)
    (accepted : checkMenu services groups = .ok ()) :
    (∀ group ∈ groups, group.serviceNames = none →
      (∃ service ∈ services, service.name = group.groupName) ∧
        ∃ service ∈ services, service.title = group.groupTitle) ∧
    ∀ others : List Service, services.map (·.name) ⊆ others.map (·.name) →
      services.map (·.title) ⊆ others.map (·.title) → checkMenu others groups = .ok () := by
  have hok : MenuOk services groups := (checkMenu_eq_ok services groups).1 accepted
  refine ⟨fun group hgroup hdirect => (hok.alone group hgroup).direct hdirect, ?_⟩
  intro others names titles
  exact (checkMenu_eq_ok others groups).2 (hok.mono names titles)

def menuService (name title : String) : Service := ⟨name, title, [], none, none, none, none⟩

/-- With the titles of its services exchanged the menu is still accepted. -/
theorem exchanged_titles_accepted :
    checkMenu [menuService "one" "One", menuService "two" "Two"] [⟨"two", "Two", none⟩, ⟨"all", "All", some ["one"]⟩]
        = .ok () ∧
      checkMenu [menuService "one" "Two", menuService "two" "One"]
        [⟨"two", "Two", none⟩, ⟨"all", "All", some ["one"]⟩] = .ok () := by
  have haccepted : checkMenu [menuService "one" "One", menuService "two" "Two"]
      [⟨"two", "Two", none⟩, ⟨"all", "All", some ["one"]⟩] = .ok () := by decide
  refine ⟨haccepted, ?_⟩
  exact (direct_groups_found _ _ haccepted).2 [menuService "one" "Two", menuService "two" "One"]
    (by simp [menuService]) (by simp [menuService])

/-- An entry with the name of one service and the title of another is accepted. -/
theorem direct_group_of_two_services :
    ¬ ∀ (services : List Service) (groups : List MenuGroup), checkMenu services groups = .ok () →
      ∀ group ∈ groups, group.serviceNames = none →
        ∃ service ∈ services, service.name = group.groupName ∧ service.title = group.groupTitle := by
  intro h
  have hone := h [menuService "one" "One", menuService "two" "Two"] [⟨"one", "Two", none⟩] (by decide)
    ⟨"one", "Two", none⟩ (List.mem_singleton_self _) rfl
  simp [menuService] at hone

end AddonConfig
