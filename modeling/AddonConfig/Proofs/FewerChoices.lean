import AddonConfig.Proofs.Acceptance

/-!
# Choices that are taken away

A list to choose from is checked in one of two ways. Next to a group, labels differ, and so do the children of
each group; in a list without groups, values differ as well. Each way goes on to hold when choices are taken away
(`ChoicesOk.sublist`, `ChildrenOk.sublist`). What can go wrong is that the last group is taken away and the entries
that stay, whose values nobody has compared so far, are now compared by them.
-/

namespace AddonConfig

section
variable {choices fewer : List Choice}

theorem ChildrenOk.sublist (h : ChildrenOk choices) (hfewer : fewer.Sublist choices) : ChildrenOk fewer :=
  ⟨h.values.sublist (hfewer.map _), h.labels.sublist (hfewer.map _)⟩

namespace ChoicesOk

theorem of_flat (hflat : ¬ ∃ choice ∈ choices, choice.children.isSome) : ChoicesOk choices ↔ ChildrenOk choices := by
  rw [ChoicesOk, if_neg hflat]

theorem of_group (hgroup : ∃ choice ∈ choices, choice.children.isSome) : ChoicesOk choices ↔
    (choices.map (·.label)).Nodup ∧
      ∀ choice ∈ choices, ∀ children, choice.children = some children → ChildrenOk children := by
  rw [ChoicesOk, if_pos hgroup]

/-- Labels differ, in whichever way the list is checked. -/
theorem labels (h : ChoicesOk choices) : (choices.map (·.label)).Nodup := by
  by_cases hgroup : ∃ choice ∈ choices, choice.children.isSome
  · exact ((of_group hgroup).1 h).1
  · exact ((of_flat hgroup).1 h).labels

/-- Fewer choices are right as long as there is a group among them. -/
theorem sublist (h : ChoicesOk choices) (hfewer : fewer.Sublist choices)
    (hgroup : ∃ choice ∈ fewer, choice.children.isSome) : ChoicesOk fewer := by
  obtain ⟨group, hmem, hsome⟩ := hgroup
  have hall := (of_group ⟨group, hfewer.subset hmem, hsome⟩).1 h
  refine (of_group ⟨group, hmem, hsome⟩).2 ⟨hall.1.sublist (hfewer.map _), fun choice hchoice => ?_⟩
  exact hall.2 choice (hfewer.subset hchoice)

/-- Without a group they are right if their values differ; their labels do. -/
theorem sublist_flat_iff (h : ChoicesOk choices) (hfewer : fewer.Sublist choices)
    (hflat : ¬ ∃ choice ∈ fewer, choice.children.isSome) :
    ChoicesOk fewer ↔ (fewer.map (·.value.display)).Nodup := by
  rw [of_flat hflat]
  exact ⟨fun hok => hok.values, fun values => ⟨values, h.labels.sublist (hfewer.map _)⟩⟩

end ChoicesOk
end

/-- Of an accepted list any choices may be taken away, unless this takes the last group and leaves two entries of
one value. -/
theorem fewer_choices_accepted_iff (entity : String) (choices fewer : List Choice)
    (accepted : checkChoices entity choices = .ok ()) (hfewer : fewer.Sublist choices) :
    checkChoices entity fewer = .ok () ↔
      ((∃ choice ∈ choices, choice.children.isSome) → (∀ choice ∈ fewer, choice.children = none) →
        (fewer.map (·.value.display)).Nodup) := by
  have hok : ChoicesOk choices := (checkChoices_eq_ok entity choices).1 accepted
  have hflat_iff : (∀ choice ∈ fewer, choice.children = none) ↔ ¬ ∃ choice ∈ fewer, choice.children.isSome := by
    simp
  rw [checkChoices_eq_ok, hflat_iff]
  by_cases hgroup : ∃ choice ∈ fewer, choice.children.isSome
  · simp only [hok.sublist hfewer hgroup, hgroup, not_true_eq_false, false_imp_iff, implies_true]
  · rw [hok.sublist_flat_iff hfewer hgroup]
    refine ⟨fun values _ _ => values, fun h => ?_⟩
    by_cases hgroups : ∃ choice ∈ choices, choice.children.isSome
    · exact h hgroups hgroup
    · -- the values were compared before
      exact (((ChoicesOk.of_flat hgroups).1 hok).sublist hfewer).values

/-- A group without children beside two entries of one value. -/
def mixedChoices : List Choice :=
  [⟨.text "none", "None", some []⟩, ⟨.number (.int 1), "One", none⟩, ⟨.text "1", "Uno", none⟩]

/-- One of the entries alone is accepted, where the group is gone. -/
theorem mixedChoices_first_accepted :
    checkChoices "Index" mixedChoices = .ok () ∧
      [⟨.number (.int 1), "One", none⟩].Sublist mixedChoices ∧
        checkChoices "Index" [⟨.number (.int 1), "One", none⟩] = .ok () := by
  have haccepted : checkChoices "Index" mixedChoices = .ok () := by decide +kernel
  have hfewer : [⟨.number (.int 1), "One", none⟩].Sublist mixedChoices := .cons _ (.cons_cons _ (.cons _ .slnil))
  refine ⟨haccepted, hfewer, (fewer_choices_accepted_iff _ _ _ haccepted hfewer).2 fun _ _ => ?_⟩
  simp

/-- Both entries without the group are refused. -/
theorem fewer_choices_refused :
    ¬ ∀ (entity : String) (choices fewer : List Choice), checkChoices entity choices = .ok () →
      fewer.Sublist choices → checkChoices entity fewer = .ok () := by
  intro h
  have hrefused := h "Index" mixedChoices mixedChoices.tail (by decide +kernel) (List.tail_sublist _)
  revert hrefused
  decide +kernel

end AddonConfig
