import AddonConfig.Proofs.MenuEntries
import AddonConfig.Proofs.OauthEntities
import Mathlib.Data.List.Forall2
import Mathlib.Data.List.Perm.Basic

/-!
# Order and the verdict

`Config.Reordered` relates configurations that differ in order alone: at every level of the document the
items of a list may stand in another order, and be reordered inside themselves at the same time. What the
rules demand is asked of all items, of some item, or of the keys of a list, and none of these sees the order
(`ReorderedBy.forall_iff`, `ReorderedBy.exists_iff`, `ReorderedBy.map_perm`). So a configuration is accepted
in every order or in none (`reordered_accepted_iff`).
-/

namespace AddonConfig

/-- `others` are the items in another order, each one changed as `R` says. -/
def ReorderedBy {α : Type} (R : α → α → Prop) (items others : List α) : Prop :=
  ∃ between, items.Perm between ∧ List.Forall₂ R between others

namespace ReorderedBy
variable {α β : Type} {R : α → α → Prop} {S : β → β → Prop} {items others : List α}

theorem refl (h : ∀ item ∈ items, R item item) : ReorderedBy R items items :=
  ⟨items, .refl items, List.forall₂_same.2 h⟩

theorem forall_iff {p : α → Prop} (h : ReorderedBy R items others) (hp : ∀ a b, R a b → (p a ↔ p b)) :
    (∀ item ∈ items, p item) ↔ ∀ other ∈ others, p other := by
  obtain ⟨between, hperm, halike⟩ := h
  have hbetween : (∀ item ∈ items, p item) ↔ ∀ item ∈ between, p item := by
    simp only [hperm.mem_iff]
  rw [hbetween]
  -- what is left is item by item
  clear hperm hbetween
  induction halike with
  | nil => rfl
  | cons hab _ ih => rw [List.forall_mem_cons, List.forall_mem_cons, hp _ _ hab, propext ih]

theorem exists_iff {p : α → Prop} (h : ReorderedBy R items others) (hp : ∀ a b, R a b → (p a ↔ p b)) :
    (∃ item ∈ items, p item) ↔ ∃ other ∈ others, p other := by
  have hnone := h.forall_iff (p := fun item => ¬ p item) fun a b hab => not_congr (hp a b hab)
  rw [← not_iff_not]
  push Not
  exact hnone

theorem map_perm {f : α → β} (h : ReorderedBy R items others) (hf : ∀ a b, R a b → f a = f b) :
    (items.map f).Perm (others.map f) := by
  obtain ⟨between, hperm, halike⟩ := h
  have hsame : between.map f = others.map f := by
    rw [← List.forall₂_eq_eq_eq, List.forall₂_map_left_iff, List.forall₂_map_right_iff]
    exact halike.imp hf
  rw [← hsame]
  exact hperm.map f

theorem nodup_map_iff {f : α → β} (h : ReorderedBy R items others) (hf : ∀ a b, R a b → f a = f b) :
    (items.map f).Nodup ↔ (others.map f).Nodup :=
  (h.map_perm hf).nodup_iff

theorem append {rest others' : List α} (h : ReorderedBy R items others) (hrest : ReorderedBy R rest others') :
    ReorderedBy R (items ++ rest) (others ++ others') := by
  obtain ⟨between, hperm, halike⟩ := h
  obtain ⟨between', hperm', halike'⟩ := hrest
  exact ⟨between ++ between', hperm.append hperm', List.rel_append halike halike'⟩

theorem of_perm {between : List α} (hperm : items.Perm between) (h : ReorderedBy R between others) :
    ReorderedBy R items others := by
  obtain ⟨last, hlast, halike⟩ := h
  exact ⟨last, hperm.trans hlast, halike⟩

theorem flatMap {f : α → List β} (h : ReorderedBy R items others)
    (hf : ∀ a b, R a b → ReorderedBy S (f a) (f b)) : ReorderedBy S (items.flatMap f) (others.flatMap f) := by
  obtain ⟨between, hperm, halike⟩ := h
  -- the order of the items is settled first, then each item's own list takes its new order
  refine of_perm (hperm.flatMap_right f) ?_
  clear hperm
  induction halike with
  | nil => exact refl (by simp)
  | cons hab _ ih =>
    rw [List.flatMap_cons, List.flatMap_cons]
    exact (hf _ _ hab).append ih

theorem map {f : α → β} (h : ReorderedBy R items others) (hf : ∀ a b, R a b → S (f a) (f b)) :
    ReorderedBy S (items.map f) (others.map f) := by
  obtain ⟨between, hperm, halike⟩ := h
  refine ⟨between.map f, hperm.map f, ?_⟩
  rw [List.forall₂_map_left_iff, List.forall₂_map_right_iff]
  exact halike.imp hf

end ReorderedBy

section
variable {α β : Type} {R : α → α → Prop} {S : β → β → Prop} {a b : Option α}

theorem option_forall_iff {p q : α → Prop} (h : Option.Rel R a b) (hp : ∀ x y, R x y → (p x ↔ q y)) :
    (∀ x, a = some x → p x) ↔ ∀ y, b = some y → q y := by
  cases h with
  | none => simp
  | some h => simpa using hp _ _ h

theorem option_exists_iff {p : α → Prop} (h : Option.Rel R a b) (hp : ∀ x y, R x y → (p x ↔ p y)) :
    (∃ x, a = some x ∧ p x) ↔ ∃ y, b = some y ∧ p y := by
  cases h with
  | none => simp
  | some h => simpa using hp _ _ h

theorem option_eq_none_iff (h : Option.Rel R a b) : a = none ↔ b = none := by
  cases h <;> simp

theorem option_rel_bind {f : α → Option β} (h : Option.Rel R a b) (hf : ∀ x y, R x y → Option.Rel S (f x) (f y)) :
    Option.Rel S (a.bind f) (b.bind f) := by
  cases h with
  | none => exact .none
  | some h => exact hf _ _ h

theorem option_rel_map {f : α → β} (h : Option.Rel R a b) (hf : ∀ x y, R x y → S (f x) (f y)) :
    Option.Rel S (a.map f) (b.map f) := by
  cases h with
  | none => exact .none
  | some h => exact .some (hf _ _ h)

theorem reorderedBy_getD {items others : Option (List α)} (h : Option.Rel (ReorderedBy R) items others) :
    ReorderedBy R (items.getD []) (others.getD []) := by
  cases h with
  | none => exact .refl (by simp)
  | some h => exact h

end

/-! ### Documents that differ in order -/

/-- Choices whose children, and theirs in turn, stand in another order. -/
inductive Choice.Reordered : Choice → Choice → Prop
  | entry (value : ChoiceValue) (label : String) : Reordered ⟨value, label, none⟩ ⟨value, label, none⟩
  | group (value : ChoiceValue) (label : String) {children between others : List Choice}
      (perm : children.Perm between) (alike : List.Forall₂ Reordered between others) :
      Reordered ⟨value, label, some children⟩ ⟨value, label, some others⟩

/-- Fields below an entity that differ in the order of their validators. -/
structure OAuthField.Reordered (sub other : OAuthField) : Prop where
  validators : sub.validators.Perm other.validators
  rest : { sub with validators := other.validators } = other

structure EntityOptions.Reordered (options other : EntityOptions) : Prop where
  choices : Option.Rel (ReorderedBy Choice.Reordered) options.autoCompleteFields other.autoCompleteFields
  oauth : Option.Rel (ReorderedBy OAuthField.Reordered) options.oauth other.oauth
  basic : Option.Rel (ReorderedBy OAuthField.Reordered) options.basic other.basic
  rest : { options with
    autoCompleteFields := other.autoCompleteFields, oauth := other.oauth, basic := other.basic } = other

structure Entity.Reordered (entity other : Entity) : Prop where
  validators : entity.validators.Perm other.validators
  options : Option.Rel EntityOptions.Reordered entity.options other.options
  rest : { entity with validators := other.validators, options := other.options } = other

structure Tab.Reordered (tab other : Tab) : Prop where
  entities : ReorderedBy Entity.Reordered tab.entity other.entity
  rest : { tab with entity := other.entity } = other

structure Service.Reordered (service other : Service) : Prop where
  entities : ReorderedBy Entity.Reordered service.entity other.entity
  rest : { service with entity := other.entity } = other

structure MenuGroup.Reordered (group other : MenuGroup) : Prop where
  listed : Option.Rel List.Perm group.serviceNames other.serviceNames
  rest : { group with serviceNames := other.serviceNames } = other

structure InputsPage.Reordered (page other : InputsPage) : Prop where
  services : ReorderedBy Service.Reordered page.services other.services
  menu : Option.Rel (ReorderedBy MenuGroup.Reordered) page.multiLevelMenu other.multiLevelMenu
  rest : { page with services := other.services, multiLevelMenu := other.multiLevelMenu } = other

/-- Configurations whose lists differ in order alone, at any levels at once. -/
structure Config.Reordered (config other : Config) : Prop where
  tabs : Option.Rel (ReorderedBy Tab.Reordered) config.pages.configuration other.pages.configuration
  inputs : Option.Rel InputsPage.Reordered config.pages.inputs other.pages.inputs
  product : config.product = other.product

/-! ### Choices -/

namespace Choice.Reordered
variable {choice other : Choice}

theorem refl : ∀ choice : Choice, choice.Reordered choice
  | ⟨value, label, none⟩ => .entry value label
  | ⟨value, label, some children⟩ =>
    .group value label (.refl children) (List.forall₂_same.2 fun child _ => refl child)

theorem value (h : choice.Reordered other) : choice.value = other.value := by
  cases h <;> rfl

theorem label (h : choice.Reordered other) : choice.label = other.label := by
  cases h <;> rfl

theorem children (h : choice.Reordered other) :
    Option.Rel (ReorderedBy Choice.Reordered) choice.children other.children := by
  cases h with
  | entry => exact .none
  | group _ _ perm alike => exact .some ⟨_, perm, alike⟩

theorem isGroup_iff (h : choice.Reordered other) : choice.children.isSome ↔ other.children.isSome := by
  cases h <;> rfl

end Choice.Reordered

section
variable {choices others : List Choice}

theorem childrenOk_iff_of_reordered (h : ReorderedBy Choice.Reordered choices others) :
    ChildrenOk choices ↔ ChildrenOk others := by
  have hvalues := h.nodup_map_iff (f := fun choice => choice.value.display) fun a b hab => by rw [hab.value]
  have hlabels := h.nodup_map_iff (f := (·.label)) fun a b hab => hab.label
  constructor
  · intro ok
    exact ⟨hvalues.1 ok.values, hlabels.1 ok.labels⟩
  · intro ok
    exact ⟨hvalues.2 ok.values, hlabels.2 ok.labels⟩

/-- A list has a group in every order or in none, so the same of its keys are compared. -/
theorem choicesOk_iff_of_reordered (h : ReorderedBy Choice.Reordered choices others) :
    ChoicesOk choices ↔ ChoicesOk others := by
  have hgroup : (∃ choice ∈ choices, choice.children.isSome) ↔ ∃ other ∈ others, other.children.isSome :=
    h.exists_iff fun a b hab => hab.isGroup_iff
  have hlabels := h.nodup_map_iff (f := (·.label)) fun a b hab => hab.label
  have hchildren := h.forall_iff (p := fun choice => ∀ children, choice.children = some children → ChildrenOk children)
    fun a b hab => option_forall_iff hab.children fun _ _ => childrenOk_iff_of_reordered
  unfold ChoicesOk
  simp only [hgroup, hlabels, hchildren, childrenOk_iff_of_reordered h]

end

/-! ### Entities -/

/-- Views of a field that differ in the order of the validators. -/
structure FieldView.Reordered (view other : FieldView) : Prop where
  field : view.field = other.field
  label : view.label = other.label
  validators : view.validators.Perm other.validators

theorem FieldView.Reordered.validators_iff [PatternEngine] {view other : FieldView} (h : view.Reordered other) :
    (∀ validator ∈ view.validators, validator.Ok) ↔ ∀ validator ∈ other.validators, validator.Ok := by
  simp only [h.validators.mem_iff]

theorem OAuthField.Reordered.view {sub other : OAuthField} (h : sub.Reordered other) :
    FieldView.Reordered ⟨sub.field, sub.label, sub.validators⟩ ⟨other.field, other.label, other.validators⟩ :=
  ⟨by rw [← h.rest], by rw [← h.rest], h.validators⟩

namespace Entity.Reordered
variable {entity other : Entity}

theorem field (h : entity.Reordered other) : entity.field = other.field := by rw [← h.rest]

theorem label (h : entity.Reordered other) : entity.label = other.label := by rw [← h.rest]

theorem type (h : entity.Reordered other) : entity.type = other.type := by rw [← h.rest]

theorem choices (h : entity.Reordered other) :
    Option.Rel (ReorderedBy Choice.Reordered) entity.choices other.choices := by
  exact option_rel_bind h.options fun _ _ hoptions => hoptions.choices

theorem below (h : entity.Reordered other) : ReorderedBy OAuthField.Reordered entity.below other.below := by
  exact reorderedBy_getD (option_rel_map h.options fun _ _ hoptions =>
    (reorderedBy_getD hoptions.oauth).append (reorderedBy_getD hoptions.basic))

theorem fields (h : entity.Reordered other) : ReorderedBy FieldView.Reordered entity.fields other.fields := by
  by_cases htype : entity.type = .oauth
  · rw [fields_oauth htype, fields_oauth (h.type ▸ htype)]
    exact h.below.map fun a b hab => hab.view
  · rw [fields_plain htype, fields_plain (h.type ▸ htype)]
    exact ⟨_, .refl _, .cons ⟨h.field, h.label, h.validators⟩ .nil⟩

theorem files_iff (h : entity.Reordered other) :
    (entity.type = .file → ∃ options, entity.options = some options ∧ options.supportedFileTypes.isSome) ↔
      (other.type = .file → ∃ options, other.options = some options ∧ options.supportedFileTypes.isSome) := by
  rw [h.type]
  exact imp_congr_right fun _ => option_exists_iff h.options fun _ _ hoptions => by rw [← hoptions.rest]

end Entity.Reordered

theorem entitiesOk_iff_of_reordered [PatternEngine] {entities others : List Entity}
    (h : ReorderedBy Entity.Reordered entities others) : EntitiesOk entities ↔ EntitiesOk others := by
  have hfiles := h.forall_iff fun a b hab => hab.files_iff
  have hvalidators := h.forall_iff (p := fun entity => ∀ view ∈ entity.fields, ∀ validator ∈ view.validators, validator.Ok)
    fun a b hab => hab.fields.forall_iff fun _ _ hview => hview.validators_iff
  -- keys are compared over all entities at once, so they are taken from the joined lists of views
  have hviews : ReorderedBy FieldView.Reordered (entities.flatMap Entity.fields) (others.flatMap Entity.fields) :=
    h.flatMap fun a b hab => hab.fields
  have hfields := hviews.nodup_map_iff (f := (·.field)) fun a b hab => hab.field
  have hlabels := hviews.nodup_map_iff (f := (·.label)) fun a b hab => hab.label
  have hchoices := h.forall_iff (p := fun entity => ∀ choices, entity.choices = some choices → ChoicesOk choices)
    fun a b hab => option_forall_iff hab.choices fun _ _ => choicesOk_iff_of_reordered
  constructor
  · intro ok
    exact ⟨hfiles.1 ok.files, hvalidators.1 ok.validators, hfields.1 ok.fields, hlabels.1 ok.labels,
      hchoices.1 ok.choices⟩
  · intro ok
    exact ⟨hfiles.2 ok.files, hvalidators.2 ok.validators, hfields.2 ok.fields, hlabels.2 ok.labels,
      hchoices.2 ok.choices⟩

/-! ### Pages -/

theorem Tab.Reordered.name {tab other : Tab} (h : tab.Reordered other) : tab.name = other.name := by rw [← h.rest]

theorem Tab.Reordered.title {tab other : Tab} (h : tab.Reordered other) : tab.title = other.title := by rw [← h.rest]

theorem tabsOk_iff_of_reordered [PatternEngine] {tabs others : List Tab}
    (h : ReorderedBy Tab.Reordered tabs others) : TabsOk tabs ↔ TabsOk others := by
  have hnames := h.map_perm (f := (·.name)) fun a b hab => hab.name
  have htitles := h.nodup_map_iff (f := (·.title)) fun a b hab => hab.title
  have hnamed := h.forall_iff (p := fun tab => ∃ entity ∈ tab.entity, entity.field = "name")
    fun a b hab => hab.entities.exists_iff fun _ _ hentity => by rw [hentity.field]
  have hentities := h.forall_iff (p := fun tab => EntitiesOk tab.entity)
    fun a b hab => entitiesOk_iff_of_reordered hab.entities
  have hnonempty : tabs ≠ [] ↔ others ≠ [] := by
    have hlength : tabs.length = others.length := by simpa using hnames.length_eq
    rw [← List.length_pos_iff, ← List.length_pos_iff, hlength]
  constructor
  · intro ok
    exact ⟨hnonempty.1 ok.nonempty, hnamed.1 ok.named, hentities.1 ok.entities, hnames.nodup_iff.1 ok.names,
      htitles.1 ok.titles⟩
  · intro ok
    exact ⟨hnonempty.2 ok.nonempty, hnamed.2 ok.named, hentities.2 ok.entities, hnames.nodup_iff.2 ok.names,
      htitles.2 ok.titles⟩

namespace Service.Reordered
variable {service other : Service}

theorem name (h : service.Reordered other) : service.name = other.name := by rw [← h.rest]

theorem title (h : service.Reordered other) : service.title = other.title := by rw [← h.rest]

theorem handlerOk_iff (h : service.Reordered other) : service.HandlerOk ↔ other.HandlerOk := by
  rw [← h.rest]
  rfl

end Service.Reordered

namespace MenuGroup.Reordered
variable {group other : MenuGroup}

theorem groupName (h : group.Reordered other) : group.groupName = other.groupName := by rw [← h.rest]

theorem groupTitle (h : group.Reordered other) : group.groupTitle = other.groupTitle := by rw [← h.rest]

theorem ok_iff (h : group.Reordered other) (services : List Service) : group.Ok services ↔ other.Ok services := by
  have hlisted : (∀ names, group.serviceNames = some names →
        ∀ name ∈ names, ∃ service ∈ services, service.name = name) ↔
      ∀ names, other.serviceNames = some names → ∀ name ∈ names, ∃ service ∈ services, service.name = name :=
    option_forall_iff h.listed fun _ _ hperm => by simp only [hperm.mem_iff]
  have hdirect : group.serviceNames = none ↔ other.serviceNames = none := option_eq_none_iff h.listed
  constructor
  · intro ok
    refine ⟨hlisted.1 ok.listed, fun hnone => ?_⟩
    rw [← h.groupName, ← h.groupTitle]
    exact ok.direct (hdirect.2 hnone)
  · intro ok
    refine ⟨hlisted.2 ok.listed, fun hnone => ?_⟩
    rw [h.groupName, h.groupTitle]
    exact ok.direct (hdirect.1 hnone)

end MenuGroup.Reordered

/-- A menu refers to services by name and title, wherever these stand. -/
theorem menuOk_iff_of_reordered {services others : List Service} {groups others' : List MenuGroup}
    (hservices : ReorderedBy Service.Reordered services others)
    (hgroups : ReorderedBy MenuGroup.Reordered groups others') : MenuOk services groups ↔ MenuOk others others' := by
  have hnames := hservices.map_perm (f := (·.name)) fun a b hab => hab.name
  have htitles := hservices.map_perm (f := (·.title)) fun a b hab => hab.title
  have hfound : MenuOk services groups ↔ MenuOk others groups :=
    ⟨MenuOk.mono hnames.subset htitles.subset, MenuOk.mono hnames.symm.subset htitles.symm.subset⟩
  have halone := hgroups.forall_iff fun a b hab => hab.ok_iff others
  have hgroupNames := hgroups.nodup_map_iff (f := (·.groupName)) fun a b hab => hab.groupName
  have hgroupTitles := hgroups.nodup_map_iff (f := (·.groupTitle)) fun a b hab => hab.groupTitle
  rw [hfound]
  -- from here on the services stay where they are
  constructor
  · intro ok
    exact ⟨halone.1 ok.alone, hgroupNames.1 ok.names, hgroupTitles.1 ok.titles⟩
  · intro ok
    exact ⟨halone.2 ok.alone, hgroupNames.2 ok.names, hgroupTitles.2 ok.titles⟩

theorem InputsPage.Reordered.ok_iff [PatternEngine] {page other : InputsPage} (h : page.Reordered other) :
    page.Ok ↔ other.Ok := by
  have hentities := h.services.forall_iff (p := fun service => EntitiesOk service.entity)
    fun a b hab => entitiesOk_iff_of_reordered hab.entities
  have hnames := h.services.nodup_map_iff (f := (·.name)) fun a b hab => hab.name
  have htitles := h.services.nodup_map_iff (f := (·.title)) fun a b hab => hab.title
  have hhandlers := h.services.forall_iff fun a b hab => hab.handlerOk_iff
  have hmenu : (∀ groups, page.multiLevelMenu = some groups → MenuOk page.services groups) ↔
      ∀ groups, other.multiLevelMenu = some groups → MenuOk other.services groups :=
    option_forall_iff h.menu fun _ _ hgroups => menuOk_iff_of_reordered h.services hgroups
  constructor
  · intro ok
    exact ⟨hentities.1 ok.entities, hnames.1 ok.names, htitles.1 ok.titles, hhandlers.1 ok.handlers, hmenu.1 ok.menu⟩
  · intro ok
    exact ⟨hentities.2 ok.entities, hnames.2 ok.names, htitles.2 ok.titles, hhandlers.2 ok.handlers, hmenu.2 ok.menu⟩

/-- Configurations that differ in the order of their lists, at whatever levels, are both accepted or both
refused. -/
theorem reordered_accepted_iff [PatternEngine] (config other : Config) (h : config.Reordered other) :
    config.check = .ok () ↔ other.check = .ok () := by
  rw [Config.check_eq_ok, Config.check_eq_ok]
  have htabs := option_forall_iff h.tabs fun _ _ htabs => tabsOk_iff_of_reordered htabs
  have hinputs := option_forall_iff h.inputs fun _ _ hpage => hpage.ok_iff
  rw [htabs, hinputs]

theorem ReorderedBy.reverse {α : Type} {R : α → α → Prop} {items others : List α} (h : List.Forall₂ R items others) :
    ReorderedBy R items others.reverse :=
  ⟨items.reverse, items.reverse_perm.symm, List.rel_reverse h⟩

section
variable (turn : ∀ α : Type, List α → List α)

/-- A field below an entity with its validators in the order that `turn` gives, as in all of the document. -/
def turnedSubField (field : String) : OAuthField := ⟨field, field, field, none, turn _ [.email, .url]⟩

def turnedChoices : List Choice :=
  turn _ [⟨.text "1", "One", none⟩,
    ⟨.text "2", "Two", some (turn _ [⟨.text "3", "Three", none⟩, ⟨.text "4", "Four", none⟩])⟩]

def turnedEntity : Entity where
  field := "oauth"
  label := "Authentication"
  type := .oauth
  required := none
  defaultValue := none
  help := none
  validators := turn _ [.email, .url]
  options := some ⟨some (turnedChoices turn), none, none, none,
    some (turn _ [turnedSubField turn "client_id", turnedSubField turn "client_secret"]),
    some (turn _ [turnedSubField turn "username", turnedSubField turn "password"]), none, []⟩

def turnedEntities : List Entity := turn _ [sampleEntity, turnedEntity turn]

def turnedConfig : Config where
  product := ⟨"addon", "addon", "1.0.0", "Addon", none⟩
  pages := ⟨some (turn _ [⟨"account", "Account", turnedEntities turn, some ⟨[], []⟩, none⟩,
      ⟨"logging", "Logging", turnedEntities turn, none, none⟩]),
    some ⟨none, turn _ [⟨"one", "One", turnedEntities turn, none, none, none, none⟩,
        ⟨"two", "Two", turnedEntities turn, none, none, none, none⟩],
      some (turn _ [⟨"two", "Two", none⟩, ⟨"all", "All", some (turn _ ["one", "two"])⟩])⟩⟩

end

theorem turnedSubField_reordered (field : String) :
    (turnedSubField (fun _ => id) field).Reordered (turnedSubField (fun _ => List.reverse) field) :=
  ⟨(List.reverse_perm _).symm, rfl⟩

theorem turnedChoices_reordered :
    ReorderedBy Choice.Reordered (turnedChoices fun _ => id) (turnedChoices fun _ => List.reverse) := by
  have hchildren : List.Forall₂ Choice.Reordered [⟨.text "4", "Four", none⟩, ⟨.text "3", "Three", none⟩]
      [⟨.text "4", "Four", none⟩, ⟨.text "3", "Three", none⟩] :=
    List.forall₂_same.2 fun child _ => .refl child
  exact .reverse (.cons (.refl _) (.cons (.group _ _ (List.reverse_perm _).symm hchildren) .nil))

theorem turnedEntities_reordered :
    ReorderedBy Entity.Reordered (turnedEntities fun _ => id) (turnedEntities fun _ => List.reverse) := by
  have hplain : sampleEntity.Reordered sampleEntity := ⟨.refl _, .none, rfl⟩
  have hsubs (first second : String) : ReorderedBy OAuthField.Reordered
      [turnedSubField (fun _ => id) first, turnedSubField (fun _ => id) second]
      [turnedSubField (fun _ => List.reverse) first, turnedSubField (fun _ => List.reverse) second].reverse :=
    .reverse (.cons (turnedSubField_reordered first) (.cons (turnedSubField_reordered second) .nil))
  have hoauth : (turnedEntity fun _ => id).Reordered (turnedEntity fun _ => List.reverse) :=
    ⟨(List.reverse_perm _).symm,
      .some ⟨.some turnedChoices_reordered, .some (hsubs _ _), .some (hsubs _ _), rfl⟩, rfl⟩
  exact .reverse (.cons hplain (.cons hoauth .nil))

theorem turnedConfig_accepted :
    (turnedConfig fun _ => id).Reordered (turnedConfig fun _ => List.reverse) ∧
      ∀ [PatternEngine],
        (turnedConfig fun _ => id).check = .ok () ∧ (turnedConfig fun _ => List.reverse).check = .ok () := by
  have htabs : Option.Rel (ReorderedBy Tab.Reordered) (turnedConfig fun _ => id).pages.configuration
      (turnedConfig fun _ => List.reverse).pages.configuration :=
    .some (.reverse (.cons ⟨turnedEntities_reordered, rfl⟩ (.cons ⟨turnedEntities_reordered, rfl⟩ .nil)))
  have hservices : Option.Rel InputsPage.Reordered (turnedConfig fun _ => id).pages.inputs
      (turnedConfig fun _ => List.reverse).pages.inputs :=
    .some ⟨.reverse (.cons ⟨turnedEntities_reordered, rfl⟩ (.cons ⟨turnedEntities_reordered, rfl⟩ .nil)),
      .some (.reverse (.cons ⟨.none, rfl⟩ (.cons ⟨.some (List.reverse_perm _).symm, rfl⟩ .nil))), rfl⟩
  have hreordered : (turnedConfig fun _ => id).Reordered (turnedConfig fun _ => List.reverse) :=
    ⟨htabs, hservices, rfl⟩
  refine ⟨hreordered, ?_⟩
  intro
  have haccepted : (turnedConfig fun _ => id).check = .ok () := rfl
  exact ⟨haccepted, (reordered_accepted_iff _ _ hreordered).1 haccepted⟩

end AddonConfig
