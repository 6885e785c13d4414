import AddonConfig.Proofs.FirstDefect
import Mathlib.Data.List.Forall2

/-!
# Members that no rule reads

`Config.DiffersUnread` relates configurations that are alike in all that the rules read: product data, tables,
conf names, messages of validators and the like may be anything. A list of checks over related items ends alike
if each item is checked alike (`Check.forM_congr`), so what is to be shown is shown of one entity
(`Entity.CheckedAlike`) and carried through tabs, services, menu and pages (`Config.check_congr`), where the
relation of the entities is left open.
-/

namespace AddonConfig

/-! ### Lists that are checked alike -/

section
variable {α β κ : Type} {R : α → β → Prop} {items : List α} {others : List β}

theorem Check.forM_congr {f : α → Check} {g : β → Check} (h : List.Forall₂ R items others)
    (hfg : ∀ a b, R a b → f a = g b) : items.forM f = others.forM g := by
  induction h with
  | nil => rfl
  | @cons a b items others hab _ ih =>
    show (f a >>= fun _ => items.forM f) = (g b >>= fun _ => others.forM g)
    rw [hfg a b hab, ih]

theorem map_congr_of_forall₂ {f : α → κ} {g : β → κ} (h : List.Forall₂ R items others)
    (hfg : ∀ a b, R a b → f a = g b) : items.map f = others.map g := by
  rw [← List.forall₂_eq_eq_eq, List.forall₂_map_left_iff, List.forall₂_map_right_iff]
  exact h.imp hfg

theorem any_congr_of_forall₂ {p : α → Bool} {q : β → Bool} (h : List.Forall₂ R items others)
    (hpq : ∀ a b, R a b → p a = q b) : items.any p = others.any q := by
  induction h with
  | nil => rfl
  | cons hab _ ih => rw [List.any_cons, List.any_cons, hpq _ _ hab, ih]

/-- Only the keys of the items matter. -/
theorem findDuplicates_congr [DecidableEq κ] {f : α → κ} {g : β → κ} (h : List.Forall₂ R items others)
    (hfg : ∀ a b, R a b → f a = g b) : findDuplicates f items = findDuplicates g others := by
  rw [findDuplicates, findDuplicates, map_congr_of_forall₂ h hfg]

end

theorem findPairDuplicates_congr {α : Type} {R : α → α → Prop} {items others : List α} {left right : α → String}
    (h : List.Forall₂ R items others) (hleft : ∀ a b, R a b → left a = left b)
    (hright : ∀ a b, R a b → right a = right b) :
    findPairDuplicates left right items = findPairDuplicates left right others := by
  rw [findPairDuplicates, findPairDuplicates, findDuplicates_congr h hleft, findDuplicates_congr h hright]

/-! ### Documents that differ in what is not read -/

/-- A validator without its message. -/
def Validator.withoutMessage : Validator → Validator
  | .string least greatest _ => .string least greatest none
  | .number range _ => .number range none
  | .regex pattern _ => .regex pattern none
  | validator => validator

/-- Validators that differ in their message. -/
def Validator.DiffersUnread (validator changed : Validator) : Prop := validator.withoutMessage = changed.withoutMessage

/-- Choices that differ in the children of their children. -/
structure Choice.DiffersUnread (choice other : Choice) : Prop where
  children : Option.Rel (List.Forall₂ fun child child' => { child with children := child'.children } = child')
    choice.children other.children
  rest : { choice with children := other.children } = other

/-- Fields below an entity that differ in flow name, in being required and in the messages of validators. -/
structure OAuthField.DiffersUnread (sub other : OAuthField) : Prop where
  validators : List.Forall₂ Validator.DiffersUnread sub.validators other.validators
  rest : { sub with
    oauthField := other.oauthField, required := other.required, validators := other.validators } = other

/-- Options of an entity of that type. Sizes, messages, kinds of authentication and options of unknown name
differ as they like, the file types as long as there are some in both; the fields below count for `oauth`
entities alone. -/
structure EntityOptions.DiffersUnread (type : EntityType) (options other : EntityOptions) : Prop where
  choices : Option.Rel (List.Forall₂ Choice.DiffersUnread) options.autoCompleteFields other.autoCompleteFields
  fileTypes : options.supportedFileTypes.isSome = other.supportedFileTypes.isSome
  oauth : type = .oauth → Option.Rel (List.Forall₂ OAuthField.DiffersUnread) options.oauth other.oauth
  basic : type = .oauth → Option.Rel (List.Forall₂ OAuthField.DiffersUnread) options.basic other.basic

/-- Entities that differ in being required, default value, help, messages of validators and unread options. -/
structure Entity.DiffersUnread (entity other : Entity) : Prop where
  validators : List.Forall₂ Validator.DiffersUnread entity.validators other.validators
  options : Option.Rel (EntityOptions.DiffersUnread entity.type) entity.options other.options
  rest : { entity with
    required := other.required, defaultValue := other.defaultValue, help := other.help,
    validators := other.validators, options := other.options } = other

/-- Tabs that differ in table, conf name and entities, the entities as `R` says. -/
structure Tab.DiffersUnread (R : Entity → Entity → Prop) (tab other : Tab) : Prop where
  entities : List.Forall₂ R tab.entity other.entity
  rest : { tab with entity := other.entity, table := other.table, confName := other.confName } = other

/-- Services that differ in conf name, entities and handler; the same handler members are there. -/
structure Service.DiffersUnread (R : Entity → Entity → Prop) (service other : Service) : Prop where
  entities : List.Forall₂ R service.entity other.entity
  named : service.restHandlerName.isSome = other.restHandlerName.isSome
  inModule : service.restHandlerModule.isSome = other.restHandlerModule.isSome
  ofClass : service.restHandlerClass.isSome = other.restHandlerClass.isSome
  rest : { service with
    entity := other.entity, confName := other.confName, restHandlerName := other.restHandlerName,
    restHandlerModule := other.restHandlerModule, restHandlerClass := other.restHandlerClass } = other

/-- Pages that differ in title and services; the menu is the same. -/
structure InputsPage.DiffersUnread (R : Entity → Entity → Prop) (page other : InputsPage) : Prop where
  services : List.Forall₂ (Service.DiffersUnread R) page.services other.services
  rest : { page with title := other.title, services := other.services } = other

/-- Configurations of any two products that have the same pages up to members that are not read. -/
structure Config.DiffersUnread (R : Entity → Entity → Prop) (config other : Config) : Prop where
  tabs : Option.Rel (List.Forall₂ (Tab.DiffersUnread R)) config.pages.configuration other.pages.configuration
  inputs : Option.Rel (InputsPage.DiffersUnread R) config.pages.inputs other.pages.inputs

/-! ### Rules that ask for no pattern -/

theorem checkChildren_congr {R : Choice → Choice → Prop} (entity : String) {choices others : List Choice}
    (h : List.Forall₂ R choices others) (hvalue : ∀ a b, R a b → a.value = b.value)
    (hlabel : ∀ a b, R a b → a.label = b.label) : checkChildren entity choices = checkChildren entity others := by
  have hvalues : findDuplicates (·.value.display) choices = findDuplicates (·.value.display) others :=
    findDuplicates_congr h fun a b hab => by rw [hvalue a b hab]
  rw [checkChildren, checkChildren, hvalues, findDuplicates_congr h hlabel]

/-- The children of a group are compared by value and label, and what is below them is not looked at. -/
theorem checkChoices_congr (entity : String) {choices others : List Choice}
    (h : List.Forall₂ Choice.DiffersUnread choices others) :
    checkChoices entity choices = checkChoices entity others := by
  have hlabel (a b : Choice) (hab : a.DiffersUnread b) : a.label = b.label := by rw [← hab.rest]
  have hflat : checkChildren entity choices = checkChildren entity others :=
    checkChildren_congr entity h (fun a b hab => by rw [← hab.rest]) hlabel
  have hlabels : checkGroupLabels entity choices = checkGroupLabels entity others := by
    rw [checkGroupLabels, checkGroupLabels, findDuplicates_congr h hlabel]
  have hgroups : List.Forall₂
      (List.Forall₂ fun child child' : Choice => { child with children := child'.children } = child')
      (choiceGroups choices) (choiceGroups others) :=
    List.rel_filterMap (fun _ _ hab => hab.children) h
  rw [checkChoices, checkChoices]
  generalize choiceGroups choices = groups, choiceGroups others = groups' at hgroups ⊢
  cases hgroups with
  | nil => exact hflat
  | cons hfirst hrest =>
    have hchildren := Check.forM_congr (.cons hfirst hrest) fun a b hab => checkChildren_congr entity hab
      (fun c d hcd => by rw [← hcd]) fun c d hcd => by rw [← hcd]
    simp only [hchildren, hlabels]

theorem EntityOptions.DiffersUnread.subFields {options other : EntityOptions}
    (h : options.DiffersUnread .oauth other) :
    List.Forall₂ OAuthField.DiffersUnread (Entity.subFields options) (Entity.subFields other) := by
  have hlist {subs subs' : Option (List OAuthField)}
      (h : Option.Rel (List.Forall₂ OAuthField.DiffersUnread) subs subs') :
      List.Forall₂ OAuthField.DiffersUnread (subs.getD []) (subs'.getD []) := by
    cases h with
    | none => exact .nil
    | some h => exact h
  exact List.rel_append (hlist (h.oauth rfl)) (hlist (h.basic rfl))

theorem Entity.DiffersUnread.file {entity other : Entity} (h : entity.DiffersUnread other) :
    checkFile entity = checkFile other := by
  have hfield : entity.field = other.field := by rw [← h.rest]
  have hfile : entity.isFile = other.isFile := by rw [← h.rest]; rfl
  have hoptions := h.options
  rw [checkFile, checkFile, hfile, hfield]
  generalize entity.options = options, other.options = options' at hoptions ⊢
  cases hoptions with
  | none => rfl
  | some hsame => simp only [← Option.not_isSome, hsame.fileTypes]

theorem Entity.DiffersUnread.choices {entity other : Entity} (h : entity.DiffersUnread other) :
    Option.Rel (fun a b => checkChoices entity.label a = checkChoices other.label b) entity.choices other.choices := by
  have hlabel : entity.label = other.label := by rw [← h.rest]
  have hoptions := h.options
  rw [hlabel, Entity.choices, Entity.choices]
  generalize entity.options = options, other.options = options' at hoptions ⊢
  cases hoptions with
  | none => exact .none
  | @some options options' hsame =>
    have hchoices := hsame.choices
    rw [Option.bind_some, Option.bind_some]
    generalize options.autoCompleteFields = choices, options'.autoCompleteFields = choices' at hchoices ⊢
    cases hchoices with
    | none => exact .none
    | some hlist => exact .some (checkChoices_congr _ hlist)

theorem Service.DiffersUnread.handler {R : Entity → Entity → Prop} {service other : Service}
    (h : service.DiffersUnread R other) : service.checkHandler = other.checkHandler := by
  have hname : service.name = other.name := by rw [← h.rest]
  rw [checkHandler, checkHandler, h.named, h.inModule, h.ofClass, hname]

/-- A menu refers to names and titles of services. -/
theorem checkMenu_congr {R : Entity → Entity → Prop} {services others : List Service}
    (h : List.Forall₂ (Service.DiffersUnread R) services others) : checkMenu services = checkMenu others := by
  have hnames (name : String) : services.any (·.name == name) = others.any (·.name == name) :=
    any_congr_of_forall₂ h fun _ _ hservice => by rw [← hservice.rest]
  have htitles (title : String) : services.any (·.title == title) = others.any (·.title == title) :=
    any_congr_of_forall₂ h fun _ _ hservice => by rw [← hservice.rest]
  have hreference : checkReference services = checkReference others :=
    funext fun name => by rw [checkReference, checkReference, hnames]
  have hgroup : MenuGroup.check services = MenuGroup.check others := by
    funext group
    rw [MenuGroup.check, MenuGroup.check, hreference, checkIdentity, checkIdentity, hnames, htitles]
  funext groups
  rw [checkMenu, checkMenu, hgroup]

/-! ### Entities that are checked alike -/

section
variable [PatternEngine]

/-- Views of a field that have the same keys and the same defect, if any. -/
structure FieldView.CheckedAlike (view other : FieldView) : Prop where
  field : view.field = other.field
  label : view.label = other.label
  check : view.check = other.check

/-- Entities in which the rules find the same, alone and beside others. -/
structure Entity.CheckedAlike (entity other : Entity) : Prop where
  field : entity.field = other.field
  fields : List.Forall₂ FieldView.CheckedAlike entity.fields other.fields
  file : checkFile entity = checkFile other
  choices : Option.Rel (fun a b => checkChoices entity.label a = checkChoices other.label b)
    entity.choices other.choices

theorem Entity.CheckedAlike.check {entity other : Entity} (h : entity.CheckedAlike other) :
    entity.check = other.check := by
  have hviews : entity.fields.forM FieldView.check = other.fields.forM FieldView.check :=
    Check.forM_congr h.fields fun _ _ hview => hview.check
  rw [Entity.check, Entity.check, h.file, hviews]

theorem checkEntities_congr {entities others : List Entity}
    (h : List.Forall₂ Entity.CheckedAlike entities others) : checkEntities entities = checkEntities others := by
  have halone : entities.forM Entity.check = others.forM Entity.check :=
    Check.forM_congr h fun _ _ halike => halike.check
  have hfields : List.Forall₂ FieldView.CheckedAlike (entities.flatMap Entity.fields) (others.flatMap Entity.fields) :=
    List.rel_flatMap h fun _ _ halike => halike.fields
  have hkeys : checkFieldKeys entities = checkFieldKeys others := by
    rw [checkFieldKeys, checkFieldKeys,
      findPairDuplicates_congr hfields (fun _ _ hview => hview.field) fun _ _ hview => hview.label]
  rw [checkEntities, checkEntities, checkEntityKeys, checkEntityKeys, halone, hkeys]
  refine congrArg _ (funext fun _ => congrArg _ (funext fun _ => Check.forM_congr h fun entity other halike => ?_))
  have hchoices := halike.choices
  generalize entity.choices = choices, other.choices = choices' at hchoices ⊢
  cases hchoices with
  | none => rfl
  | some hsame => exact hsame

/-! ### From entities to the document -/

section
variable {R : Entity → Entity → Prop} (alike : ∀ a b, R a b → Entity.CheckedAlike a b)
include alike

theorem Tab.DiffersUnread.check {tab other : Tab} (h : tab.DiffersUnread R other) : tab.check = other.check := by
  have hname : tab.name = other.name := by rw [← h.rest]
  have hany : tab.entity.any (·.field == nameField) = other.entity.any (·.field == nameField) :=
    any_congr_of_forall₂ h.entities fun a b hab => by rw [(alike a b hab).field]
  have hentities : checkEntities tab.entity = checkEntities other.entity :=
    checkEntities_congr (h.entities.imp alike)
  rw [Tab.check, Tab.check, checkName, checkName, hname, hany, hentities]

theorem checkTabs_congr {tabs others : List Tab} (h : List.Forall₂ (Tab.DiffersUnread R) tabs others) :
    checkTabs tabs = checkTabs others := by
  have hcount : checkTabCount tabs = checkTabCount others := by
    cases h <;> rfl
  have halone : tabs.forM Tab.check = others.forM Tab.check :=
    Check.forM_congr h fun _ _ htab => htab.check alike
  have hkeys : checkTabKeys tabs = checkTabKeys others := by
    rw [checkTabKeys, checkTabKeys,
      findPairDuplicates_congr h (fun _ _ htab => by rw [← htab.rest]) fun _ _ htab => by rw [← htab.rest]]
  rw [checkTabs, checkTabs, hcount, halone, hkeys]

theorem InputsPage.DiffersUnread.check {page other : InputsPage} (h : page.DiffersUnread R other) :
    page.check = other.check := by
  have hentities : page.services.forM (fun service => checkEntities service.entity)
      = other.services.forM fun service => checkEntities service.entity :=
    Check.forM_congr h.services fun _ _ hservice => checkEntities_congr (hservice.entities.imp alike)
  have hkeys : checkServiceKeys page.services = checkServiceKeys other.services := by
    rw [checkServiceKeys, checkServiceKeys, findPairDuplicates_congr h.services
      (fun _ _ hservice => by rw [← hservice.rest]) fun _ _ hservice => by rw [← hservice.rest]]
  have hhandlers : page.services.forM Service.checkHandler = other.services.forM Service.checkHandler :=
    Check.forM_congr h.services fun _ _ hservice => hservice.handler
  have hmenu : page.multiLevelMenu = other.multiLevelMenu := by rw [← h.rest]
  rw [InputsPage.check, InputsPage.check, hentities, hkeys, hhandlers, hmenu, checkMenu_congr h.services]

/-- Configurations whose entities are checked alike are checked alike. -/
theorem Config.check_congr {config other : Config} (h : config.DiffersUnread R other) :
    config.check = other.check := by
  obtain ⟨product, configuration, inputs⟩ := config
  obtain ⟨product', configuration', inputs'⟩ := other
  obtain ⟨htabs, hinputs⟩ := h
  unfold Config.check
  cases htabs with
  | none =>
    cases hinputs with
    | none => rfl
    | some hpage => simp only [hpage.check alike]
  | some htabs =>
    cases hinputs with
    | none => simp only [checkTabs_congr alike htabs]
    | some hpage => simp only [checkTabs_congr alike htabs, hpage.check alike]

end

/-! ### Entities that differ in what is not read -/

theorem Validator.check_withoutMessage (field : String) (validator : Validator) :
    validator.withoutMessage.check field = validator.check field := by
  cases validator <;> rfl

theorem Validator.DiffersUnread.check {validator changed : Validator} (h : validator.DiffersUnread changed)
    (field : String) : validator.check field = changed.check field := by
  rw [← check_withoutMessage field validator, h, check_withoutMessage]

theorem FieldView.checkedAlike {view other : FieldView} (field : view.field = other.field)
    (label : view.label = other.label)
    (validators : List.Forall₂ Validator.DiffersUnread view.validators other.validators) :
    view.CheckedAlike other := by
  refine ⟨field, label, ?_⟩
  rw [FieldView.check, FieldView.check, field]
  exact Check.forM_congr validators fun _ _ hvalidator => hvalidator.check other.field

theorem Entity.DiffersUnread.fields {entity other : Entity} (h : entity.DiffersUnread other) :
    List.Forall₂ FieldView.CheckedAlike entity.fields other.fields := by
  have htype : entity.type = other.type := by rw [← h.rest]
  have hoptions := h.options
  unfold Entity.fields
  rw [← htype]
  split
  · rename_i hoauth
    rw [hoauth] at hoptions
    generalize entity.options = options, other.options = options' at hoptions ⊢
    cases hoptions with
    | none => exact .nil
    | some hsame =>
      simp only [List.forall₂_map_left_iff, List.forall₂_map_right_iff]
      exact hsame.subFields.imp fun _ _ hsub =>
        FieldView.checkedAlike (by rw [← hsub.rest]) (by rw [← hsub.rest]) hsub.validators
  · exact .cons (FieldView.checkedAlike (by rw [← h.rest]) (by rw [← h.rest]) h.validators) .nil

theorem Entity.DiffersUnread.checkedAlike {entity other : Entity} (h : entity.DiffersUnread other) :
    entity.CheckedAlike other :=
  ⟨by rw [← h.rest], h.fields, h.file, h.choices⟩

/-- Configurations that differ in nothing that a rule reads are checked with one result, which is the same defect
where there is one, with all that it says. -/
theorem unread_members_unseen (config other : Config) (h : config.DiffersUnread Entity.DiffersUnread other) :
    config.check = other.check :=
  Config.check_congr (fun _ _ hentity => hentity.checkedAlike) h

end

/-- A group whose child has children of that label. -/
def filledGroup (filler : Option String) : Choice :=
  ⟨.text "all", "All", some [⟨.text "one", "One", filler.map fun label => [⟨.flag true, label, none⟩]⟩]⟩

/-- A field below an entity, with a length to check. -/
def filledSubField (filler : Option String) : OAuthField :=
  ⟨filler.getD "flow", "Client Id", "client_id", filler.map fun _ => true, [.string (some 1) (some 50) filler]⟩

/-- An entity of that type whose unread members are filled in. -/
def filledEntity (type : EntityType) (field : String) (oauth : Option (List OAuthField)) (filler : Option String) :
    Entity :=
  ⟨field, field, type, filler.map fun _ => false, filler.map .str, filler, [.regex "^a" filler],
    some ⟨some [filledGroup filler], some filler.toList, filler.map (·.length), filler, oauth, none,
      filler.map ([·]), (filler.map fun word => (word, .null)).toList⟩⟩

/-- A configuration whose menu names a service that is not there; its unread members are filled in. -/
def filledConfig (filler : Option String) : Config where
  product := ⟨filler.getD "addon", filler.getD "addon", "1.0.0", "Addon", filler⟩
  pages := ⟨some [⟨"account", "Account", [filledEntity .file "name" (filler.map fun _ => []) filler,
      filledEntity .oauth "login" (some [filledSubField filler]) filler], filler.map fun word => ⟨[], [word]⟩, filler⟩],
    some ⟨filler, [⟨"input", "Input", [], filler, none, some (filler.getD "module"), some (filler.getD "Class")⟩],
      some [⟨"input", "Input", some ["input", "output"]⟩]⟩⟩

theorem filledEntity_differsUnread (type : EntityType) (field : String) {oauth oauth' : Option (List OAuthField)}
    (filler filler' : Option String)
    (hoauth : type = .oauth → Option.Rel (List.Forall₂ OAuthField.DiffersUnread) oauth oauth') :
    (filledEntity type field oauth filler).DiffersUnread (filledEntity type field oauth' filler') := by
  have hgroup : (filledGroup filler).DiffersUnread (filledGroup filler') := ⟨.some (.cons rfl .nil), rfl⟩
  exact ⟨.cons rfl .nil, .some ⟨.some (.cons hgroup .nil), rfl, hoauth, fun _ => .none⟩, rfl⟩

theorem filledConfig_differsUnread (filler filler' : Option String) :
    (filledConfig filler).DiffersUnread Entity.DiffersUnread (filledConfig filler') := by
  have hsub : (filledSubField filler).DiffersUnread (filledSubField filler') := ⟨.cons rfl .nil, rfl⟩
  have hfile : (filledEntity .file "name" (filler.map fun _ => []) filler).DiffersUnread
      (filledEntity .file "name" (filler'.map fun _ => []) filler') :=
    filledEntity_differsUnread .file "name" filler filler' fun h => by cases h
  have hlogin := filledEntity_differsUnread .oauth "login" filler filler' fun _ => .some (.cons hsub .nil)
  exact ⟨.some (.cons ⟨.cons hfile (.cons hlogin .nil), rfl⟩ .nil),
    .some ⟨.cons ⟨.nil, rfl, rfl, rfl, rfl⟩ .nil, rfl⟩⟩

/-- Whatever is filled in, the same service is missed. -/
theorem filledConfig_unseen :
    (filledConfig none).DiffersUnread Entity.DiffersUnread (filledConfig (some "x")) ∧
      ∀ engine : PatternEngine, engine.compiles "^a" = true →
        (filledConfig none).check = .error (.unknownService "output") ∧
          (filledConfig (some "x")).check = .error (.unknownService "output") := by
  have hdiffer := filledConfig_differsUnread none (some "x")
  refine ⟨hdiffer, fun engine hcompiles => ?_⟩
  have hpatterns : (filledConfig none).patterns = ["^a"] := by decide +kernel
  have hengine : (filledConfig none).check = @Config.check ⟨fun _ => true⟩ (filledConfig none) :=
    Config.check_congr_engine _ (by simpa [hpatterns] using hcompiles)
  have hmissed : (filledConfig none).check = .error (.unknownService "output") :=
    hengine.trans (by decide +kernel)
  exact ⟨hmissed, by rw [← unread_members_unseen _ _ hdiffer, hmissed]⟩

end AddonConfig
