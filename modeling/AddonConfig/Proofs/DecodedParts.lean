import AddonConfig.Proofs.ReadBack

/-!
# The parts that a record is decoded from

Every tab and service of a decoded configuration was decoded from a part of the document, and so was every field
in it, every field below one, every option set and every validator. What holds of a value together with all its
parts (`Json.Hereditary`) is so carried from the document to the part that anything was decoded from.
-/

namespace AddonConfig

/-- What holds of an array holds of its items, and what holds of an object holds of its members. -/
structure Json.Hereditary (P : Json → Prop) : Prop where
  items : ∀ {items : List Json}, P (.arr items) → ∀ item ∈ items, P item
  members : ∀ {members : Members}, P (.obj members) → ∀ entry ∈ members, P entry.2

/-- What holds of every value is hereditary. -/
theorem Json.Hereditary.always : Json.Hereditary fun _ => True := ⟨fun _ _ _ => trivial, fun _ _ _ => trivial⟩

/-- The value was decoded from a part of some kind. -/
def DecodedFrom {α : Type} (P : Json → Prop) (decode : Decoder α) (a : α) : Prop :=
  ∃ part, P part ∧ decode part = .ok a

section
variable {α : Type} {P : Json → Prop} (hP : Json.Hereditary P)
include hP

theorem DecodedFrom.list {item : Decoder α} {results : List α} (h : DecodedFrom P item.list results) :
    ∀ a ∈ results, DecodedFrom P item a := by
  obtain ⟨part, hpart, hread⟩ := h
  obtain ⟨items, rfl, hitems⟩ := Decoder.list_eq_ok hread
  intro a ha
  obtain ⟨item, hmem, hitem⟩ := exists_of_forall₂ hitems ha
  exact ⟨item, hP.items hpart item hmem, hitem⟩

/-- The items of a list that may be absent. -/
theorem DecodedFrom.optionalList {item : Decoder α} {o : Option (List α)}
    (h : ∀ list, o = some list → ∃ value, P value ∧ value ≠ .null ∧ item.list value = .ok list) :
    ∀ a ∈ o.getD [], DecodedFrom P item a := by
  cases o with
  | none => simp
  | some results =>
    obtain ⟨value, hvalue, -, hread⟩ := h results rfl
    exact DecodedFrom.list hP ⟨value, hvalue, hread⟩

theorem DecodedFrom.yields {record : Record α} [record.Declared] {title : String} {x : α}
    (h : DecodedFrom P (record.decoder title) x) : record.Yields P x := by
  obtain ⟨part, hpart, hread⟩ := h
  refine Record.yields_of_decoder hread ?_ ?_
  · rintro members rfl
    exact hP.members hpart
  · rintro items rfl
    exact hP.items hpart

/-! ### Validators -/

/-- The bounds of a range were decoded from a list. -/
theorem DecodedFrom.range {range : List Binary64} {message : Option String}
    (h : DecodedFrom P Validator.decode (.number range message)) : DecodedFrom P Decoder.double.list range := by
  obtain ⟨part, hpart, hread⟩ := h
  obtain ⟨tag, hgives⟩ := Validator.decode_gives (P := P) hread (fun _ hobj => hP.members (hobj ▸ hpart))
    fun _ harr => hP.items (harr ▸ hpart)
  cases tag with
  | string =>
    obtain ⟨f₃, errorMsg, h₃, -, hx⟩ := Record.Yields.optional hgives
    obtain ⟨f₂, maxLength, h₂, -, rfl⟩ := h₃.optional
    obtain ⟨f₁, minLength, h₁, -, rfl⟩ := h₂.optional
    obtain rfl := h₁.done
    cases hx
  | number =>
    obtain ⟨f₂, errorMsg, h₂, -, hx⟩ := Record.Yields.optional hgives
    obtain ⟨f₁, bounds, h₁, hbounds, rfl⟩ := h₂.required
    obtain rfl := h₁.done
    cases hx
    exact hbounds
  | regex =>
    obtain ⟨f₂, errorMsg, h₂, -, hx⟩ := Record.Yields.optional hgives
    obtain ⟨f₁, pattern, h₁, -, rfl⟩ := h₂.required
    obtain rfl := h₁.done
    cases hx
  | email | ipv4 | date | url | other => cases hgives

/-! ### Fields -/

theorem OAuthField.validators_decoded {sub : OAuthField} (h : DecodedFrom P OAuthField.decode sub) :
    ∀ validator ∈ sub.validators, DecodedFrom P Validator.decode validator := by
  obtain ⟨f₅, validators, h₅, hvalidators, rfl⟩ := (h.yields hP).defaulted fun _ => hP.items
  obtain ⟨f₄, isRequired, h₄, -, rfl⟩ := h₅.optional
  obtain ⟨f₃, field, h₃, -, rfl⟩ := h₄.required
  obtain ⟨f₂, label, h₂, -, rfl⟩ := h₃.required
  obtain ⟨f₁, oauthField, h₁, -, rfl⟩ := h₂.required
  obtain rfl := h₁.done
  exact hvalidators

/-- The fields below an entity, in either list. -/
theorem EntityOptions.subFields_decoded {options : EntityOptions} (h : DecodedFrom P EntityOptions.decode options) :
    ∀ sub ∈ Entity.subFields options, DecodedFrom P OAuthField.decode sub := by
  obtain ⟨part, hpart, hread⟩ := h
  obtain ⟨members, build, rfl, hbuild, rfl⟩ := EntityOptions.decode_inv hread
  have hyields : EntityOptions.known.Yields P build :=
    .inl ⟨_, fun name value hget => hP.members hpart _ (Members.mem_of_get? hget), hbuild⟩
  obtain ⟨f₇, authType, h₇, -, rfl⟩ := hyields.optional
  obtain ⟨f₆, basic, h₆, hbasic, rfl⟩ := h₇.optional
  obtain ⟨f₅, oauth, h₅, hoauth, rfl⟩ := h₆.optional
  obtain ⟨f₄, message, h₄, -, rfl⟩ := h₅.optional
  obtain ⟨f₃, size, h₃, -, rfl⟩ := h₄.optional
  obtain ⟨f₂, types, h₂, -, rfl⟩ := h₃.optional
  obtain ⟨f₁, choices, h₁, -, rfl⟩ := h₂.optional
  obtain rfl := h₁.done
  intro sub hsub
  rcases List.mem_append.1 hsub with hsub | hsub
  · exact DecodedFrom.optionalList hP hoauth sub hsub
  · exact DecodedFrom.optionalList hP hbasic sub hsub

theorem Entity.parts_decoded {entity : Entity} (h : DecodedFrom P Entity.decode entity) :
    (∀ validator ∈ entity.validators, DecodedFrom P Validator.decode validator) ∧
      ∀ options, entity.options = some options → DecodedFrom P EntityOptions.decode options := by
  obtain ⟨f₈, options, h₈, hoptions, rfl⟩ := (h.yields hP).optional
  obtain ⟨f₇, validators, h₇, hvalidators, rfl⟩ := h₈.defaulted fun _ => hP.items
  obtain ⟨f₆, help, h₆, -, rfl⟩ := h₇.optional
  obtain ⟨f₅, defaultValue, h₅, -, rfl⟩ := h₆.optional
  obtain ⟨f₄, isRequired, h₄, -, rfl⟩ := h₅.optional
  obtain ⟨f₃, type, h₃, -, rfl⟩ := h₄.required
  obtain ⟨f₂, label, h₂, -, rfl⟩ := h₃.required
  obtain ⟨f₁, field, h₁, -, rfl⟩ := h₂.required
  obtain rfl := h₁.done
  refine ⟨hvalidators, fun x hx => ?_⟩
  obtain ⟨value, hvalue, -, hread⟩ := hoptions x hx
  exact ⟨value, hvalue, hread⟩

/-! ### Pages -/

theorem Tab.entities_decoded {tab : Tab} (h : DecodedFrom P Tab.decode tab) :
    ∀ entity ∈ tab.entity, DecodedFrom P Entity.decode entity := by
  obtain ⟨f₅, confName, h₅, -, rfl⟩ := (h.yields hP).optional
  obtain ⟨f₄, table, h₄, -, rfl⟩ := h₅.optional
  obtain ⟨f₃, entity, h₃, hentity, rfl⟩ := h₄.required
  obtain ⟨f₂, title, h₂, -, rfl⟩ := h₃.required
  obtain ⟨f₁, name, h₁, -, rfl⟩ := h₂.required
  obtain rfl := h₁.done
  exact DecodedFrom.list hP hentity

theorem Service.entities_decoded {service : Service} (h : DecodedFrom P Service.decode service) :
    ∀ entity ∈ service.entity, DecodedFrom P Entity.decode entity := by
  obtain ⟨f₇, handlerClass, h₇, -, rfl⟩ := (h.yields hP).optional
  obtain ⟨f₆, handlerModule, h₆, -, rfl⟩ := h₇.optional
  obtain ⟨f₅, handlerName, h₅, -, rfl⟩ := h₆.optional
  obtain ⟨f₄, confName, h₄, -, rfl⟩ := h₅.optional
  obtain ⟨f₃, entity, h₃, hentity, rfl⟩ := h₄.required
  obtain ⟨f₂, title, h₂, -, rfl⟩ := h₃.required
  obtain ⟨f₁, name, h₁, -, rfl⟩ := h₂.required
  obtain rfl := h₁.done
  exact DecodedFrom.list hP hentity

theorem InputsPage.services_decoded {page : InputsPage} (h : DecodedFrom P InputsPage.decode page) :
    ∀ service ∈ page.services, DecodedFrom P Service.decode service := by
  obtain ⟨f₃, menu, h₃, -, rfl⟩ := (h.yields hP).optional
  obtain ⟨f₂, services, h₂, hservices, rfl⟩ := h₃.required
  obtain ⟨f₁, title, h₁, -, rfl⟩ := h₂.optional
  obtain rfl := h₁.done
  exact DecodedFrom.list hP hservices

theorem Pages.parts_decoded {pages : Pages} (h : DecodedFrom P Pages.decode pages) :
    (∀ tab ∈ pages.configuration.getD [], DecodedFrom P Tab.decode tab) ∧
      ∀ page, pages.inputs = some page → DecodedFrom P InputsPage.decode page := by
  obtain ⟨f₂, inputs, h₂, hinputs, rfl⟩ := (h.yields hP).optional
  obtain ⟨f₁, configuration, h₁, htabs, rfl⟩ := h₂.optional
  obtain rfl := h₁.done
  refine ⟨DecodedFrom.optionalList hP htabs, fun page hpage => ?_⟩
  obtain ⟨value, hvalue, -, hread⟩ := hinputs page hpage
  exact ⟨value, hvalue, hread⟩

theorem Config.pages_decoded {config : Config} (h : DecodedFrom P Config.decode config) :
    DecodedFrom P Pages.decode config.pages := by
  obtain ⟨f₂, pages, h₂, hpages, rfl⟩ := (h.yields hP).required
  obtain ⟨f₁, product, h₁, -, rfl⟩ := h₂.required
  obtain rfl := h₁.done
  exact hpages

theorem Config.tabs_decoded {config : Config} (h : DecodedFrom P Config.decode config) :
    ∀ tab ∈ config.tabs, DecodedFrom P Tab.decode tab :=
  (Pages.parts_decoded hP (pages_decoded hP h)).1

theorem Config.services_decoded {config : Config} (h : DecodedFrom P Config.decode config) :
    ∀ service ∈ config.services, DecodedFrom P Service.decode service := by
  have hpage := (Pages.parts_decoded hP (pages_decoded hP h)).2
  unfold Config.services
  cases hinputs : config.pages.inputs with
  | none => simp
  | some page => exact InputsPage.services_decoded hP (hpage page hinputs)

end

end AddonConfig
