import AddonConfig.Proofs.DecodedParts
import AddonConfig.Proofs.Violations
import AddonConfig.Schema.Document

/-!
# What is written and the schema

A configuration that was decoded from any value, well formed or not, is written as a document that the
schema accepts, up to two texts that the model does not look into: the root of the product and the actions
of a table. Where those were checked before decoding, the document written has no violations.
-/

namespace AddonConfig
open Schema

/-! ### Members that conform -/

namespace Json

theorem mem_of_get?_sorted {entries : Members} {name : String} {value : Json}
    (h : Members.get? (Members.ofList (sortedMembers entries)) name = some value) :
    ∃ written, (name, written) ∈ entries ∧ value = written.sorted := by
  rw [Members.get?_ofList, sortedMembers_eq_map] at h
  obtain ⟨entry, hentry, heq⟩ := List.mem_map.1 (List.mem_reverse.1 (Members.mem_of_get? h))
  cases heq
  exact ⟨entry.2, hentry, rfl⟩

theorem isSome_get?_sorted {entries : Members} {name : String} (h : name ∈ entries.map (·.1)) :
    (Members.get? (Members.ofList (sortedMembers entries)) name).isSome := by
  rw [Option.isSome_iff_ne_none, Members.get?_ofList, sortedMembers_eq_map]
  intro hnone
  rw [Members.get?_eq_none_iff, ← List.map_reverse, List.map_map] at hnone
  exact hnone (by simpa [Function.comp_def] using h)

end Json

namespace Schema
variable {declared more : List (String × Schema)} {demanded excused : List String} {conditions : List Condition} {schema : Schema}
  {entries added : Members} {name : String} {place : Pointer} {violation : Violation}

/-- Written members conform to what is declared of them, those excused by name apart. -/
def Fits (excused : List String) (declared : List (String × Schema)) (entries : Members) : Prop :=
  ∀ entry ∈ entries, entry.1 ∉ excused → ∀ schema, (entry.1, schema) ∈ declared → Conforms schema entry.2.sorted

theorem Fits.append (h : Fits excused declared entries) (h' : Fits excused declared added) :
    Fits excused declared (entries ++ added) := by
  intro entry hentry
  rcases List.mem_append.1 hentry with hentry | hentry
  · exact h entry hentry
  · exact h' entry hentry

/-- Members of one name. -/
theorem fits_of_name (name : String) (hname : ∀ entry ∈ added, entry.1 = name)
    (hvalue : ∀ entry ∈ added, Conforms schema entry.2.sorted)
    (hschema : ∀ other, (name, other) ∈ declared → other = schema) : Fits excused declared added := by
  intro entry hentry _ other hother
  rw [hname entry hentry] at hother
  rw [hschema other hother]
  exact hvalue entry hentry

theorem fits_excused (name : String) (hname : ∀ entry ∈ added, entry.1 = name) (hexcused : name ∈ excused) :
    Fits excused declared added := by
  intro entry hentry hnot
  rw [hname entry hentry] at hnot
  exact absurd hexcused hnot

theorem fits_undeclared (h : ∀ entry ∈ added, entry.1 ∉ declared.map (·.1)) : Fits excused declared added := by
  intro entry hentry _ schema hschema
  exact absurd (List.mem_map_of_mem hschema) (h entry hentry)

@[simp] theorem mem_member {value : Json} {entry : String × Json} :
    entry ∈ member name value ↔ entry = (name, value) := by
  simp [member]

@[simp] theorem mem_memberIf {α : Type} {encode : α → Json} {o : Option α} {entry : String × Json} :
    entry ∈ memberIf name encode o ↔ ∃ a, o = some a ∧ entry = (name, encode a) := by
  cases o <;> simp [memberIf]

@[simp] theorem mem_memberList {α : Type} {encode : α → Json} {xs : List α} {entry : String × Json} :
    entry ∈ memberList name encode xs ↔ xs ≠ [] ∧ entry = (name, encodeList encode xs) := by
  cases xs <;> simp [memberList]

theorem name_of_mem_member {value : Json} : ∀ entry ∈ member name value, entry.1 = name := by
  simp

theorem name_of_mem_memberIf {α : Type} {encode : α → Json} {o : Option α} :
    ∀ entry ∈ memberIf name encode o, entry.1 = name := by
  intro entry h
  obtain ⟨a, -, rfl⟩ := mem_memberIf.1 h
  rfl

theorem name_of_mem_memberList {α : Type} {encode : α → Json} {xs : List α} :
    ∀ entry ∈ memberList name encode xs, entry.1 = name := by
  simp

theorem fits_member {value : Json} (hschema : ∀ other, (name, other) ∈ declared → other = schema)
    (h : Conforms schema value.sorted) :
    Fits excused declared (member name value) :=
  fits_of_name name name_of_mem_member (by simpa [member] using h) hschema

theorem fits_memberIf {α : Type} {encode : α → Json} {o : Option α}
    (hschema : ∀ other, (name, other) ∈ declared → other = schema)
    (h : ∀ a, o = some a → Conforms schema (encode a).sorted) :
    Fits excused declared (memberIf name encode o) := by
  refine fits_of_name name name_of_mem_memberIf ?_ hschema
  cases o with
  | none => simp [memberIf]
  | some a => simpa [memberIf] using h a rfl

/-- A list of values that conform. -/
theorem conforms_list {α : Type} {encode : α → Json} {xs : List α}
    (h : ∀ a ∈ xs, Conforms schema (encode a).sorted) : Conforms (.array schema) (encodeList encode xs).sorted := by
  rw [encodeList, Json.sorted_arr]
  refine conforms_array.2 ⟨_, rfl, fun value hvalue => ?_⟩
  obtain ⟨a, ha, rfl⟩ : ∃ a ∈ xs, (encode a).sorted = value := by simpa using hvalue
  exact h a ha

theorem fits_memberList {α : Type} {encode : α → Json} {xs : List α}
    (hschema : ∀ other, (name, other) ∈ declared → other = .array schema)
    (h : ∀ a ∈ xs, Conforms schema (encode a).sorted) :
    Fits excused declared (memberList name encode xs) := by
  refine fits_of_name name name_of_mem_memberList ?_ hschema
  cases xs with
  | nil => simp [memberList]
  | cons a rest => simpa [memberList] using conforms_list h

/-- In an object that is written with all that is required, only excused members have violations. -/
theorem violation_in_excused (excused : List String)
    (h : violation ∈ violationsAt (.object declared demanded conditions) place (Json.obj entries).sorted)
    (hdemanded : ∀ name ∈ demanded, name ∈ entries.map (·.1))
    (hconditions : ∀ condition ∈ conditions,
      condition.applies (Members.ofList (Json.sortedMembers entries)) = true →
        condition.demands ∈ entries.map (·.1))
    (hfits : Fits excused declared entries) :
    ∃ name ∈ excused, ∃ schema value, (name, schema) ∈ declared ∧ (name, value) ∈ entries ∧
      violation ∈ violationsAt schema (place ++ [.member name]) value.sorted := by
  rw [Json.sorted, Json.ofMembers, mem_violationsAt_obj] at h
  rcases h with ⟨-, hcondition⟩ | ⟨name, schema, value, hschema, hget, h⟩ | ⟨-, hmissing⟩
  · obtain ⟨condition, hmem, hcomplaint⟩ := List.mem_flatMap.1 hcondition
    by_cases happlies : condition.applies (Members.ofList (Json.sortedMembers entries)) = true
    · rw [if_pos happlies] at hcomplaint
      obtain ⟨name, hname, hnone, -⟩ := mem_missing.1 hcomplaint
      obtain rfl := List.mem_singleton.1 hname
      have hsome := Json.isSome_get?_sorted (hconditions condition hmem happlies)
      rw [hnone] at hsome
      cases hsome
    · rw [if_neg happlies] at hcomplaint
      cases hcomplaint
  · obtain ⟨written, hentry, rfl⟩ := Json.mem_of_get?_sorted hget
    by_cases hexcused : name ∈ excused
    · exact ⟨name, hexcused, schema, written, hschema, hentry, h⟩
    · have hconforms := hfits _ hentry hexcused schema hschema
      rw [← violationsAt_eq_nil schema (place ++ [.member name])] at hconforms
      rw [hconforms] at h
      cases h
  · obtain ⟨name, hname, hnone, -⟩ := mem_missing.1 hmissing
    have hsome := Json.isSome_get?_sorted (hdemanded name hname)
    rw [hnone] at hsome
    cases hsome

/-- An object that is written with all that is required conforms if its members do. -/
theorem conforms_written (hfits : Fits [] declared entries)
    (hdemanded : ∀ name ∈ demanded, name ∈ entries.map (·.1))
    (hconditions : ∀ condition ∈ conditions,
      condition.applies (Members.ofList (Json.sortedMembers entries)) = true →
        condition.demands ∈ entries.map (·.1)) :
    Conforms (.object declared demanded conditions) (Json.obj entries).sorted := by
  rw [← violationsAt_eq_nil _ [], List.eq_nil_iff_forall_not_mem]
  intro violation h
  obtain ⟨name, hname, -⟩ := violation_in_excused [] h hdemanded hconditions hfits
  cases hname

theorem conforms_written_string (text : String) : Conforms .string (Json.str text).sorted :=
  conforms_string.2 ⟨text, rfl⟩

theorem conforms_written_bool (flag : Bool) : Conforms .boolean (Json.bool flag).sorted :=
  conforms_boolean.2 ⟨flag, rfl⟩

theorem conforms_written_strings (texts : List String) : Conforms (.array .string) (encodeStrings texts).sorted :=
  conforms_list fun text _ => conforms_written_string text

end Schema

/-! ### Parts of the model that always conform -/

theorem Column.conforms (column : Column) : Conforms Schema.column column.encode.sorted := by
  refine conforms_written ?_ (by simp [member]) (by simp)
  exact (fits_member (by simp) (conforms_written_string _)).append (fits_member (by simp) (conforms_written_string _))

theorem MenuGroup.conforms (group : MenuGroup) : Conforms Schema.menuGroup group.encode.sorted := by
  refine conforms_written (.append (.append ?_ ?_) ?_) (by simp [member]) (by simp)
  · exact fits_member (by simp) (conforms_written_string _)
  · exact fits_member (by simp) (conforms_written_string _)
  · exact fits_memberIf (by simp) fun names _ => conforms_written_strings names

namespace Validator

theorem parameter_ne_tag (validator : Validator) : ∀ entry ∈ validator.parameterMembers, entry.1 ≠ tagName := by
  intro entry hentry
  cases validator with
  | string minLength maxLength errorMsg =>
    rw [parameterMembers, List.mem_append, List.mem_append] at hentry
    rcases hentry with (h | h) | h <;> rw [name_of_mem_memberIf _ h] <;> simp [tagName]
  | number range errorMsg =>
    rcases List.mem_append.1 hentry with h | h
    · rw [name_of_mem_member _ h]; simp [tagName]
    · rw [name_of_mem_memberIf _ h]; simp [tagName]
  | regex pattern errorMsg =>
    rcases List.mem_append.1 hentry with h | h
    · rw [name_of_mem_member _ h]; simp [tagName]
    · rw [name_of_mem_memberIf _ h]; simp [tagName]
  | _ => cases hentry

/-- The premise of a condition on the tag holds of a written validator only if it is of that kind. -/
theorem kind_of_applies {validator : Validator} {kind demands : String}
    (h : Condition.applies ⟨tagName, kind, demands⟩ (Members.ofList (Json.sortedMembers
      (member tagName (.str validator.kind) ++ validator.parameterMembers))) = true) : validator.kind = kind := by
  have htag : tagName ∈ (member tagName (.str validator.kind) ++ validator.parameterMembers).map (·.1) :=
    List.mem_cons_self
  obtain ⟨value, hget⟩ := Option.isSome_iff_exists.1 (Json.isSome_get?_sorted htag)
  obtain ⟨written, hentry, rfl⟩ := Json.mem_of_get?_sorted hget
  rcases List.mem_append.1 hentry with hentry | hentry
  · obtain rfl : written = .str validator.kind := by simpa [member] using hentry
    simpa [Condition.applies, hget, Json.sorted] using h
  · exact absurd rfl (validator.parameter_ne_tag _ hentry)

theorem parameters_fit (validator : Validator) :
    Fits [] [("errorMsg", .string), ("maxLength", .integer), ("minLength", .integer), ("pattern", .string),
      ("range", .array .number), ("type", .string)] validator.parameterMembers := by
  cases validator with
  | string minLength maxLength errorMsg =>
    refine .append (.append ?_ ?_) ?_
    · exact fits_memberIf (by simp) fun n _ => conforms_integer_int n
    · exact fits_memberIf (by simp) fun n _ => conforms_integer_int n
    · exact fits_memberIf (by simp) fun text _ => conforms_written_string text
  | number range errorMsg =>
    refine .append ?_ ?_
    · exact fits_member (by simp) (conforms_list fun bound _ => conforms_number.2 ⟨.float bound, rfl⟩)
    · exact fits_memberIf (by simp) fun text _ => conforms_written_string text
  | regex pattern errorMsg =>
    refine .append ?_ ?_
    · exact fits_member (by simp) (conforms_written_string pattern)
    · exact fits_memberIf (by simp) fun text _ => conforms_written_string text
  | _ =>
    intro entry hentry
    cases hentry

theorem conforms (validator : Validator) : Conforms Schema.validator validator.encode.sorted := by
  rw [encode_eq]
  refine conforms_written ?_ (by simp [member, tagName]) ?_
  · exact (fits_member (by simp [tagName]) (conforms_written_string _)).append validator.parameters_fit
  · intro condition hcondition happlies
    rcases List.mem_pair.1 hcondition with rfl | rfl
    · have hkind := kind_of_applies happlies
      cases validator <;> simp_all [kind, parameterMembers, member]
    · have hkind := kind_of_applies happlies
      cases validator <;> simp_all [kind, parameterMembers, member]

end Validator

theorem OAuthField.conforms (sub : OAuthField) : Conforms Schema.oauthField sub.encode.sorted := by
  refine conforms_written (.append (.append (.append (.append ?_ ?_) ?_) ?_) ?_) (by simp [member]) (by simp)
  · exact fits_member (by simp) (conforms_written_string _)
  · exact fits_member (by simp) (conforms_written_string _)
  · exact fits_member (by simp) (conforms_written_string _)
  · exact fits_memberIf (by simp) fun flag _ => conforms_written_bool flag
  · exact fits_memberList (by simp) fun validator _ => validator.conforms

theorem ChoiceValue.conforms (value : ChoiceValue) : Conforms .scalar value.encode.sorted := by
  cases value with
  | text value => exact conforms_scalar.2 (.inl ⟨value, rfl⟩)
  | number value => exact conforms_scalar.2 (.inr (.inl ⟨value, rfl⟩))
  | flag value => exact conforms_scalar.2 (.inr (.inr ⟨value, rfl⟩))

namespace Choice

/-- A choice in a group conforms; the schema does not look at what is in it. -/
theorem conforms_child (choice : Choice) : Conforms Schema.childChoice choice.encode.sorted := by
  rw [encode_eq]
  refine conforms_written (.append (.append ?_ ?_) ?_) (by simp [members, member]) (by simp)
  · exact fits_member (by simp) choice.value.conforms
  · exact fits_member (by simp) (conforms_written_string _)
  · refine fits_undeclared fun entry hentry => ?_
    rw [name_of_mem_memberIf entry hentry]
    simp

theorem conforms (choice : Choice) : Conforms Schema.choiceEntry choice.encode.sorted := by
  rw [encode_eq]
  refine conforms_written (.append (.append ?_ ?_) ?_) (by simp [members, member]) (by simp)
  · exact fits_member (by simp) choice.value.conforms
  · exact fits_member (by simp) (conforms_written_string _)
  · exact fits_memberIf (by simp) fun children _ => conforms_list fun child _ => child.conforms_child

end Choice

/-! ### Fields -/

/-- The options that are kept as they are have no name that is known. -/
def EntityOptions.Apart (options : EntityOptions) : Prop := ∀ entry ∈ options.extra, entry.1 ∉ known.names

theorem EntityOptions.conforms {options : EntityOptions} (h : options.Apart) :
    Conforms Schema.entityOptions options.encode.sorted := by
  rw [encode_eq]
  refine conforms_written (.append ?_ ?_) (by simp) (by simp)
  · refine .append (.append (.append (.append (.append (.append ?_ ?_) ?_) ?_) ?_) ?_) ?_
    · exact fits_memberIf (by simp) fun choices _ => conforms_list fun choice _ => choice.conforms
    · exact fits_memberIf (by simp) fun types _ => conforms_written_strings types
    · exact fits_memberIf (by simp) fun size _ => conforms_natural_int (Int.natCast_nonneg size)
    · exact fits_memberIf (by simp) fun text _ => conforms_written_string text
    · exact fits_memberIf (by simp) fun subs _ => conforms_list fun sub _ => sub.conforms
    · exact fits_memberIf (by simp) fun subs _ => conforms_list fun sub _ => sub.conforms
    · exact fits_memberIf (by simp) fun types _ => conforms_written_strings types
  · refine fits_undeclared fun entry hentry hdeclared => h entry hentry ?_
    revert hdeclared
    -- what the schema declares of options is what is known of them
    simp [known, Record.optional, Record.and, Record.done]
    grind

/-- The options of the entity keep apart what is not known. -/
def Entity.Apart (entity : Entity) : Prop := ∀ options, entity.options = some options → options.Apart

theorem EntityType.conforms (type : EntityType) : Conforms (.choice entityTypes) type.encode.sorted := by
  refine conforms_choice.2 ⟨type.name, ?_, rfl⟩
  cases type <;> simp [entityTypes, EntityType.name]

theorem Entity.conforms {entity : Entity} (h : entity.Apart) : Conforms Schema.entity entity.encode.sorted := by
  refine conforms_written ?_ (by simp [member]) (by simp)
  refine .append (.append (.append (.append (.append (.append (.append ?_ ?_) ?_) ?_) ?_) ?_) ?_) ?_
  · exact fits_member (by simp) (conforms_written_string _)
  · exact fits_member (by simp) (conforms_written_string _)
  · exact fits_member (by simp) entity.type.conforms
  · exact fits_memberIf (by simp) fun flag _ => conforms_written_bool flag
  · refine fits_undeclared fun entry hentry => ?_
    rw [name_of_mem_memberIf entry hentry]
    simp
  · exact fits_memberIf (by simp) fun text _ => conforms_written_string text
  · exact fits_memberList (by simp) fun validator _ => validator.conforms
  · exact fits_memberIf (by simp) fun options hoptions => EntityOptions.conforms (h options hoptions)

theorem Service.conforms {service : Service} (h : ∀ entity ∈ service.entity, entity.Apart) :
    Conforms Schema.service service.encode.sorted := by
  refine conforms_written ?_ (by simp [member]) (by simp)
  refine .append (.append (.append (.append (.append (.append ?_ ?_) ?_) ?_) ?_) ?_) ?_
  · exact fits_member (by simp) (conforms_written_string _)
  · exact fits_member (by simp) (conforms_written_string _)
  · exact fits_member (by simp) (conforms_list fun entity hentity => Entity.conforms (h entity hentity))
  · exact fits_memberIf (by simp) fun text _ => conforms_written_string text
  · exact fits_memberIf (by simp) fun text _ => conforms_written_string text
  · exact fits_memberIf (by simp) fun text _ => conforms_written_string text
  · exact fits_memberIf (by simp) fun text _ => conforms_written_string text

theorem InputsPage.conforms {page : InputsPage}
    (h : ∀ service ∈ page.services, ∀ entity ∈ service.entity, entity.Apart) :
    Conforms Schema.inputsPage page.encode.sorted := by
  refine conforms_written (.append (.append ?_ ?_) ?_) (by simp [member]) (by simp)
  · exact fits_memberIf (by simp) fun text _ => conforms_written_string text
  · exact fits_member (by simp) (conforms_list fun service hservice => Service.conforms (h service hservice))
  · exact fits_memberIf (by simp) fun groups _ => conforms_list fun group _ => group.conforms

/-! ### Violations of what is written -/

/-- Only the root of a product can be refused. -/
theorem Meta.written_violation {product : Meta} {place : Pointer} {violation : Violation}
    (h : violation ∈ violationsAt Schema.product place product.encode.sorted) :
    violation = ⟨place ++ [.member "restRoot"], .notWord (.str product.restRoot)⟩ ∧
      isWord product.restRoot = false := by
  obtain ⟨name, hname, schema, value, hschema, hentry, h⟩ :=
    violation_in_excused ["restRoot"] h (by simp) (by simp) <|
      .append (.append (.append (.append (fits_member (by simp) (conforms_written_string _))
        (fits_excused "restRoot" name_of_mem_member (by simp)))
        (fits_member (by simp) (conforms_written_string _)))
        (fits_member (by simp) (conforms_written_string _)))
        (fits_memberIf (by simp) fun text _ => conforms_written_string text)
  obtain rfl := List.mem_singleton.1 hname
  obtain rfl : schema = .word := by simpa using hschema
  obtain rfl : value = .str product.restRoot := by simpa using hentry
  exact mem_violationsAt_word.1 h

/-- Only the actions of a table can be refused. -/
theorem Table.written_violation {table : Table} {place : Pointer} {violation : Violation}
    (h : violation ∈ violationsAt Schema.table place table.encode.sorted) :
    ∃ index, ∃ action ∈ table.actions, action ∉ tableActions ∧
      violation = ⟨place ++ [.member "actions", .item index], .notAllowed (.str action) tableActions⟩ := by
  obtain ⟨name, hname, schema, value, hschema, hentry, h⟩ :=
    violation_in_excused ["actions"] h (by simp) (by simp) <|
      .append (fits_memberList (by simp) fun column _ => column.conforms)
        (fits_excused "actions" name_of_mem_memberList (by simp))
  obtain rfl := List.mem_singleton.1 hname
  obtain rfl : schema = .array (.choice tableActions) := by simpa using hschema
  obtain rfl : value = encodeList .str table.actions := by
    simp at hentry
    exact hentry.2
  rw [encodeList, Json.sorted_arr, mem_violationsAt_arr] at h
  obtain ⟨index, value, hget, h⟩ := h
  obtain ⟨action, haction, rfl⟩ : ∃ action ∈ table.actions, (Json.str action).sorted = value := by
    simpa using List.mem_of_getElem? hget
  obtain ⟨rfl, hnot⟩ := mem_violationsAt_choice.1 h
  exact ⟨index, action, haction, hnot, by simp⟩

/-- Only the actions of a tab's table can be refused. -/
theorem Tab.written_violation {tab : Tab} (hapart : ∀ entity ∈ tab.entity, entity.Apart) {place : Pointer}
    {violation : Violation} (h : violation ∈ violationsAt Schema.tab place tab.encode.sorted) :
    ∃ index, ∃ table, tab.table = some table ∧ ∃ action ∈ table.actions, action ∉ tableActions ∧
      violation = ⟨place ++ [.member "table", .member "actions", .item index],
        .notAllowed (.str action) tableActions⟩ := by
  obtain ⟨name, hname, schema, value, hschema, hentry, h⟩ :=
    violation_in_excused ["table"] h (by simp) (by simp) <|
      .append (.append (.append (.append (fits_member (by simp) (conforms_written_string _))
        (fits_member (by simp) (conforms_written_string _)))
        (fits_member (by simp) (conforms_list fun entity hentity => Entity.conforms (hapart entity hentity))))
        (fits_excused "table" name_of_mem_memberIf (by simp)))
        (fits_memberIf (by simp) fun text _ => conforms_written_string text)
  obtain rfl := List.mem_singleton.1 hname
  obtain rfl : schema = Schema.table := by simpa using hschema
  obtain ⟨table, htable, rfl⟩ : ∃ table, tab.table = some table ∧ value = table.encode := by
    simpa using hentry
  obtain ⟨index, action, haction, hnot, rfl⟩ := Table.written_violation h
  exact ⟨index, table, htable, action, haction, hnot, by simp⟩

/-! ### What was decoded -/

theorem EntityOptions.apart_of_decode {value : Json} {options : EntityOptions}
    (h : EntityOptions.decode value = .ok options) : options.Apart := by
  obtain ⟨members, -, hextra⟩ := extra_of_decode h
  intro entry hentry
  rw [hextra] at hentry
  simpa using (List.mem_filter.1 hentry).2

theorem Entity.apart_of_decode {value : Json} {entity : Entity} (h : Entity.decode value = .ok entity) :
    entity.Apart := by
  intro options hoptions
  obtain ⟨-, hdecoded⟩ := Entity.parts_decoded .always ⟨value, trivial, h⟩
  obtain ⟨part, -, hread⟩ := hdecoded options hoptions
  exact EntityOptions.apart_of_decode hread

/-- The options of every field of a page keep apart what is not known. -/
structure Pages.Apart (pages : Pages) : Prop where
  tabs : ∀ tabs, pages.configuration = some tabs → ∀ tab ∈ tabs, ∀ entity ∈ tab.entity, entity.Apart
  services : ∀ page, pages.inputs = some page → ∀ service ∈ page.services, ∀ entity ∈ service.entity, entity.Apart

theorem Config.apart_of_decode {value : Json} {config : Config} (h : Config.decode value = .ok config) :
    config.pages.Apart := by
  obtain ⟨htabs, hpage⟩ := Pages.parts_decoded .always (Config.pages_decoded .always ⟨value, trivial, h⟩)
  constructor
  · intro tabs hconfiguration tab htab entity hentity
    rw [hconfiguration] at htabs
    obtain ⟨part, -, hread⟩ := Tab.entities_decoded .always (htabs tab htab) entity hentity
    exact Entity.apart_of_decode hread
  · intro page hinputs service hservice entity hentity
    have hdecoded := InputsPage.services_decoded .always (hpage page hinputs) service hservice
    obtain ⟨part, -, hread⟩ := Service.entities_decoded .always hdecoded entity hentity
    exact Entity.apart_of_decode hread

/-! ### The document -/

/-- Only the actions of the tables can be refused in the pages. -/
theorem Pages.written_violation {pages : Pages} (hapart : pages.Apart) {place : Pointer} {violation : Violation}
    (h : violation ∈ violationsAt Schema.pages place pages.encode.sorted) :
    ∃ i j, ∃ tabs, pages.configuration = some tabs ∧ ∃ tab ∈ tabs, ∃ table, tab.table = some table ∧
      ∃ action ∈ table.actions, action ∉ tableActions ∧
        violation = ⟨place ++ [.member "configuration", .item i, .member "table", .member "actions", .item j],
          .notAllowed (.str action) tableActions⟩ := by
  obtain ⟨name, hname, schema, value, hschema, hentry, h⟩ :=
    violation_in_excused ["configuration"] h (by simp) (by simp) <|
      .append (fits_excused "configuration" name_of_mem_memberIf (by simp))
        (fits_memberIf (by simp) fun page hpage => InputsPage.conforms (hapart.services page hpage))
  obtain rfl := List.mem_singleton.1 hname
  obtain rfl : schema = .array Schema.tab := by simpa using hschema
  obtain ⟨tabs, htabs, rfl⟩ : ∃ tabs, pages.configuration = some tabs ∧ value = encodeList Tab.encode tabs := by
    simpa using hentry
  rw [encodeList, Json.sorted_arr, mem_violationsAt_arr] at h
  obtain ⟨i, value, hget, h⟩ := h
  obtain ⟨tab, htab, rfl⟩ : ∃ tab ∈ tabs, tab.encode.sorted = value := by
    simpa using List.mem_of_getElem? hget
  obtain ⟨j, table, htable, action, haction, hnot, rfl⟩ :=
    Tab.written_violation (hapart.tabs tabs htabs tab htab) h
  exact ⟨i, j, tabs, htabs, tab, htab, table, htable, action, haction, hnot, by simp⟩

/-- The root of the product is a word and the actions of every table are known. -/
structure Config.Sound (config : Config) : Prop where
  root : isWord config.product.restRoot = true
  actions : ∀ tab ∈ config.tabs, ∀ table, tab.table = some table → ∀ action ∈ table.actions, action ∈ tableActions

/-- A violation that a written document can have: of the root, or of an action of a table. -/
def WrittenViolation (violation : Violation) : Prop :=
  (violation.place = [.member "meta", .member "restRoot"] ∧ ∃ root, violation.complaint = .notWord (.str root)) ∨
    ∃ i j action,
      violation.place = [.member "pages", .member "configuration", .item i, .member "table", .member "actions",
        .item j] ∧ violation.complaint = .notAllowed (.str action) tableActions

theorem Config.written_violation {config : Config} (hapart : config.pages.Apart) {violation : Violation}
    (h : violation ∈ violations Schema.document config.encode.sorted) :
    WrittenViolation violation ∧ ¬config.Sound := by
  obtain ⟨name, hname, schema, value, hschema, hentry, h⟩ :=
    violation_in_excused ["meta", "pages"] h (by simp) (by simp) <|
      .append (fits_excused "meta" name_of_mem_member (by simp))
        (fits_excused "pages" name_of_mem_member (by simp))
  rcases List.mem_pair.1 hname with rfl | rfl
  · obtain rfl : schema = Schema.product := by simpa using hschema
    obtain rfl : value = config.product.encode := by simpa using hentry
    obtain ⟨rfl, hroot⟩ := Meta.written_violation h
    refine ⟨.inl ⟨rfl, _, rfl⟩, fun hsound => ?_⟩
    rw [hsound.root] at hroot
    cases hroot
  · obtain rfl : schema = Schema.pages := by simpa using hschema
    obtain rfl : value = config.pages.encode := by simpa using hentry
    obtain ⟨i, j, tabs, htabs, tab, htab, table, htable, action, haction, hnot, rfl⟩ :=
      Pages.written_violation hapart h
    refine ⟨.inr ⟨i, j, action, rfl, rfl⟩, fun hsound => hnot ?_⟩
    have hmem : tab ∈ config.tabs := by
      rw [Config.tabs, htabs]
      exact htab
    exact hsound.actions tab hmem table htable action haction

/-! ### What was checked before decoding -/

theorem Meta.root_of_conforms {value : Json} {product : Meta} (hvalue : Conforms Schema.product value)
    (h : Meta.decode value = .ok product) : isWord product.restRoot = true := by
  obtain ⟨members, rfl, -⟩ := conforms_object.1 hvalue
  obtain ⟨f₅, schemaVersion, h₅, -, rfl⟩ := (Record.readMembers_eq_ok.1 h).optional
  obtain ⟨f₄, displayName, -, h₄, -, -, rfl⟩ := h₅.required
  obtain ⟨f₃, version, -, h₃, -, -, rfl⟩ := h₄.required
  obtain ⟨f₂, restRoot, root, h₂, hget, hread, rfl⟩ := h₃.required
  obtain ⟨f₁, name, -, h₁, -, -, rfl⟩ := h₂.required
  obtain rfl := Record.reads_done.1 h₁
  obtain ⟨text, rfl, hword⟩ := conforms_word.1 (conforms_member hvalue (by simp) hget)
  cases hread
  exact hword

theorem Table.actions_of_conforms {value : Json} {table : Table} (hvalue : Conforms Schema.table value)
    (h : Table.decode value = .ok table) : ∀ action ∈ table.actions, action ∈ tableActions := by
  obtain ⟨members, rfl, -⟩ := conforms_object.1 hvalue
  obtain ⟨f₂, actions, h₂, hactions, rfl⟩ := (Record.readMembers_eq_ok.1 h).defaulted
  obtain ⟨f₁, header, h₁, -, rfl⟩ := h₂.defaulted
  obtain rfl := Record.reads_done.1 h₁
  intro action haction
  obtain ⟨items, item, hget, hitem, hread⟩ := hactions action haction
  have hlist : Conforms (.array (.choice tableActions)) (.arr items) := conforms_member hvalue (by simp) hget
  obtain ⟨_, heq, hitems⟩ := conforms_array.1 hlist
  cases heq
  obtain ⟨text, hmem, rfl⟩ := conforms_choice.1 (hitems item hitem)
  cases hread
  exact hmem

theorem Tab.actions_of_conforms {value : Json} {tab : Tab} (hvalue : Conforms Schema.tab value)
    (h : Tab.decode value = .ok tab) :
    ∀ table, tab.table = some table → ∀ action ∈ table.actions, action ∈ tableActions := by
  obtain ⟨members, rfl, -⟩ := conforms_object.1 hvalue
  obtain ⟨f₅, confName, h₅, -, rfl⟩ := (Record.readMembers_eq_ok.1 h).optional
  obtain ⟨f₄, found, h₄, hfound, rfl⟩ := h₅.optional
  obtain ⟨f₃, entity, -, h₃, -, -, rfl⟩ := h₄.required
  obtain ⟨f₂, title, -, h₂, -, -, rfl⟩ := h₃.required
  obtain ⟨f₁, name, -, h₁, -, -, rfl⟩ := h₂.required
  obtain rfl := Record.reads_done.1 h₁
  intro table htable
  obtain ⟨item, hget, hread⟩ := hfound table htable
  exact Table.actions_of_conforms (conforms_member hvalue (by simp) hget) hread

theorem Pages.actions_of_conforms {value : Json} {pages : Pages} (hvalue : Conforms Schema.pages value)
    (h : Pages.decode value = .ok pages) : ∀ tab ∈ pages.configuration.getD [], ∀ table, tab.table = some table →
      ∀ action ∈ table.actions, action ∈ tableActions := by
  obtain ⟨members, rfl, -⟩ := conforms_object.1 hvalue
  obtain ⟨f₂, inputs, h₂, -, rfl⟩ := (Record.readMembers_eq_ok.1 h).optional
  obtain ⟨f₁, configuration, h₁, htabs, rfl⟩ := h₂.optional
  obtain rfl := Record.reads_done.1 h₁
  intro tab htab
  cases configuration with
  | none => cases htab
  | some tabs =>
    obtain ⟨list, hget, hread⟩ := htabs tabs rfl
    obtain ⟨items, rfl, hitems⟩ := Decoder.list_eq_ok hread
    obtain ⟨item, hitem, hread⟩ := exists_of_forall₂ hitems htab
    have hlist : Conforms (.array Schema.tab) (.arr items) := conforms_member hvalue (by simp) hget
    obtain ⟨_, heq, hconform⟩ := conforms_array.1 hlist
    cases heq
    exact Tab.actions_of_conforms (hconform item hitem) hread

theorem Config.sound_of_conforms {value : Json} {config : Config} (hvalue : Conforms Schema.document value)
    (h : Config.decode value = .ok config) : config.Sound := by
  obtain ⟨members, rfl, -⟩ := conforms_object.1 hvalue
  obtain ⟨f₂, pages, v, h₂, hpages, hreadPages, rfl⟩ := (Record.readMembers_eq_ok.1 h).required
  obtain ⟨f₁, product, w, h₁, hproduct, hreadProduct, rfl⟩ := h₂.required
  obtain rfl := Record.reads_done.1 h₁
  exact ⟨Meta.root_of_conforms (conforms_member hvalue (by simp) hproduct) hreadProduct,
    Pages.actions_of_conforms (conforms_member hvalue (by simp) hpages) hreadPages⟩

/-- A configuration that was decoded is written as a document in which only the root of the product and the
actions of tables can be refused, and nothing if the document it was decoded from had no violations. -/
theorem written_document_violations {value : Json} {config : Config} (h : Config.decode value = .ok config) :
    (∀ violation ∈ violations Schema.document config.encode.sorted, WrittenViolation violation) ∧
      (violations Schema.document value = [] → violations Schema.document config.encode.sorted = []) := by
  have hapart := Config.apart_of_decode h
  refine ⟨fun violation hviolation => (Config.written_violation hapart hviolation).1, fun hvalue => ?_⟩
  have hsound := Config.sound_of_conforms ((violations_eq_nil _ _).1 hvalue) h
  rw [List.eq_nil_iff_forall_not_mem]
  exact fun violation hviolation => (Config.written_violation hapart hviolation).2 hsound

/-- A document whose root is no word, with an action that is not known and options of unknown name. -/
def looseDocument : Json :=
  .obj [
    ("meta", .arr [.str "addon", .str "add-on", .str "1.0", .str "Add-on", .null]),
    ("pages", .obj [("configuration", .arr [.obj [
      ("entity", .arr [.obj [
        ("field", .str "name"), ("label", .str "Name"), ("options", .obj [("endpointUrl", .null)]),
        ("type", .str "text")]]),
      ("name", .str "account"), ("table", .obj [("actions", .arr [.str "edit", .str "rename"])]),
      ("title", .str "Account")]])])]

/-- What the document is decoded to. -/
def looseConfig : Config where
  product := ⟨"addon", "add-on", "1.0", "Add-on", none⟩
  pages :=
    { configuration := some [⟨"account", "Account",
        [⟨"name", "Name", .text, none, none, none, [],
          some ⟨none, none, none, none, none, none, none, [("endpointUrl", .null)]⟩⟩],
        some ⟨[], ["edit", "rename"]⟩, none⟩]
      inputs := none }

theorem looseConfig_violations :
    Config.decode looseDocument = .ok looseConfig ∧
      (violations Schema.document looseConfig.encode.sorted).map (·.place) =
        [[.member "meta", .member "restRoot"],
          [.member "pages", .member "configuration", .item 0, .member "table", .member "actions", .item 1]] ∧
      ∀ violation ∈ violations Schema.document looseConfig.encode.sorted, WrittenViolation violation := by
  have hread : Config.decode looseDocument = .ok looseConfig := rfl
  refine ⟨hread, ?_, (written_document_violations hread).1⟩
  rfl

end AddonConfig
