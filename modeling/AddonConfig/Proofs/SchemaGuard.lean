import AddonConfig.Proofs.ReadBack
import AddonConfig.Proofs.Violations
import AddonConfig.Source.Load

/-!
# What the schema guards

A document the schema has nothing against is decoded, up to three shapes that the schema does not tell
apart and the model does: `FitsModel`. The places of the document are followed as lists of values, so that
what is demanded of a validator or an option is said once for all of them.
-/

namespace AddonConfig
open Schema

/-! ### Parts of a document -/

namespace Json

/-- The value of a member, if the value is an object that has it. -/
def member? (name : String) : Json → Option Json
  | .obj members => Members.get? members name
  | _ => none

def items : Json → List Json
  | .arr items => items
  | _ => []

/-- The values of the members of one name. -/
def under (name : String) (values : List Json) : List Json := values.filterMap (member? name)

/-- The items of the members of one name. -/
def itemsUnder (name : String) (values : List Json) : List Json := (under name values).flatMap items

theorem mem_under {name : String} {values : List Json} {value found : Json} (hmem : value ∈ values)
    (h : value.member? name = some found) : found ∈ under name values :=
  List.mem_filterMap.2 ⟨value, hmem, h⟩

theorem mem_itemsUnder {name : String} {values found : List Json} {value : Json} (hmem : value ∈ values)
    (h : value.member? name = some (.arr found)) {item : Json} (hitem : item ∈ found) :
    item ∈ itemsUnder name values :=
  List.mem_flatMap.2 ⟨.arr found, mem_under hmem h, hitem⟩

theorem depth_pos (value : Json) : 0 < value.depth := by
  cases value <;> simp [depth]

end Json

section
variable (document : Json)

def pagesIn : List Json := Json.under "pages" [document]

def tabsIn : List Json := Json.itemsUnder "configuration" (pagesIn document)

def servicesIn : List Json := Json.itemsUnder "services" (Json.under "inputs" (pagesIn document))

def entitiesIn : List Json := Json.itemsUnder "entity" (tabsIn document ++ servicesIn document)

def optionsIn : List Json := Json.under "options" (entitiesIn document)

/-- The fields below the entities. -/
def subFieldsIn : List Json :=
  Json.itemsUnder "oauth" (optionsIn document) ++ Json.itemsUnder "basic" (optionsIn document)

/-- The validators of the entities and of the fields below them. -/
def validatorsIn : List Json := Json.itemsUnder "validators" (entitiesIn document ++ subFieldsIn document)

/-- The entries to choose from, those in groups apart. -/
def choicesIn : List Json := Json.itemsUnder "autoCompleteFields" (optionsIn document)

/-- The lengths of a validator are integers of 64 bits; to the schema they may be larger, or whole floats. -/
def LengthsFit (validator : Json) : Prop :=
  ∀ name ∈ ["minLength", "maxLength"], ∀ length, validator.member? name = some length →
    ∃ n : Int, length = .num (.int n) ∧ -2 ^ 63 ≤ n ∧ n < 2 ^ 63

/-- What the model demands of a document beyond the schema. -/
structure FitsModel : Prop where
  lengths : ∀ validator ∈ validatorsIn document, LengthsFit validator
  /-- A size is a natural number of 64 bits; to the schema it may be larger, or a whole float. -/
  sizes : ∀ options ∈ optionsIn document, ∀ size,
    options.member? "maxFileSize" = some size → ∃ n : Nat, size = .num (.int n) ∧ n < 2 ^ 64
  /-- Groups do not nest; the schema does not look at the children of a child. -/
  flat : ∀ choice ∈ choicesIn document, ∀ child ∈ Json.itemsUnder "children" [choice],
    child.member? "children" = none

end

/-! ### Values that are decoded -/

/-- The decoder reads the value. -/
def Decodes {α : Type} (decode : Decoder α) (value : Json) : Prop := ∃ a, decode value = .ok a

section
variable {α β : Type} {decode item : Decoder α} {value : Json}

theorem Decodes.list {values : List Json} (h : ∀ value ∈ values, Decodes item value) :
    Decodes item.list (.arr values) := by
  induction values with
  | nil => exact ⟨[], rfl⟩
  | cons value rest ih =>
    obtain ⟨a, ha⟩ := h value List.mem_cons_self
    obtain ⟨as, has⟩ := ih fun value hvalue => h value (List.mem_cons_of_mem _ hvalue)
    rw [Decoder.list_arr, mapM_eq_ok] at has
    exact ⟨a :: as, by rw [Decoder.list_arr, mapM_eq_ok]; exact .cons ha has⟩

/-- A list whose items conform is decoded if its items are. -/
theorem Decodes.of_array {schema : Schema} (hvalue : Conforms (.array schema) value)
    (h : ∀ values, value = .arr values → ∀ v ∈ values, Conforms schema v → Decodes item v) :
    Decodes item.list value := by
  obtain ⟨values, rfl, hvalues⟩ := conforms_array.1 hvalue
  exact Decodes.list fun v hv => h values rfl v hv (hvalues v hv)

theorem Decodes.option (h : Decodes decode value) : Decodes decode.option value := by
  by_cases hnull : value = .null
  · subst hnull
    exact ⟨none, rfl⟩
  · obtain ⟨a, ha⟩ := h
    exact ⟨some a, Decoder.option_of_ok hnull ha⟩

theorem Decodes.string (h : Conforms .string value) : Decodes Decoder.string value := by
  obtain ⟨text, rfl⟩ := conforms_string.1 h
  exact ⟨text, rfl⟩

theorem Decodes.word (h : Conforms .word value) : Decodes Decoder.string value := by
  obtain ⟨text, rfl, -⟩ := conforms_word.1 h
  exact ⟨text, rfl⟩

theorem Decodes.strings (h : Conforms (.array .string) value) : Decodes Decoder.string.list value :=
  .of_array h fun _ _ _ _ => .string

theorem Decodes.bool (h : Conforms .boolean value) : Decodes Decoder.bool value := by
  obtain ⟨flag, rfl⟩ := conforms_boolean.1 h
  exact ⟨flag, rfl⟩

theorem Decodes.double (h : Conforms .number value) : Decodes Decoder.double value := by
  obtain ⟨number, rfl⟩ := conforms_number.1 h
  cases number with
  | int n => exact ⟨_, rfl⟩
  | float x => exact ⟨x, rfl⟩

theorem Decodes.doubles (h : Conforms (.array .number) value) : Decodes Decoder.double.list value :=
  .of_array h fun _ _ _ _ => .double

theorem Decodes.signed {n : Int} (h : n < 2 ^ 63) : Decodes Decoder.signed (.num (.int n)) := by
  refine ⟨n, ?_⟩
  have hbound : n < Nat.pow 2 63 := h
  simp only [Decoder.signed, hbound, if_true]

theorem Decodes.unsigned (n : Nat) : Decodes Decoder.unsigned (.num (.int n)) :=
  ⟨n, by simp [Decoder.unsigned]⟩

theorem Decodes.entityType (h : Conforms (.choice entityTypes) value) : Decodes EntityType.decode value := by
  obtain ⟨text, hmem, rfl⟩ := conforms_choice.1 h
  have hnames : entityTypes = EntityType.all.map EntityType.name := rfl
  obtain ⟨type, -, rfl⟩ := List.mem_map.1 (hnames ▸ hmem)
  exact ⟨type, by simp only [EntityType.decode, EntityType.ofNameChecked, EntityType.ofName?_name]⟩

theorem Decodes.choiceValue (h : Conforms .scalar value) : Decodes ChoiceValue.decode value := by
  rcases conforms_scalar.1 h with ⟨text, rfl⟩ | ⟨number, rfl⟩ | ⟨flag, rfl⟩
  · exact ⟨.text text, rfl⟩
  · exact ⟨.number number, rfl⟩
  · exact ⟨.flag flag, rfl⟩

theorem Decodes.action (h : Conforms (.choice tableActions) value) : Decodes Decoder.string value := by
  obtain ⟨text, -, rfl⟩ := conforms_choice.1 h
  exact ⟨text, rfl⟩

/-- The members give the record some value. -/
def Record.Accepts (record : Record α) (members : Members) : Prop := ∃ x, record.Reads (Members.get? members) x

namespace Record.Accepts
variable {name : String} {schema : Schema} {declared : List (String × Schema)} {demanded : List String}
  {conditions : List Condition} {members : Members}

theorem done (value : α) : (Record.done value).Accepts members := ⟨value, reads_done.2 rfl⟩

/-- A member that has to be there, and is. -/
theorem present {record : Record (α → β)} (h : record.Accepts members)
    (hobject : Conforms (.object declared demanded conditions) (.obj members))
    (hsome : (Members.get? members name).isSome) (hschema : (name, schema) ∈ declared)
    (hdecode : ∀ value, Members.get? members name = some value → Conforms schema value → Decodes decode value) :
    (record.required name decode).Accepts members := by
  obtain ⟨f, hf⟩ := h
  obtain ⟨value, hget⟩ := Option.isSome_iff_exists.1 hsome
  obtain ⟨a, ha⟩ := hdecode value hget (conforms_member hobject hschema hget)
  refine ⟨f a, reads_and.2 ⟨f, a, hf, ?_, rfl⟩⟩
  show Field.Gives _ (Members.get? members name) a
  rw [hget]
  exact ha

/-- A member that the schema requires. -/
theorem required {record : Record (α → β)} (h : record.Accepts members)
    (hobject : Conforms (.object declared demanded conditions) (.obj members)) (hname : name ∈ demanded)
    (hschema : (name, schema) ∈ declared)
    (hdecode : ∀ value, Members.get? members name = some value → Conforms schema value → Decodes decode value) :
    (record.required name decode).Accepts members := by
  refine h.present hobject ?_ hschema hdecode
  rw [Conforms] at hobject
  exact hobject.2.2 name hname

/-- A member that may be absent. -/
theorem omissible {record : Record (α → β)} {field : Field α} {a : α} (h : record.Accepts members)
    (habsent : field.absent = some a)
    (hdecode : ∀ value, Members.get? members field.name = some value → Decodes field.decode value) :
    (record.and field).Accepts members := by
  obtain ⟨f, hf⟩ := h
  cases hget : Members.get? members field.name with
  | none =>
    refine ⟨f a, reads_and.2 ⟨f, a, hf, ?_, rfl⟩⟩
    rw [hget]
    exact habsent
  | some value =>
    obtain ⟨b, hb⟩ := hdecode value hget
    refine ⟨f b, reads_and.2 ⟨f, b, hf, ?_, rfl⟩⟩
    rw [hget]
    exact hb

/-- A member of which the schema says nothing. -/
theorem undeclared {record : Record (Option α → β)} (h : record.Accepts members)
    (hdecode : ∀ value, Decodes decode value) : (record.optional name decode).Accepts members :=
  h.omissible rfl fun value _ => (hdecode value).option

theorem optional {record : Record (Option α → β)} (h : record.Accepts members)
    (hobject : Conforms (.object declared demanded conditions) (.obj members))
    (hschema : (name, schema) ∈ declared)
    (hdecode : ∀ value, Members.get? members name = some value → Conforms schema value → Decodes decode value) :
    (record.optional name decode).Accepts members :=
  h.omissible rfl fun value hget => (hdecode value hget (conforms_member hobject hschema hget)).option

/-- A list that the schema requires. -/
theorem requiredList {record : Record (List α → β)} (h : record.Accepts members)
    (hobject : Conforms (.object declared demanded conditions) (.obj members)) (hname : name ∈ demanded)
    (hschema : (name, .array schema) ∈ declared)
    (hdecode : ∀ values, Members.get? members name = some (.arr values) → ∀ value ∈ values,
      Conforms schema value → Decodes item value) :
    (record.required name item.list).Accepts members := by
  refine h.required hobject hname hschema fun value hget hvalue => Decodes.of_array hvalue ?_
  rintro values rfl
  exact hdecode values hget

theorem optionalList {record : Record (Option (List α) → β)} (h : record.Accepts members)
    (hobject : Conforms (.object declared demanded conditions) (.obj members))
    (hschema : (name, .array schema) ∈ declared)
    (hdecode : ∀ values, Members.get? members name = some (.arr values) → ∀ value ∈ values,
      Conforms schema value → Decodes item value) :
    (record.optional name item.list).Accepts members := by
  refine h.optional hobject hschema fun value hget hvalue => Decodes.of_array hvalue ?_
  rintro values rfl
  exact hdecode values hget

theorem defaulted {record : Record (List α → β)} (h : record.Accepts members)
    (hobject : Conforms (.object declared demanded conditions) (.obj members))
    (hschema : (name, .array schema) ∈ declared)
    (hdecode : ∀ values, Members.get? members name = some (.arr values) → ∀ value ∈ values,
      Conforms schema value → Decodes item value) :
    (record.defaulted name item).Accepts members := by
  refine h.omissible rfl fun value hget => Decodes.of_array (conforms_member hobject hschema hget) ?_
  rintro values rfl
  exact hdecode values hget

theorem decoder {record : Record α} (h : record.Accepts members) (title : String) :
    Decodes (record.decoder title) (.obj members) := by
  obtain ⟨x, hx⟩ := h
  exact ⟨x, Record.readMembers_of_reads hx⟩

end Record.Accepts
end

/-! ### Parts of a document that are decoded -/

section
variable {value : Json}

theorem Decodes.column (h : Conforms Schema.column value) : Decodes Column.decode value := by
  obtain ⟨members, rfl, -⟩ := conforms_object.1 h
  refine Record.Accepts.decoder ?_ _
  refine Record.Accepts.required ?_ h (by simp) (by simp) fun _ _ => .string
  exact (Record.Accepts.done Column.mk).required h (by simp) (by simp) fun _ _ => .string

theorem Decodes.table (h : Conforms Schema.table value) : Decodes Table.decode value := by
  obtain ⟨members, rfl, -⟩ := conforms_object.1 h
  refine Record.Accepts.decoder ?_ _
  refine Record.Accepts.defaulted ?_ h (by simp) fun _ _ _ _ => .action
  exact (Record.Accepts.done Table.mk).defaulted h (by simp) fun _ _ _ _ => .column

theorem Decodes.menuGroup (h : Conforms Schema.menuGroup value) : Decodes MenuGroup.decode value := by
  obtain ⟨members, rfl, -⟩ := conforms_object.1 h
  refine Record.Accepts.decoder ?_ _
  refine Record.Accepts.optional ?_ h (by simp) fun _ _ => .strings
  refine Record.Accepts.required ?_ h (by simp) (by simp) fun _ _ => .string
  exact (Record.Accepts.done MenuGroup.mk).required h (by simp) (by simp) fun _ _ => .string

theorem Decodes.product (h : Conforms Schema.product value) : Decodes Meta.decode value := by
  obtain ⟨members, rfl, -⟩ := conforms_object.1 h
  refine Record.Accepts.decoder ?_ _
  refine Record.Accepts.optional ?_ h (by simp) fun _ _ => .string
  refine Record.Accepts.required ?_ h (by simp) (by simp) fun _ _ => .string
  refine Record.Accepts.required ?_ h (by simp) (by simp) fun _ _ => .string
  refine Record.Accepts.required ?_ h (by simp) (by simp) fun _ _ => .word
  exact (Record.Accepts.done Meta.mk).required h (by simp) (by simp) fun _ _ => .string

/-! ### Validators -/

theorem Validator.Tag.ofName_eq_number {name : String} (h : Tag.ofName name = .number) : name = "number" := by
  unfold Tag.ofName at h
  split_ifs at h with _ hnumber
  exact hnumber

theorem Validator.Tag.ofName_eq_regex {name : String} (h : Tag.ofName name = .regex) : name = "regex" := by
  unfold Tag.ofName at h
  split_ifs at h with _ _ hregex
  exact hregex

/-- What a condition demands is there if its premise holds. -/
theorem isSome_of_condition {conditions : List Condition} {members : Members} {name text demands : String}
    (h : conditionComplaints conditions members = []) (hget : Members.get? members name = some (.str text))
    (hmem : ⟨name, text, demands⟩ ∈ conditions) : (Members.get? members demands).isSome := by
  have hnone := List.flatMap_eq_nil_iff.1 h _ hmem
  have happlies : Condition.applies ⟨name, text, demands⟩ members = true := by simp [Condition.applies, hget]
  rw [if_pos happlies, missing_eq_nil] at hnone
  exact hnone _ (List.mem_singleton.2 rfl)

/-- The parameters of a validator are read from the members besides its tag. -/
theorem Record.Accepts.without_tag {α : Type} {record : Record α} [hdeclared : record.Declared]
    {members : Members} (h : record.Accepts members) (hfresh : Validator.tagName ∉ record.names) :
    ∃ x, record.readMembers (Members.erase Validator.tagName members) = .ok x := by
  obtain ⟨x, hx⟩ := h
  refine ⟨x, Record.readMembers_of_reads ?_⟩
  unfold Record.Reads at hx ⊢
  rw [← hx]
  refine hdeclared.ofMembers_congr fun name hname => ?_
  rw [Members.get?_erase, if_neg]
  rintro rfl
  exact hfresh hname

theorem Decodes.validator (h : Conforms Schema.validator value) (hlengths : LengthsFit value) :
    Decodes Validator.decode value := by
  obtain ⟨members, rfl, hconditions, hmember, hrequired⟩ := conforms_object.1 h
  obtain ⟨tagValue, htag⟩ := Option.isSome_iff_exists.1 (hrequired "type" (by simp))
  obtain ⟨text, rfl⟩ := conforms_string.1 (hmember "type" .string (by simp) tagValue htag)
  have hlength : ∀ name ∈ ["minLength", "maxLength"], ∀ length, Members.get? members name = some length →
      Decodes Decoder.signed length := by
    intro name hname length hget
    obtain ⟨n, rfl, -, hn⟩ := hlengths name hname length hget
    exact .signed hn
  have hmessage : ∀ {β : Type} {record : Record (Option String → β)}, record.Accepts members →
      (record.optional "errorMsg" Decoder.string).Accepts members :=
    fun hrecord => hrecord.optional h (by simp) fun _ _ => .string
  suffices ∃ x, Validator.ofMembers (.ofName text) (Members.erase Validator.tagName members) = .ok x by
    obtain ⟨x, hx⟩ := this
    exact ⟨x, by rw [Validator.decode_obj htag]; exact hx⟩
  cases hkind : Validator.Tag.ofName text with
  | string =>
    refine Record.Accepts.without_tag (hmessage ?_) (by simp [Validator.tagName, Validator.stringRecord])
    refine Record.Accepts.optional ?_ h (by simp) fun length hget (_ : Conforms .integer length) =>
      hlength _ (by simp) length hget
    refine Record.Accepts.optional ?_ h (by simp) fun length hget (_ : Conforms .integer length) =>
      hlength _ (by simp) length hget
    exact .done _
  | number =>
    have htext := Validator.Tag.ofName_eq_number hkind
    have hrange : (Members.get? members "range").isSome :=
      isSome_of_condition hconditions (htext ▸ htag) (by simp)
    refine Record.Accepts.without_tag (hmessage ?_) (by simp [Validator.tagName, Validator.numberRecord])
    exact (Record.Accepts.done Validator.number).present h hrange (by simp) fun _ _ => .doubles
  | regex =>
    have htext := Validator.Tag.ofName_eq_regex hkind
    have hpattern : (Members.get? members "pattern").isSome :=
      isSome_of_condition hconditions (htext ▸ htag) (by simp)
    refine Record.Accepts.without_tag (hmessage ?_) (by simp [Validator.tagName, Validator.regexRecord])
    exact (Record.Accepts.done Validator.regex).present h hpattern (by simp) fun _ _ => .string
  | _ => exact ⟨_, rfl⟩

/-! ### Choices -/

/-- A choice without children is read at any level. -/
theorem Decodes.childChoice {levels : Nat} (hlevels : 0 < levels) (h : Conforms Schema.childChoice value)
    (hchildren : value.member? "children" = none) : Decodes (Choice.decodeNested levels) value := by
  obtain ⟨members, rfl, -⟩ := conforms_object.1 h
  obtain ⟨levels, rfl⟩ := Nat.exists_eq_add_one.2 hlevels
  refine Record.Accepts.decoder ?_ _
  obtain ⟨f, hf⟩ : (((Record.done Choice.mk).required "value" ChoiceValue.decode).required "label"
      Decoder.string).Accepts members := by
    refine Record.Accepts.required ?_ h (by simp) (by simp) fun _ _ => .string
    exact (Record.Accepts.done Choice.mk).required h (by simp) (by simp) fun _ _ => .choiceValue
  refine ⟨f none, Record.reads_and.2 ⟨f, none, hf, ?_, rfl⟩⟩
  show Field.Gives _ (Members.get? members "children") none
  rw [show Members.get? members "children" = none from hchildren]
  rfl

theorem Json.depth_lt_of_member {members : Members} {name : String} {value : Json}
    (h : Members.get? members name = some value) : value.depth < (Json.obj members).depth :=
  Nat.lt_succ_of_le (depth_le_depthMembers (Members.mem_of_get? h))

/-- A choice is read if the choices in it have no children. -/
theorem Decodes.choiceEntry (h : Conforms Schema.choiceEntry value)
    (hflat : ∀ child ∈ Json.itemsUnder "children" [value], child.member? "children" = none) :
    Decodes Choice.decode value := by
  obtain ⟨members, rfl, -⟩ := conforms_object.1 h
  obtain ⟨levels, hlevels⟩ := Nat.exists_eq_add_one.2 (Json.depth_pos (.obj members))
  have hchildren : ∀ children, Members.get? members "children" = some (.arr children) → ∀ child ∈ children,
      Conforms Schema.childChoice child → Decodes (Choice.decodeNested levels) child := by
    intro children hget child hchild hconforms
    have hinner : child.depth < (Json.arr children).depth := Json.depth_lt_of_mem hchild
    have houter : (Json.arr children).depth < (Json.obj members).depth := Json.depth_lt_of_member hget
    have hmem : child ∈ Json.itemsUnder "children" [.obj members] :=
      Json.mem_itemsUnder (List.mem_singleton_self (Json.obj members)) hget hchild
    exact .childChoice (by omega) hconforms (hflat child hmem)
  have hread : Decodes (Choice.decodeNested (levels + 1)) (.obj members) := by
    refine Record.Accepts.decoder ?_ _
    refine Record.Accepts.optionalList ?_ h (by simp) hchildren
    refine Record.Accepts.required ?_ h (by simp) (by simp) fun _ _ => .string
    exact (Record.Accepts.done Choice.mk).required h (by simp) (by simp) fun _ _ => .choiceValue
  obtain ⟨choice, hchoice⟩ := hread
  refine ⟨choice, ?_⟩
  rw [← hlevels] at hchoice
  exact hchoice

end

/-! ### From the fields to the document -/

section
variable {document value : Json} (hfits : FitsModel document)
include hfits

/-- The validators of an entity or a field below one. -/
theorem Decodes.validators {owner : Members} (hmem : .obj owner ∈ entitiesIn document ++ subFieldsIn document)
    (validators : List Json) (hget : Members.get? owner "validators" = some (.arr validators)) :
    ∀ validator ∈ validators, Conforms Schema.validator validator → Decodes Validator.decode validator :=
  fun validator hvalidator hconforms =>
    .validator hconforms (hfits.lengths validator (Json.mem_itemsUnder hmem hget hvalidator))

theorem Decodes.subField (hmem : value ∈ subFieldsIn document) (h : Conforms Schema.oauthField value) :
    Decodes OAuthField.decode value := by
  obtain ⟨members, rfl, -⟩ := conforms_object.1 h
  refine Record.Accepts.decoder ?_ _
  refine Record.Accepts.defaulted ?_ h (by simp) (Decodes.validators hfits (List.mem_append_right _ hmem))
  refine Record.Accepts.optional ?_ h (by simp) fun _ _ => .bool
  refine Record.Accepts.required ?_ h (by simp) (by simp) fun _ _ => .string
  refine Record.Accepts.required ?_ h (by simp) (by simp) fun _ _ => .string
  exact (Record.Accepts.done OAuthField.mk).required h (by simp) (by simp) fun _ _ => .string

theorem Decodes.options (hmem : value ∈ optionsIn document) (h : Conforms Schema.entityOptions value) :
    Decodes EntityOptions.decode value := by
  obtain ⟨members, rfl, -⟩ := conforms_object.1 h
  have hchoices : ∀ choices, Members.get? members "autoCompleteFields" = some (.arr choices) →
      ∀ choice ∈ choices, Conforms Schema.choiceEntry choice → Decodes Choice.decode choice :=
    fun choices hget choice hchoice hconforms =>
      .choiceEntry hconforms (hfits.flat choice (Json.mem_itemsUnder hmem hget hchoice))
  have hsize : ∀ size, Members.get? members "maxFileSize" = some size → Conforms .natural size →
      Decodes Decoder.unsigned size := by
    intro size hget _
    obtain ⟨n, rfl, -⟩ := hfits.sizes _ hmem size hget
    exact .unsigned n
  have hoauth : ∀ subs, Members.get? members "oauth" = some (.arr subs) → ∀ sub ∈ subs,
      Conforms Schema.oauthField sub → Decodes OAuthField.decode sub :=
    fun subs hget sub hsub => .subField hfits (List.mem_append_left _ (Json.mem_itemsUnder hmem hget hsub))
  have hbasic : ∀ subs, Members.get? members "basic" = some (.arr subs) → ∀ sub ∈ subs,
      Conforms Schema.oauthField sub → Decodes OAuthField.decode sub :=
    fun subs hget sub hsub => .subField hfits (List.mem_append_right _ (Json.mem_itemsUnder hmem hget hsub))
  suffices hknown : EntityOptions.known.Accepts members by
    obtain ⟨build, hbuild⟩ := hknown
    refine ⟨build (EntityOptions.extraOf members), ?_⟩
    simp only [EntityOptions.decode, Record.readMembers_of_reads hbuild]
    rfl
  refine Record.Accepts.optional ?_ h (by simp) fun _ _ => .strings
  refine Record.Accepts.optionalList ?_ h (by simp) hbasic
  refine Record.Accepts.optionalList ?_ h (by simp) hoauth
  refine Record.Accepts.optional ?_ h (by simp) fun _ _ => .string
  refine Record.Accepts.optional ?_ h (by simp) hsize
  refine Record.Accepts.optional ?_ h (by simp) fun _ _ => .strings
  exact (Record.Accepts.done EntityOptions.mk).optionalList h (by simp) hchoices

theorem Decodes.entity (hmem : value ∈ entitiesIn document) (h : Conforms Schema.entity value) :
    Decodes Entity.decode value := by
  obtain ⟨members, rfl, -⟩ := conforms_object.1 h
  have hoptions : ∀ options, Members.get? members "options" = some options →
      Conforms Schema.entityOptions options → Decodes EntityOptions.decode options :=
    fun options hget => .options hfits (Json.mem_under hmem hget)
  refine Record.Accepts.decoder ?_ _
  refine Record.Accepts.optional ?_ h (by simp) hoptions
  refine Record.Accepts.defaulted ?_ h (by simp) (Decodes.validators hfits (List.mem_append_left _ hmem))
  refine Record.Accepts.optional ?_ h (by simp) fun _ _ => .string
  refine Record.Accepts.undeclared ?_ fun value => ⟨value, rfl⟩
  refine Record.Accepts.optional ?_ h (by simp) fun _ _ => .bool
  refine Record.Accepts.required ?_ h (by simp) (by simp) fun _ _ => .entityType
  refine Record.Accepts.required ?_ h (by simp) (by simp) fun _ _ => .string
  exact (Record.Accepts.done Entity.mk).required h (by simp) (by simp) fun _ _ => .string

/-- The entities of a tab or service. -/
theorem Decodes.entities {owner : Members} (hmem : .obj owner ∈ tabsIn document ++ servicesIn document)
    (entities : List Json) (hget : Members.get? owner "entity" = some (.arr entities)) :
    ∀ entity ∈ entities, Conforms Schema.entity entity → Decodes Entity.decode entity :=
  fun _ hentity => .entity hfits (Json.mem_itemsUnder hmem hget hentity)

theorem Decodes.tab (hmem : value ∈ tabsIn document) (h : Conforms Schema.tab value) :
    Decodes Tab.decode value := by
  obtain ⟨members, rfl, -⟩ := conforms_object.1 h
  refine Record.Accepts.decoder ?_ _
  refine Record.Accepts.optional ?_ h (by simp) fun _ _ => .string
  refine Record.Accepts.optional ?_ h (by simp) fun _ _ => .table
  refine Record.Accepts.requiredList ?_ h (by simp) (by simp) (Decodes.entities hfits (List.mem_append_left _ hmem))
  refine Record.Accepts.required ?_ h (by simp) (by simp) fun _ _ => .string
  exact (Record.Accepts.done Tab.mk).required h (by simp) (by simp) fun _ _ => .string

theorem Decodes.service (hmem : value ∈ servicesIn document) (h : Conforms Schema.service value) :
    Decodes Service.decode value := by
  obtain ⟨members, rfl, -⟩ := conforms_object.1 h
  refine Record.Accepts.decoder ?_ _
  refine Record.Accepts.optional ?_ h (by simp) fun _ _ => .string
  refine Record.Accepts.optional ?_ h (by simp) fun _ _ => .string
  refine Record.Accepts.optional ?_ h (by simp) fun _ _ => .string
  refine Record.Accepts.optional ?_ h (by simp) fun _ _ => .string
  refine Record.Accepts.requiredList ?_ h (by simp) (by simp) (Decodes.entities hfits (List.mem_append_right _ hmem))
  refine Record.Accepts.required ?_ h (by simp) (by simp) fun _ _ => .string
  exact (Record.Accepts.done Service.mk).required h (by simp) (by simp) fun _ _ => .string

theorem Decodes.inputsPage (hmem : value ∈ Json.under "inputs" (pagesIn document))
    (h : Conforms Schema.inputsPage value) : Decodes InputsPage.decode value := by
  obtain ⟨members, rfl, -⟩ := conforms_object.1 h
  have hservices : ∀ services, Members.get? members "services" = some (.arr services) → ∀ service ∈ services,
      Conforms Schema.service service → Decodes Service.decode service :=
    fun services hget service hservice => .service hfits (Json.mem_itemsUnder hmem hget hservice)
  refine Record.Accepts.decoder ?_ _
  refine Record.Accepts.optionalList ?_ h (by simp) fun _ _ _ _ => .menuGroup
  refine Record.Accepts.requiredList ?_ h (by simp) (by simp) hservices
  exact (Record.Accepts.done InputsPage.mk).optional h (by simp) fun _ _ => .string

theorem Decodes.pages (hmem : value ∈ pagesIn document) (h : Conforms Schema.pages value) :
    Decodes Pages.decode value := by
  obtain ⟨members, rfl, -⟩ := conforms_object.1 h
  have htabs : ∀ tabs, Members.get? members "configuration" = some (.arr tabs) → ∀ tab ∈ tabs,
      Conforms Schema.tab tab → Decodes Tab.decode tab :=
    fun tabs hget tab htab => .tab hfits (Json.mem_itemsUnder hmem hget htab)
  have hinputs : ∀ page, Members.get? members "inputs" = some page → Conforms Schema.inputsPage page →
      Decodes InputsPage.decode page :=
    fun page hget => .inputsPage hfits (Json.mem_under hmem hget)
  refine Record.Accepts.decoder ?_ _
  refine Record.Accepts.optional ?_ h (by simp) hinputs
  exact (Record.Accepts.done Pages.mk).optionalList h (by simp) htabs

theorem Decodes.config (h : Conforms Schema.document document) : Decodes Config.decode document := by
  obtain ⟨members, rfl, -⟩ := conforms_object.1 h
  have hpages : ∀ pages, Members.get? members "pages" = some pages → Conforms Schema.pages pages →
      Decodes Pages.decode pages :=
    fun pages hget => .pages hfits (Json.mem_under (List.mem_singleton_self (Json.obj members)) hget)
  refine Record.Accepts.decoder ?_ _
  refine Record.Accepts.required ?_ h (by simp) (by simp) hpages
  exact (Record.Accepts.done Config.mk).required h (by simp) (by simp) fun _ _ => .product

end

/-- A document without violations is decoded, and so loaded, unless a length, a size or a group has one of the
shapes that the schema admits and the model does not. -/
theorem accepted_document_decodes (document : Json) (h : violations Schema.document document = [])
    (hfits : FitsModel document) :
    ∃ config, Config.decode document = .ok config ∧
      ∀ spans, Located.toConfig ⟨document, spans⟩ = .ok config := by
  obtain ⟨config, hconfig⟩ := Decodes.config hfits ((violations_eq_nil _ _).1 h)
  refine ⟨config, hconfig, fun spans => ?_⟩
  simp only [Located.toConfig, h, hconfig]

/-- A document with a length, a size and a group. -/
def guardedDocument : Json :=
  .obj [
    ("meta", .obj [("displayName", .str "Add-on"), ("name", .str "addon"), ("restRoot", .str "addon"),
      ("version", .str "1.0")]),
    ("pages", .obj [("configuration", .arr [.obj [
      ("entity", .arr [.obj [
        ("field", .str "kind"), ("label", .str "Kind"),
        ("options", .obj [
          ("autoCompleteFields", .arr [.obj [
            ("children", .arr [.obj [("label", .str "One"), ("value", .num (.int 1))]]),
            ("label", .str "Numbers"), ("value", .str "numbers")]]),
          ("maxFileSize", .num (.int 1024))]),
        ("type", .str "singleSelect"),
        ("validators", .arr [.obj [("minLength", .num (.int (-1))), ("type", .str "string")]])]]),
      ("name", .str "account"), ("title", .str "Account")]])])]

theorem guardedDocument_fits : FitsModel guardedDocument := by
  constructor
  · intro validator hvalidator name hname length hlength
    have hall : validatorsIn guardedDocument
        = [.obj [("minLength", .num (.int (-1))), ("type", .str "string")]] := rfl
    obtain rfl := List.mem_singleton.1 (hall ▸ hvalidator)
    rcases List.mem_pair.1 hname with rfl | rfl
    · cases hlength
      exact ⟨-1, rfl, by decide, by decide⟩
    · cases hlength
  · intro options hoptions size hsize
    obtain rfl := List.mem_singleton.1 hoptions
    cases hsize
    exact ⟨1024, rfl, by decide⟩
  · intro choice hchoice child hchild
    obtain rfl := List.mem_singleton.1 hchoice
    obtain rfl := List.mem_singleton.1 hchild
    rfl

theorem guardedDocument_decodes :
    violations Schema.document guardedDocument = [] ∧ FitsModel guardedDocument ∧
      ∃ config, Config.decode guardedDocument = .ok config ∧
        ∀ spans, Located.toConfig ⟨guardedDocument, spans⟩ = .ok config := by
  have h : violations Schema.document guardedDocument = [] := rfl
  exact ⟨h, guardedDocument_fits, accepted_document_decodes guardedDocument h guardedDocument_fits⟩

end AddonConfig
