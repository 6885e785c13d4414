import AddonConfig.Proofs.RelatedRecords

/-!
# Members that nothing declares

A member that neither the model nor the schema declares for its object is of no account: the document is decoded
to the same configuration or refused for the same reason, and the schema has something against both or neither.

`RecordKind` names the records of a document, with what each is read by, what stands below it and what the schema
asks for there. `UndeclaredChange` changes one such member, and `UndeclaredChange.alike` follows the places from
its object up to the document.
-/

namespace AddonConfig
open Schema

def Schema.memberNames : Schema → List String
  | .object declared _ _ => declared.map (·.1)
  | _ => []

/-! ### The records of a document -/

/-- What an object or array of a document can be read as. -/
inductive RecordKind where
  | config | product | pages | tab | table | column | inputsPage | service | menuGroup
  | entity | options | choice | oauthField | validator
  deriving DecidableEq

/-- What a member of a record holds of records: one, or a list of them. -/
inductive Part where
  | one (kind : RecordKind)
  | many (kind : RecordKind)

namespace RecordKind

/-- What a record of the kind is read as. -/
def Model : RecordKind → Type
  | .config => Config
  | .product => Meta
  | .pages => Pages
  | .tab => Tab
  | .table => Table
  | .column => Column
  | .inputsPage => InputsPage
  | .service => Service
  | .menuGroup => MenuGroup
  | .entity => Entity
  | .options => EntityOptions
  | .choice => Choice
  | .oauthField => OAuthField
  | .validator => Validator

def decode : (kind : RecordKind) → Decoder kind.Model
  | .config => Config.decode
  | .product => Meta.decode
  | .pages => Pages.decode
  | .tab => Tab.decode
  | .table => Table.decode
  | .column => Column.decode
  | .inputsPage => InputsPage.decode
  | .service => Service.decode
  | .menuGroup => MenuGroup.decode
  | .entity => Entity.decode
  | .options => EntityOptions.decode
  | .choice => Choice.decode
  | .oauthField => OAuthField.decode
  | .validator => Validator.decode

/-- The members that the model declares, in the order of an array; those of a validator are of all its kinds. -/
def names : RecordKind → List String
  | .config => Config.record.names
  | .product => Meta.record.names
  | .pages => Pages.record.names
  | .tab => Tab.record.names
  | .table => Table.record.names
  | .column => Column.record.names
  | .inputsPage => InputsPage.record.names
  | .service => Service.record.names
  | .menuGroup => MenuGroup.record.names
  | .entity => Entity.record.names
  | .options => EntityOptions.known.names
  | .choice => (Choice.record Choice.decode).names
  | .oauthField => OAuthField.record.names
  | .validator => Validator.tagName ::
      (Validator.stringRecord.names ++ Validator.numberRecord.names ++ Validator.regexRecord.names)

/-- The members that hold records. -/
def parts : RecordKind → List (String × Part)
  | .config => [("meta", .one .product), ("pages", .one .pages)]
  | .pages => [("configuration", .many .tab), ("inputs", .one .inputsPage)]
  | .tab => [("entity", .many .entity), ("table", .one .table)]
  | .table => [("header", .many .column)]
  | .inputsPage => [("services", .many .service), ("multiLevelMenu", .many .menuGroup)]
  | .service => [("entity", .many .entity)]
  | .entity => [("validators", .many .validator), ("options", .one .options)]
  | .options => [("autoCompleteFields", .many .choice), ("oauth", .many .oauthField), ("basic", .many .oauthField)]
  | .choice => [("children", .many .choice)]
  | .oauthField => [("validators", .many .validator)]
  | .product | .column | .menuGroup | .validator => []

/-- What a member holds, if it holds records. -/
def part (kind : RecordKind) (name : String) : Option Part := kind.parts.lookup name

/-- What the schema asks for where the record is; of choices it tells the entries from those below them. -/
def schemas : RecordKind → List Schema
  | .config => [Schema.document]
  | .product => [Schema.product]
  | .pages => [Schema.pages]
  | .tab => [Schema.tab]
  | .table => [Schema.table]
  | .column => [Schema.column]
  | .inputsPage => [Schema.inputsPage]
  | .service => [Schema.service]
  | .menuGroup => [Schema.menuGroup]
  | .entity => [Schema.entity]
  | .options => [Schema.entityOptions]
  | .choice => [Schema.choiceEntry, Schema.childChoice]
  | .oauthField => [Schema.oauthField]
  | .validator => [Schema.validator]

/-- The members that the model or the schema declares. -/
def declared (kind : RecordKind) : List String := kind.names ++ kind.schemas.flatMap Schema.memberNames

end RecordKind

namespace Part

def Model : Part → Type
  | .one kind => kind.Model
  | .many kind => List kind.Model

def decode : (part : Part) → Decoder part.Model
  | .one kind => kind.decode
  | .many kind => kind.decode.list

def schemas : Part → List Schema
  | .one kind => kind.schemas
  | .many kind => kind.schemas.map .array

/-- Two values of which the model reads the same and the schema thinks the same. -/
structure Alike (part : Part) (value changed : Json) : Prop where
  decode : part.decode changed = part.decode value
  null : changed = .null ↔ value = .null
  conforms : ∀ schema ∈ part.schemas, Conforms schema changed ↔ Conforms schema value

namespace Alike
variable {part : Part} {value changed : Json}

theorem refl (part : Part) (value : Json) : part.Alike value value := ⟨rfl, Iff.rfl, fun _ _ => Iff.rfl⟩

theorem option (h : part.Alike value changed) : part.decode.option changed = part.decode.option value :=
  Decoder.option_congr h.null h.decode

end Alike

end Part

namespace RecordKind

/-- Two values of a member: alike where it holds records, and otherwise the same. -/
def Related (kind : RecordKind) (name : String) (value changed : Json) : Prop :=
  match kind.part name with
  | some part => part.Alike value changed
  | none => changed = value

theorem Related.refl (kind : RecordKind) (name : String) (value : Json) : kind.Related name value value := by
  unfold Related
  cases kind.part name with
  | none => rfl
  | some part => exact .refl part value

theorem Related.of_part {kind : RecordKind} {name : String} {part : Part} {value changed : Json}
    (hpart : kind.part name = some part) (h : part.Alike value changed) : kind.Related name value changed := by
  rw [Related, hpart]
  exact h

/-- How the records of a kind are read. -/
structure ReadBy (kind : RecordKind) (record : Record kind.Model) : Prop where
  decode : ∃ title, kind.decode = record.decoder title
  names : record.names = kind.names
  alike : record.Alike kind.Related record

end RecordKind

namespace Record.Alike
variable {α β : Type} {kind : RecordKind} {record : Record (α → β)} {field : Field α}

theorem plain (h : record.Alike kind.Related record) (hpart : kind.part field.name = none) :
    (record.and field).Alike kind.Related (record.and field) := by
  refine .and h fun value changed hrelated => ?_
  rw [RecordKind.Related, hpart] at hrelated
  rw [hrelated]

theorem inner (h : record.Alike kind.Related record) {part : Part} (hpart : kind.part field.name = some part)
    (hdecode : ∀ {value changed}, part.Alike value changed → field.decode changed = field.decode value) :
    (record.and field).Alike kind.Related (record.and field) := by
  refine .and h fun value changed hrelated => hdecode ?_
  rwa [RecordKind.Related, hpart] at hrelated

end Record.Alike

namespace RecordKind
open Record.Alike

theorem known_alike : EntityOptions.known.Alike RecordKind.options.Related EntityOptions.known :=
  (done EntityOptions.mk).inner rfl (·.option) |>.plain rfl |>.plain rfl |>.plain rfl |>.inner rfl (·.option)
    |>.inner rfl (·.option) |>.plain rfl

/-- All but the options, of which some are not declared, and the validators, which have a tag, are read as records
are. -/
theorem readBy : ∀ kind : RecordKind, kind ≠ .options → kind ≠ .validator → ∃ record, kind.ReadBy record
  | .config, _, _ => ⟨Config.record, ⟨_, rfl⟩, rfl,
      (done Config.mk).inner rfl (·.decode) |>.inner rfl (·.decode)⟩
  | .product, _, _ => ⟨Meta.record, ⟨_, rfl⟩, rfl,
      (done Meta.mk).plain rfl |>.plain rfl |>.plain rfl |>.plain rfl |>.plain rfl⟩
  | .pages, _, _ => ⟨Pages.record, ⟨_, rfl⟩, rfl,
      (done Pages.mk).inner rfl (·.option) |>.inner rfl (·.option)⟩
  | .tab, _, _ => ⟨Tab.record, ⟨_, rfl⟩, rfl,
      (done Tab.mk).plain rfl |>.plain rfl |>.inner rfl (·.decode) |>.inner rfl (·.option) |>.plain rfl⟩
  | .table, _, _ => ⟨Table.record, ⟨_, rfl⟩, rfl,
      (done Table.mk).inner rfl (·.decode) |>.plain rfl⟩
  | .column, _, _ => ⟨Column.record, ⟨_, rfl⟩, rfl,
      (done Column.mk).plain rfl |>.plain rfl⟩
  | .inputsPage, _, _ => ⟨InputsPage.record, ⟨_, rfl⟩, rfl,
      (done InputsPage.mk).plain rfl |>.inner rfl (·.decode) |>.inner rfl (·.option)⟩
  | .service, _, _ => ⟨Service.record, ⟨_, rfl⟩, rfl,
      (done Service.mk).plain rfl |>.plain rfl |>.inner rfl (·.decode) |>.plain rfl |>.plain rfl |>.plain rfl
        |>.plain rfl⟩
  | .menuGroup, _, _ => ⟨MenuGroup.record, ⟨_, rfl⟩, rfl,
      (done MenuGroup.mk).plain rfl |>.plain rfl |>.plain rfl⟩
  | .entity, _, _ => ⟨Entity.record, ⟨_, rfl⟩, rfl,
      (done Entity.mk).plain rfl |>.plain rfl |>.plain rfl |>.plain rfl |>.plain rfl |>.plain rfl
        |>.inner rfl (·.decode) |>.inner rfl (·.option)⟩
  | .choice, _, _ => ⟨Choice.record Choice.decode, ⟨_, Choice.decode_eq⟩, rfl,
      (done Choice.mk).plain rfl |>.plain rfl |>.inner rfl (·.option)⟩
  | .oauthField, _, _ => ⟨OAuthField.record, ⟨_, rfl⟩, rfl,
      (done OAuthField.mk).plain rfl |>.plain rfl |>.plain rfl |>.plain rfl |>.inner rfl (·.decode)⟩
  | .options, hoptions, _ => absurd rfl hoptions
  | .validator, _, hvalidator => absurd rfl hvalidator

variable {kind : RecordKind} {name : String} {members changed : Members}

theorem part_eq_some {part : Part} (h : kind.part name = some part) : (name, part) ∈ kind.parts := by
  obtain ⟨before, after, hparts, -⟩ := List.lookup_eq_some_iff.1 h
  rw [hparts]
  exact List.mem_append_right _ List.mem_cons_self

theorem ne_validator {part : Part} (hpart : kind.part name = some part) : kind ≠ .validator := by
  rintro rfl
  cases hpart

/-- Options that hold no records are the same, among them all that are not known by name. -/
theorem extraOf_eq (h : Members.Related RecordKind.options.Related members changed) :
    EntityOptions.extraOf changed = EntityOptions.extraOf members := by
  have hknown : ∀ entry ∈ RecordKind.options.parts, entry.1 ∈ EntityOptions.known.names := by
    simp [parts, EntityOptions.known]
  unfold EntityOptions.extraOf
  induction h with
  | nil => rfl
  | @cons entry other rest rest' hentry _ ih =>
    obtain ⟨hname, hrelated⟩ := hentry
    rw [List.filter_cons, List.filter_cons, hname, ih]
    by_cases hmem : entry.1 ∈ EntityOptions.known.names
    · simp [hmem]
    · have hpart : RecordKind.options.part entry.1 = none :=
        Option.eq_none_iff_forall_not_mem.2 fun part hpart => hmem (hknown _ (part_eq_some hpart))
      rw [Related, hpart] at hrelated
      rw [Prod.ext hname hrelated]

theorem decode_members (hvalidator : kind ≠ .validator) (h : Members.Related kind.Related members changed) :
    kind.decode (.obj changed) = kind.decode (.obj members) := by
  by_cases hoptions : kind = .options
  · subst hoptions
    show (EntityOptions.known.readMembers changed >>= fun build => pure (build (EntityOptions.extraOf changed))) =
      (EntityOptions.known.readMembers members >>= fun build => pure (build (EntityOptions.extraOf members)))
    rw [known_alike.readMembers_eq h, extraOf_eq h]
  obtain ⟨record, ⟨title, hdecode⟩, -, halike⟩ := kind.readBy hoptions hvalidator
  rw [hdecode]
  exact halike.decoder_obj title h

theorem decode_items {items changed : List Json} (hvalidator : kind ≠ .validator)
    (hlength : changed.length = items.length)
    (hitems : ∀ (index : Nat) (name : String), kind.names[index]? = some name →
      Option.Rel (kind.Related name) items[index]? changed[index]?) :
    kind.decode (.arr changed) = kind.decode (.arr items) := by
  by_cases hoptions : kind = .options
  · subst hoptions
    rfl
  obtain ⟨record, ⟨title, hdecode⟩, hnames, halike⟩ := kind.readBy hoptions hvalidator
  rw [hdecode]
  rw [← hnames] at hitems
  exact halike.decoder_arr title hlength hitems

/-- Whatever the tag of a validator says, its parameters are of declared names. -/
theorem ofMembers_erase (tag : Validator.Tag) (hname : name ∉ RecordKind.validator.names) (members : Members) :
    Validator.ofMembers tag (Members.erase name members) = Validator.ofMembers tag members := by
  have hparameters := List.not_mem_of_not_mem_cons hname
  simp only [List.mem_append, not_or] at hparameters
  obtain ⟨⟨hstring, hnumber⟩, hregex⟩ := hparameters
  cases tag with
  | string => exact Validator.stringRecord.readMembers_erase hstring members
  | number => exact Validator.numberRecord.readMembers_erase hnumber members
  | regex => exact Validator.regexRecord.readMembers_erase hregex members
  | _ => rfl

theorem validator_decode_erase (hname : name ∉ RecordKind.validator.names) (members : Members) :
    Validator.decode (.obj (Members.erase name members)) = Validator.decode (.obj members) := by
  have htag : Validator.tagName ≠ name := fun heq => hname (heq ▸ List.mem_cons_self)
  have hget : Members.get? (Members.erase name members) Validator.tagName
      = Members.get? members Validator.tagName := by rw [Members.get?_erase, if_neg htag]
  cases htagged : Members.get? members Validator.tagName with
  | none => simp only [Validator.decode, hget, htagged]
  | some value =>
    have hcomm : Members.erase Validator.tagName (Members.erase name members)
        = Members.erase name (Members.erase Validator.tagName members) := List.filter_comm ..
    rw [Validator.decode_obj htagged, Validator.decode_obj (hget.trans htagged), hcomm]
    simp only [ofMembers_erase _ hname]

/-- Members of a name that the model does not declare are passed over. -/
theorem decode_erase (hoptions : kind ≠ .options) (hname : name ∉ kind.names) (members : Members) :
    kind.decode (.obj (Members.erase name members)) = kind.decode (.obj members) := by
  by_cases hvalidator : kind = .validator
  · subst hvalidator
    exact validator_decode_erase hname members
  obtain ⟨record, ⟨title, hdecode⟩, hnames, halike⟩ := kind.readBy hoptions hvalidator
  have hdeclared := halike.declared
  rw [hdecode]
  exact record.readMembers_erase (hnames ▸ hname) members

/-! ### Schemas of records -/

/-- A schema asks for members that it declares, and of those that hold records by schemas of theirs. -/
structure Suits (kind : RecordKind) (declared : List (String × Schema)) (required : List String)
    (conditions : List Condition) : Prop where
  parts : ∀ entry ∈ kind.parts, ∀ schema, (entry.1, schema) ∈ declared → schema ∈ entry.2.schemas
  required : ∀ name ∈ required, name ∈ declared.map (·.1)
  conditions : ∀ condition ∈ conditions, condition.member ∈ declared.map (·.1) ∧
    condition.demands ∈ declared.map (·.1) ∧ condition.member ∉ kind.parts.map (·.1)

theorem suits {schema : Schema} (h : schema ∈ kind.schemas) : ∃ declared required conditions,
    schema = .object declared required conditions ∧ kind.Suits declared required conditions := by
  cases kind <;> simp only [schemas, List.mem_cons, List.not_mem_nil, or_false] at h
  case choice =>
    rcases h with rfl | rfl
    · exact ⟨_, _, _, rfl, by simp [parts, Part.schemas, schemas], by simp, by simp⟩
    · exact ⟨_, _, _, rfl, by simp [parts], by simp, by simp⟩
  all_goals
    subst h
    exact ⟨_, _, _, rfl, by simp [parts, Part.schemas, schemas], by simp, by simp [parts]⟩

theorem Related.eq {value other : Json} (hpart : name ∉ kind.parts.map (·.1))
    (h : kind.Related name value other) : other = value := by
  have hnone : kind.part name = none := Option.eq_none_iff_forall_not_mem.2 fun part hsome =>
    hpart (List.mem_map_of_mem (part_eq_some hsome))
  rwa [Related, hnone] at h

section
variable {declared : List (String × Schema)} {required : List String} {conditions : List Condition}

theorem Suits.conforms_iff (suits : kind.Suits declared required conditions) {schema : Schema}
    (hentry : (name, schema) ∈ declared) {value other : Json} (h : kind.Related name value other) :
    Conforms schema other ↔ Conforms schema value := by
  unfold Related at h
  cases hpart : kind.part name with
  | none =>
    rw [hpart] at h
    rw [h]
  | some part =>
    rw [hpart] at h
    exact h.conforms schema (suits.parts _ (part_eq_some hpart) schema hentry)

theorem Suits.conditionComplaints_eq (suits : kind.Suits declared required conditions)
    (h : ∀ name ∈ declared.map (·.1),
      Option.Rel (kind.Related name) (Members.get? members name) (Members.get? changed name)) :
    conditionComplaints conditions changed = conditionComplaints conditions members := by
  refine List.flatMap_congr fun condition hcondition => ?_
  obtain ⟨hmember, hdemands, hpart⟩ := suits.conditions condition hcondition
  -- the premise reads a text, and the member that it reads holds no records
  have hpremise : Members.get? changed condition.member = Members.get? members condition.member := by
    have hrelated := h _ hmember
    generalize Members.get? members condition.member = found,
      Members.get? changed condition.member = found' at hrelated ⊢
    cases hrelated with
    | none => rfl
    | some hvalue => rw [hvalue.eq hpart]
  have happlies : condition.applies changed = condition.applies members := by
    rw [Condition.applies, Condition.applies, hpremise]
  have hmissing : missing [condition.demands] changed = missing [condition.demands] members := by
    simp only [missing, ← Option.not_isSome, isSome_of_rel (h _ hdemands), List.filter_cons, List.filter_nil]
  rw [happlies, hmissing]

end

/-- A schema of the record has something against both objects or neither. -/
theorem conforms_obj {schema : Schema} (hschema : schema ∈ kind.schemas)
    (h : ∀ name ∈ schema.memberNames,
      Option.Rel (kind.Related name) (Members.get? members name) (Members.get? changed name)) :
    Conforms schema (.obj changed) ↔ Conforms schema (.obj members) := by
  obtain ⟨declared, required, conditions, rfl, hsuits⟩ := suits hschema
  change ∀ name ∈ declared.map (·.1), _ at h
  rw [Conforms, Conforms, conformMembers_iff, conformMembers_iff, hsuits.conditionComplaints_eq h]
  refine and_congr_right' (and_congr ?_ ?_)
  · refine forall_congr' fun name => forall_congr' fun schema => forall_congr' fun hentry => ?_
    have hrelated := h name (List.mem_map_of_mem hentry)
    generalize Members.get? members name = found, Members.get? changed name = found' at hrelated ⊢
    cases hrelated with
    | none => rfl
    | some hvalue => simpa using hsuits.conforms_iff hentry hvalue
  · refine forall_congr' fun name => forall_congr' fun hname => ?_
    rw [isSome_of_rel (h name (hsuits.required name hname))]

theorem not_conforms_arr {schema : Schema} (hschema : schema ∈ kind.schemas) (items : List Json) :
    ¬ Conforms schema (.arr items) := by
  obtain ⟨declared, required, conditions, rfl, -⟩ := suits hschema
  rw [conforms_object]
  rintro ⟨members, hmembers, -⟩
  cases hmembers

end RecordKind

/-! ### One member that is not declared -/

theorem Members.erase_insert (name : String) (value : Json) (members : Members) :
    erase name (insert name value members) = erase name members := by
  induction members with
  | nil => simp [insert, erase]
  | cons entry rest ih =>
    rw [insert]
    unfold erase at ih ⊢
    split_ifs with hlt heq
    · rw [List.filter_cons_of_neg (by simp)]
    · rw [List.filter_cons_of_neg (by simp), List.filter_cons_of_neg (by simp [heq])]
    · rw [List.filter_cons, List.filter_cons, ih]

/-- Two values differ in one member, set, replaced or removed, of an object that the part of the document is read
by; neither the model nor the schema declares a member of that name there. -/
inductive UndeclaredChange : Part → Json → Json → Prop
  /-- The options of an entity are kept whatever their names, so that none of them is of no account. -/
  | here (kind : RecordKind) (name : String) {members changed : Members} (hoptions : kind ≠ .options)
      (hname : name ∉ kind.declared) (hrest : Members.erase name changed = Members.erase name members) :
      UndeclaredChange (.one kind) (.obj members) (.obj changed)
  | member (kind : RecordKind) (name : String) {part : Part} {value changed : Json} (before after : Members)
      (hpart : kind.part name = some part) (inner : UndeclaredChange part value changed) :
      UndeclaredChange (.one kind) (.obj (before ++ (name, value) :: after))
        (.obj (before ++ (name, changed) :: after))
  /-- An array gives the members of a record in the order in which they are declared. -/
  | element (kind : RecordKind) (name : String) {part : Part} {value changed : Json} (front back : List Json)
      (hname : kind.names[front.length]? = some name) (hpart : kind.part name = some part)
      (inner : UndeclaredChange part value changed) :
      UndeclaredChange (.one kind) (.arr (front ++ value :: back)) (.arr (front ++ changed :: back))
  | item (kind : RecordKind) {value changed : Json} (front back : List Json)
      (inner : UndeclaredChange (.one kind) value changed) :
      UndeclaredChange (.many kind) (.arr (front ++ value :: back)) (.arr (front ++ changed :: back))

namespace UndeclaredChange

/-- A member is added to an object, or takes the place of one that is not declared either. -/
theorem insert (kind : RecordKind) (name : String) (hoptions : kind ≠ .options) (hname : name ∉ kind.declared)
    (value : Json) (members : Members) :
    UndeclaredChange (.one kind) (.obj members) (.obj (Members.insert name value members)) :=
  .here kind name hoptions hname (Members.erase_insert name value members)

theorem alike {part : Part} {value changed : Json} (h : UndeclaredChange part value changed) :
    part.Alike value changed := by
  induction h with
  | @here kind name members changed hoptions hname hrest =>
    rw [RecordKind.declared, List.mem_append, not_or] at hname
    obtain ⟨hmodel, hschemas⟩ := hname
    refine ⟨?_, by simp, fun schema hschema => RecordKind.conforms_obj hschema fun other hother => ?_⟩
    · show kind.decode (.obj changed) = kind.decode (.obj members)
      rw [← RecordKind.decode_erase hoptions hmodel changed, hrest, RecordKind.decode_erase hoptions hmodel]
    · -- the schema looks at other members alone
      have hne : other ≠ name := by
        rintro rfl
        exact hschemas (List.mem_flatMap.2 ⟨schema, hschema, hother⟩)
      have hget := congrArg (Members.get? · other) hrest
      simp only [Members.get?_erase, if_neg hne] at hget
      rw [hget]
      exact rel_self (RecordKind.Related.refl kind other) _
  | @member kind name part value changed before after hpart _ ih =>
    have hmembers : Members.Related kind.Related (before ++ (name, value) :: after)
        (before ++ (name, changed) :: after) :=
      .of_one (RecordKind.Related.refl kind) (.of_part hpart ih) before after
    exact ⟨RecordKind.decode_members (RecordKind.ne_validator hpart) hmembers, by simp,
      fun schema hschema => RecordKind.conforms_obj hschema fun other _ => hmembers.get? other⟩
  | @element kind name part value changed front back hname hpart _ ih =>
    have hitems : ∀ (index : Nat) (other : String), kind.names[index]? = some other →
        Option.Rel (kind.Related other) (front ++ value :: back)[index]? (front ++ changed :: back)[index]? := by
      intro index other hother
      refine rel_getElem? (RecordKind.Related.refl kind other) (fun heq => ?_) back
      rw [heq, hname, Option.some.injEq] at hother
      exact .of_part (hother ▸ hpart) ih
    -- to the schema an array is no record, whatever its items are
    exact ⟨RecordKind.decode_items (RecordKind.ne_validator hpart) (by simp) hitems, by simp,
      fun schema hschema => iff_of_false (RecordKind.not_conforms_arr hschema _)
        (RecordKind.not_conforms_arr hschema _)⟩
  | @item kind value changed front back _ ih =>
    refine ⟨Decoder.list_of_one ih.decode front back, by simp, fun schema hschema => ?_⟩
    obtain ⟨item, hitem, rfl⟩ := List.mem_map.1 hschema
    simp [Conforms, or_imp, forall_and, ih.conforms item hitem]

end UndeclaredChange

/-- A member that neither the model nor the schema declares for its object changes neither what the document is
decoded to, or the reason why it is not, nor whether the schema has something against it. -/
theorem undeclared_members_harmless {document changed : Json} (h : UndeclaredChange (.one .config) document changed) :
    Config.decode changed = Config.decode document ∧
      (violations Schema.document changed = [] ↔ violations Schema.document document = []) := by
  rw [violations_eq_nil, violations_eq_nil]
  exact ⟨h.alike.decode, h.alike.conforms _ List.mem_cons_self⟩

/-- A document of one field to choose from, with one choice in a group. -/
def groupedDocument (choice : Members) : Json :=
  .obj [
    ("meta", .obj [("displayName", .str "Add-on"), ("name", .str "addon"), ("restRoot", .str "addon"),
      ("version", .str "1.0")]),
    ("pages", .obj [("configuration", .arr [.obj [
      ("entity", .arr [.obj [
        ("field", .str "size"), ("label", .str "Size"),
        ("options", .obj [("autoCompleteFields", .arr [.obj [
          ("children", .arr [.obj choice]), ("label", .str "Sizes"), ("value", .str "sizes")]])]),
        ("type", .str "singleSelect")]]),
      ("name", .str "account"), ("title", .str "Account")]])])]

/-- A choice with its label and value alone. -/
def smallChoice : Members := [("label", .str "Small"), ("value", .num (.int 1))]

theorem UndeclaredChange.grouped {choice changed : Members}
    (h : UndeclaredChange (.one .choice) (.obj choice) (.obj changed)) :
    UndeclaredChange (.one .config) (groupedDocument choice) (groupedDocument changed) := by
  have hgroup := (h.item _ [] []).member .choice "children" [] [("label", .str "Sizes"), ("value", .str "sizes")] rfl
  have hoptions := (hgroup.item _ [] []).member .options "autoCompleteFields" [] [] rfl
  have hentity := hoptions.member .entity "options" [("field", .str "size"), ("label", .str "Size")]
    [("type", .str "singleSelect")] rfl
  have htab := (hentity.item _ [] []).member .tab "entity" []
    [("name", .str "account"), ("title", .str "Account")] rfl
  have hpages := (htab.item _ [] []).member .pages "configuration" [] [] rfl
  exact hpages.member .config "pages" [_] [] rfl

theorem notedChoice_harmless :
    UndeclaredChange (.one .config) (groupedDocument smallChoice)
        (groupedDocument (Members.insert "note" (.arr [.null]) smallChoice)) ∧
      Config.decode (groupedDocument (Members.insert "note" (.arr [.null]) smallChoice))
        = Config.decode (groupedDocument smallChoice) ∧
      violations Schema.document (groupedDocument (Members.insert "note" (.arr [.null]) smallChoice)) = [] := by
  have hnoted := (UndeclaredChange.insert .choice "note" (by decide) (by decide) (.arr [.null]) smallChoice).grouped
  have hplain : violations Schema.document (groupedDocument smallChoice) = [] := rfl
  obtain ⟨hdecode, hviolations⟩ := undeclared_members_harmless hnoted
  exact ⟨hnoted, hdecode, hviolations.2 hplain⟩

end AddonConfig
