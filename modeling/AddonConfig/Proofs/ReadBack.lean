import AddonConfig.Model.Decode
import AddonConfig.Proofs.Records
import Mathlib

/-!
# What is written is read back

`ReadsBack decode encode`: whatever value something was decoded from, what it is written as decodes to it
again. The members of what is written are sorted, as they are in every object.
-/

namespace AddonConfig

/-- What was decoded from a sorted value is decoded again from what it is written as. -/
def ReadsBack {α : Type} (decode : Decoder α) (encode : α → Json) : Prop :=
  ∀ value a, value.Sorted → decode value = .ok a → decode (encode a).sorted = .ok a

/-- `null` is not read. -/
def RefusesNull {α : Type} (decode : Decoder α) : Prop := ∀ a, decode .null ≠ .ok a

section
variable {α : Type} {decode item : Decoder α} {encode : α → Json}

theorem RefusesNull.ne_null {value : Json} {a : α} (h : RefusesNull decode) (hread : decode value = .ok a) :
    value ≠ .null := by
  rintro rfl
  exact h a hread

theorem ReadsBack.list (h : ReadsBack item encode) : ReadsBack item.list (encodeList encode) := by
  intro value results hvalue hread
  obtain ⟨items, rfl, hitems⟩ := Decoder.list_eq_ok hread
  refine Decoder.list_of_forall fun a ha => ?_
  obtain ⟨w, hw, hwa⟩ := exists_of_forall₂ hitems ha
  exact h w a (Json.sorted_arr_iff.1 hvalue w hw) hwa

/-- A record reads back if the members that are written for it give it. -/
theorem Record.readsBack {record : Record α} [record.Declared] {title : String} {members : α → Members}
    (hnodup : record.names.Nodup)
    (h : ∀ x, record.Yields Json.Sorted x → record.Writes (members x) x) :
    ReadsBack (record.decoder title) fun x => .obj (members x) := by
  intro value x hvalue hread
  refine (h x (yields_of_decoder hread ?_ ?_)).decoder title hnodup
  · rintro entries rfl
    exact (Json.sorted_obj_iff.1 hvalue).2
  · rintro items rfl
    exact Json.sorted_arr_iff.1 hvalue

theorem Record.decoder_refusesNull (record : Record α) (title : String) :
    RefusesNull (record.decoder title) :=
  fun _ h => by cases h

end

namespace Record.Writes
variable {α β : Type} {name : String} {decode item : Decoder α} {encode : α → Json} {entries : Members}

theorem requiredBack {record : Record (α → β)} {f : α → β} (h : record.Writes entries f)
    (hback : ReadsBack decode encode) {a : α} (ha : ∃ value, value.Sorted ∧ decode value = .ok a) :
    (record.required name decode).Writes (entries ++ member name (encode a)) (f a) := by
  obtain ⟨value, hvalue, hread⟩ := ha
  exact h.required (hback value a hvalue hread)

theorem optionalBack {record : Record (Option α → β)} {f : Option α → β} (h : record.Writes entries f)
    (hback : ReadsBack decode encode) (hnull : RefusesNull decode) {o : Option α}
    (ho : ∀ a, o = some a → ∃ value, value.Sorted ∧ value ≠ .null ∧ decode value = .ok a) :
    (record.optional name decode).Writes (entries ++ memberIf name encode o) (f o) := by
  refine h.optional fun a ha => ?_
  obtain ⟨value, hvalue, -, hread⟩ := ho a ha
  have hagain := hback value a hvalue hread
  exact ⟨hagain, hnull.ne_null hagain⟩

theorem defaultedBack {record : Record (List α → β)} {f : List α → β} (h : record.Writes entries f)
    (hback : ReadsBack item encode) {xs : List α} (hxs : ∀ a ∈ xs, ∃ value, value.Sorted ∧ item value = .ok a) :
    (record.defaulted name item).Writes (entries ++ memberList name encode xs) (f xs) := by
  refine h.defaulted fun a ha => ?_
  obtain ⟨value, hvalue, hread⟩ := hxs a ha
  exact hback value a hvalue hread

end Record.Writes

/-! ### Scalars -/

theorem Decoder.string_readsBack : ReadsBack Decoder.string .str := fun _ _ _ _ => rfl

theorem Decoder.string_refusesNull : RefusesNull Decoder.string := fun _ h => by cases h

theorem Decoder.strings_readsBack : ReadsBack Decoder.string.list encodeStrings :=
  Decoder.string_readsBack.list

theorem Decoder.list_refusesNull {α : Type} (item : Decoder α) : RefusesNull item.list :=
  fun _ h => by cases h

theorem Decoder.bool_readsBack : ReadsBack Decoder.bool .bool := fun _ _ _ _ => rfl

theorem Decoder.bool_refusesNull : RefusesNull Decoder.bool := fun _ h => by cases h

/-- What is read as a signed integer is below the bound that reading it again tests. -/
theorem Decoder.signed_readsBack : ReadsBack Decoder.signed encodeInt := by
  intro value a _ hread
  cases value with
  | num n =>
    cases n with
    | int i =>
      by_cases hi : i < Nat.pow 2 63
      · simp only [Decoder.signed, hi, if_true] at hread
        cases hread
        simp only [encodeInt, Json.sorted, Decoder.signed, hi, if_true]
      · simp only [Decoder.signed, hi, if_false] at hread
        cases hread
    | float x => cases hread
  | _ => cases hread

theorem Decoder.signed_refusesNull : RefusesNull Decoder.signed := fun _ h => by cases h

theorem Decoder.unsigned_readsBack : ReadsBack Decoder.unsigned fun size => encodeInt size := by
  intro value a _ _
  simp [encodeInt, Json.sorted, Decoder.unsigned]

theorem Decoder.unsigned_refusesNull : RefusesNull Decoder.unsigned := fun _ h => by cases h

theorem Decoder.double_readsBack : ReadsBack Decoder.double fun bound => .num (.float bound) :=
  fun _ _ _ _ => rfl

theorem EntityType.ofName?_name (type : EntityType) : ofName? type.name = some type := by
  cases type <;> rfl

theorem EntityType.readsBack : ReadsBack EntityType.decode EntityType.encode := by
  intro _ type _ _
  simp only [EntityType.encode, Json.sorted, EntityType.decode, EntityType.ofNameChecked, ofName?_name]

theorem ChoiceValue.decode_encode (value : ChoiceValue) : decode value.encode.sorted = .ok value := by
  cases value <;> rfl

theorem ChoiceValue.readsBack : ReadsBack ChoiceValue.decode ChoiceValue.encode :=
  fun _ value _ _ => value.decode_encode

/-! ### Records of scalars -/

instance : Column.record.Declared := by unfold Column.record; infer_instance

theorem Column.readsBack : ReadsBack Column.decode Column.encode := by
  refine Record.readsBack (by simp [Column.record]) fun x hx => ?_
  obtain ⟨f₂, label, h₂, hlabel, rfl⟩ := hx.required
  obtain ⟨f₁, field, h₁, hfield, rfl⟩ := h₂.required
  obtain rfl := h₁.done
  exact ((Record.Writes.done Column.mk).requiredBack Decoder.string_readsBack hfield).requiredBack
    Decoder.string_readsBack hlabel

instance : Table.record.Declared := by unfold Table.record; infer_instance

theorem Table.readsBack : ReadsBack Table.decode Table.encode := by
  have hitems : ∀ items, (Json.arr items).Sorted → ∀ value ∈ items, value.Sorted :=
    fun _ h => Json.sorted_arr_iff.1 h
  refine Record.readsBack (by simp [Table.record]) fun x hx => ?_
  obtain ⟨f₂, actions, h₂, hactions, rfl⟩ := hx.defaulted hitems
  obtain ⟨f₁, header, h₁, hheader, rfl⟩ := h₂.defaulted hitems
  obtain rfl := h₁.done
  exact ((Record.Writes.done Table.mk).defaultedBack Column.readsBack hheader).defaultedBack
    Decoder.string_readsBack hactions

instance : MenuGroup.record.Declared := by unfold MenuGroup.record; infer_instance

theorem MenuGroup.readsBack : ReadsBack MenuGroup.decode MenuGroup.encode := by
  refine Record.readsBack (by simp [MenuGroup.record]) fun x hx => ?_
  obtain ⟨f₃, serviceNames, h₃, hservices, rfl⟩ := hx.optional
  obtain ⟨f₂, groupTitle, h₂, htitle, rfl⟩ := h₃.required
  obtain ⟨f₁, groupName, h₁, hname, rfl⟩ := h₂.required
  obtain rfl := h₁.done
  exact (((Record.Writes.done MenuGroup.mk).requiredBack Decoder.string_readsBack hname).requiredBack
    Decoder.string_readsBack htitle).optionalBack Decoder.strings_readsBack
      (Decoder.list_refusesNull _) hservices

instance : Meta.record.Declared := by unfold Meta.record; infer_instance

theorem Meta.readsBack : ReadsBack Meta.decode Meta.encode := by
  refine Record.readsBack (by simp [Meta.record]) fun x hx => ?_
  obtain ⟨f₅, schemaVersion, h₅, hschema, rfl⟩ := hx.optional
  obtain ⟨f₄, displayName, h₄, hdisplay, rfl⟩ := h₅.required
  obtain ⟨f₃, version, h₃, hversion, rfl⟩ := h₄.required
  obtain ⟨f₂, restRoot, h₂, hroot, rfl⟩ := h₃.required
  obtain ⟨f₁, name, h₁, hname, rfl⟩ := h₂.required
  obtain rfl := h₁.done
  refine Record.Writes.optionalBack ?_ Decoder.string_readsBack Decoder.string_refusesNull hschema
  refine Record.Writes.requiredBack ?_ Decoder.string_readsBack hdisplay
  refine Record.Writes.requiredBack ?_ Decoder.string_readsBack hversion
  refine Record.Writes.requiredBack ?_ Decoder.string_readsBack hroot
  exact (Record.Writes.done Meta.mk).requiredBack Decoder.string_readsBack hname

/-! ### Validators -/

namespace Validator

instance : stringRecord.Declared := by unfold stringRecord; infer_instance

instance : numberRecord.Declared := by unfold numberRecord; infer_instance

instance : regexRecord.Declared := by unfold regexRecord; infer_instance

/-- The members of a validator besides its tag. -/
def parameterMembers : Validator → Members
  | .string minLength maxLength errorMsg =>
      memberIf "minLength" encodeInt minLength ++ memberIf "maxLength" encodeInt maxLength
        ++ memberIf "errorMsg" .str errorMsg
  | .number range errorMsg =>
      member "range" (encodeList (fun bound => .num (.float bound)) range) ++ memberIf "errorMsg" .str errorMsg
  | .regex pattern errorMsg => member "pattern" (.str pattern) ++ memberIf "errorMsg" .str errorMsg
  | _ => []

theorem encode_eq (validator : Validator) :
    validator.encode = .obj (member tagName (.str validator.kind) ++ validator.parameterMembers) := by
  cases validator <;> rfl

theorem stringRecord_writes {x : Validator} (h : stringRecord.Yields Json.Sorted x) :
    x.kind = "string" ∧ stringRecord.Writes x.parameterMembers x := by
  obtain ⟨f₃, errorMsg, h₃, hmsg, rfl⟩ := h.optional
  obtain ⟨f₂, maxLength, h₂, hmax, rfl⟩ := h₃.optional
  obtain ⟨f₁, minLength, h₁, hmin, rfl⟩ := h₂.optional
  obtain rfl := h₁.done
  refine ⟨rfl, ?_⟩
  exact (((Record.Writes.done Validator.string).optionalBack Decoder.signed_readsBack
    Decoder.signed_refusesNull hmin).optionalBack Decoder.signed_readsBack Decoder.signed_refusesNull
      hmax).optionalBack Decoder.string_readsBack Decoder.string_refusesNull hmsg

theorem numberRecord_writes {x : Validator} (h : numberRecord.Yields Json.Sorted x) :
    x.kind = "number" ∧ numberRecord.Writes x.parameterMembers x := by
  obtain ⟨f₂, errorMsg, h₂, hmsg, rfl⟩ := h.optional
  obtain ⟨f₁, range, h₁, hrange, rfl⟩ := h₂.required
  obtain rfl := h₁.done
  refine ⟨rfl, ?_⟩
  exact ((Record.Writes.done Validator.number).requiredBack Decoder.double_readsBack.list
    hrange).optionalBack Decoder.string_readsBack Decoder.string_refusesNull hmsg

theorem regexRecord_writes {x : Validator} (h : regexRecord.Yields Json.Sorted x) :
    x.kind = "regex" ∧ regexRecord.Writes x.parameterMembers x := by
  obtain ⟨f₂, errorMsg, h₂, hmsg, rfl⟩ := h.optional
  obtain ⟨f₁, pattern, h₁, hpattern, rfl⟩ := h₂.required
  obtain rfl := h₁.done
  refine ⟨rfl, ?_⟩
  exact ((Record.Writes.done Validator.regex).requiredBack Decoder.string_readsBack
    hpattern).optionalBack Decoder.string_readsBack Decoder.string_refusesNull hmsg

/-- A decoded validator has the parameters of a record, or none. -/
def Parametrised (x : Validator) : Prop :=
  stringRecord.Yields Json.Sorted x ∨ numberRecord.Yields Json.Sorted x ∨ regexRecord.Yields Json.Sorted x ∨
    x ∈ [email, ipv4, date, url, other]

/-- What the items of a record give, with none left over. -/
theorem yields_of_items {P : Json → Prop} {record : Record Validator} {expected : Expected} {count : Nat}
    {items : List Json} {x : Validator} (hitems : ∀ item ∈ items, P item)
    (h : (do
      let (value, rest) ← record.ofItems expected items
      if rest.isEmpty then return value
      else throw (.invalidLength items.length (.itemsInSequence count)) : Except DecodeError Validator) = .ok x) :
    record.Yields P x := by
  obtain ⟨⟨y, rest⟩, hread, h⟩ := bind_ok_inv h
  refine .inr ⟨expected, items, rest, hitems, ?_⟩
  by_cases hrest : rest.isEmpty
  · simp only [hrest, if_true] at h
    cases h
    exact hread
  · simp only [hrest] at h
    cases h

/-- What a tag asks for is in the values given with it: the parameters of its record, or nothing. -/
def Tag.Gives (P : Json → Prop) (tag : Tag) (x : Validator) : Prop :=
  match tag.parameters with
  | .inl (_, record) => record.Yields P x
  | .inr validator => x = validator

theorem ofMembers_gives {P : Json → Prop} {tag : Tag} {members : Members} {x : Validator}
    (hmembers : ∀ entry ∈ members, P entry.2) (h : ofMembers tag members = .ok x) : tag.Gives P x := by
  have hget : ∀ name value, Members.get? members name = some value → P value :=
    fun name value hget => hmembers _ (Members.mem_of_get? hget)
  cases tag with
  | string | number | regex => exact .inl ⟨_, hget, Record.readMembers_eq_ok.1 h⟩
  | _ => cases h; rfl

theorem ofItems_gives {P : Json → Prop} {tag : Tag} {items : List Json} {x : Validator}
    (hitems : ∀ item ∈ items, P item) (h : ofItems tag items = .ok x) : tag.Gives P x := by
  have hnone : ∀ {y : Validator}, (if items.isEmpty then .ok y else .error
      (.invalidLength items.length (.itemsInSequence 0)) : Except DecodeError Validator) = .ok x → x = y := by
    intro y h
    split_ifs at h
    cases h
    rfl
  cases tag with
  | string | number | regex => exact yields_of_items hitems h
  | _ => exact hnone h

theorem decode_obj {members : Members} {value : Json} (h : Members.get? members tagName = some value) :
    Validator.decode (.obj members)
      = (Tag.decode value >>= fun tag => ofMembers tag (Members.erase tagName members)) := by
  simp only [Validator.decode, h]

/-- A decoded validator is what its tag and the values next to it give. -/
theorem decode_gives {P : Json → Prop} {value : Json} {x : Validator} (h : Validator.decode value = .ok x)
    (hobj : ∀ members, value = .obj members → ∀ entry ∈ members, P entry.2)
    (harr : ∀ items, value = .arr items → ∀ item ∈ items, P item) : ∃ tag : Tag, tag.Gives P x := by
  cases value with
  | obj members =>
    cases htag : Members.get? members tagName with
    | none => simp only [Validator.decode, htag] at h; cases h
    | some value =>
      rw [decode_obj htag] at h
      obtain ⟨tag, -, h⟩ := bind_ok_inv h
      exact ⟨tag, ofMembers_gives (fun entry hentry => hobj members rfl entry (List.mem_of_mem_filter hentry)) h⟩
  | arr items =>
    cases items with
    | nil => cases h
    | cons value items =>
      obtain ⟨tag, -, h⟩ := bind_ok_inv h
      exact ⟨tag, ofItems_gives (fun item hitem => harr _ rfl item (List.mem_cons_of_mem _ hitem)) h⟩
  | null => cases h
  | bool b => cases h
  | num n => cases h
  | str s => cases h

theorem decode_parametrised {value : Json} {x : Validator} (hvalue : value.Sorted)
    (h : Validator.decode value = .ok x) : Parametrised x := by
  obtain ⟨tag, hgives⟩ := decode_gives (P := Json.Sorted) h (fun _ hobj => (Json.sorted_obj_iff.1 (hobj ▸ hvalue)).2)
    fun _ harr => Json.sorted_arr_iff.1 (harr ▸ hvalue)
  cases tag with
  | string => exact .inl hgives
  | number => exact .inr (.inl hgives)
  | regex => exact .inr (.inr (.inl hgives))
  | _ => exact .inr (.inr (.inr (by cases hgives; simp)))

/-- A validator whose parameters give it back is read back by its tag. -/
theorem decode_encode {x : Validator}
    (hnames : ((member tagName (.str x.kind) ++ x.parameterMembers).map (·.1)).Nodup)
    (h : ∀ members, (∀ name ≠ tagName,
        Members.get? members name = (Members.get? x.parameterMembers name).map Json.sorted) →
      ofMembers (.ofName x.kind) members = .ok x) :
    Validator.decode x.encode.sorted = .ok x := by
  have hget := Json.get?_sorted hnames
  have htag := hget tagName
  rw [Members.get?_member_append, if_pos rfl] at htag
  rw [encode_eq, Json.sorted, Json.ofMembers, decode_obj htag]
  refine h _ fun name hname => ?_
  rw [Members.get?_erase, if_neg hname]
  have hother := hget name
  rwa [Members.get?_member_append, if_neg hname] at hother

theorem decode_encode_of_writes {x : Validator} {title : String} {record : Record Validator}
    (htag : (Tag.ofName x.kind).parameters = .inl (title, record)) (hnodup : (tagName :: record.names).Nodup)
    (h : record.Writes x.parameterMembers x) : Validator.decode x.encode.sorted = .ok x := by
  refine decode_encode (hnodup.sublist (h.names.cons_cons _)) fun members hget => ?_
  unfold ofMembers
  rw [htag]
  refine Record.readMembers_of_reads (h.reads (List.nodup_cons.1 hnodup).2 _ fun name hname => hget name ?_)
  rintro rfl
  exact (List.nodup_cons.1 hnodup).1 hname

theorem readsBack : ReadsBack Validator.decode Validator.encode := by
  intro value x hvalue hread
  rcases decode_parametrised hvalue hread with h | h | h | h
  · obtain ⟨hkind, hwrites⟩ := stringRecord_writes h
    exact decode_encode_of_writes (by rw [hkind]; rfl) (by simp [tagName, stringRecord]) hwrites
  · obtain ⟨hkind, hwrites⟩ := numberRecord_writes h
    exact decode_encode_of_writes (by rw [hkind]; rfl) (by simp [tagName, numberRecord]) hwrites
  · obtain ⟨hkind, hwrites⟩ := regexRecord_writes h
    exact decode_encode_of_writes (by rw [hkind]; rfl) (by simp [tagName, regexRecord]) hwrites
  · simp only [List.mem_cons, List.not_mem_nil, or_false] at h
    rcases h with rfl | rfl | rfl | rfl | rfl <;> rfl

end Validator

/-! ### Choices -/

namespace Json

theorem depth_le_depthItems {item : Json} {items : List Json} (h : item ∈ items) :
    item.depth ≤ depthItems items := by
  induction items with
  | nil => cases h
  | cons first rest ih =>
    rw [depthItems]
    rcases List.mem_cons.1 h with rfl | h
    · exact le_max_left _ _
    · exact (ih h).trans (le_max_right _ _)

theorem depth_le_depthMembers {name : String} {value : Json} {members : Members}
    (h : (name, value) ∈ members) : value.depth ≤ depthMembers members := by
  induction members with
  | nil => cases h
  | cons first rest ih =>
    obtain ⟨other, v⟩ := first
    rw [depthMembers]
    rcases List.mem_cons.1 h with h | h
    · cases h; exact le_max_left _ _
    · exact (ih h).trans (le_max_right _ _)

/-- A member of an object is less deep than the object, also after sorting. -/
theorem depth_lt_of_get? {members : Members} (hnodup : (members.map (·.1)).Nodup) {name : String} {value : Json}
    (h : Members.get? members name = some value) : value.sorted.depth < (Json.obj members).sorted.depth := by
  have hget := get?_sorted hnodup name
  rw [h] at hget
  have hle := depth_le_depthMembers (Members.mem_of_get? hget)
  rw [sorted, ofMembers, depth]
  exact Nat.lt_succ_of_le hle

theorem depth_lt_of_mem {item : Json} {items : List Json} (h : item ∈ items) :
    item.depth < (Json.arr items).depth :=
  Nat.lt_succ_of_le (depth_le_depthItems h)

end Json

namespace Choice

theorem encodeAll_eq_map (choices : List Choice) : encodeAll choices = choices.map encode := by
  induction choices with
  | nil => rfl
  | cons choice rest ih => rw [encodeAll, ih, List.map_cons]

/-- The members of a choice. -/
def members (choice : Choice) : Members :=
  member "value" choice.value.encode ++ member "label" (.str choice.label)
    ++ memberIf "children" (encodeList encode) choice.children

theorem encode_eq (choice : Choice) : choice.encode = .obj choice.members := by
  obtain ⟨value, label, children⟩ := choice
  cases children with
  | none => rw [encode]; rfl
  | some children => rw [encode]; simp only [encodeAll_eq_map]; rfl

theorem members_nodup (choice : Choice) : (choice.members.map (·.1)).Nodup := by
  obtain ⟨value, label, children⟩ := choice
  cases children <;> simp [members, member, memberIf]

theorem record_names (child : Decoder Choice) : (record child).names = ["value", "label", "children"] := rfl

theorem child_depth_lt {choice child : Choice} {children : List Choice} (h : choice.children = some children)
    (hmem : child ∈ children) : child.encode.sorted.depth + 1 < choice.encode.sorted.depth := by
  have hget : Members.get? choice.members "children" = some (encodeList encode children) := by
    rw [members, h]
    rfl
  have houter := Json.depth_lt_of_get? choice.members_nodup hget
  rw [← encode_eq] at houter
  rw [encodeList, Json.sorted_arr] at houter
  have hinner : child.encode.sorted.depth < (Json.arr ((children.map encode).map Json.sorted)).depth :=
    Json.depth_lt_of_mem (List.mem_map_of_mem (List.mem_map_of_mem hmem))
  omega

/-- A choice is read at any number of levels that its value does not exceed. -/
theorem decodeNested_encode (levels : Nat) (choice : Choice) (h : choice.encode.sorted.depth ≤ levels) :
    decodeNested levels choice.encode.sorted = .ok choice := by
  induction levels generalizing choice with
  | zero =>
    rw [encode_eq, Json.sorted, Json.ofMembers, Json.depth] at h
    omega
  | succ levels ih =>
    rw [decodeNested, encode_eq]
    refine Record.Writes.decoder ?_ _ (by simp [record_names])
    obtain ⟨value, label, children⟩ := choice
    refine Record.Writes.optional ?_ fun children hchildren => ?_
    · exact ((Record.Writes.done Choice.mk).required value.decode_encode).required rfl
    · have hread : (decodeNested levels).list (encodeList encode children).sorted = .ok children :=
        Decoder.list_of_forall fun child hchild => ih child (by
          have := child_depth_lt hchildren hchild
          omega)
      exact ⟨hread, (Decoder.list_refusesNull _).ne_null hread⟩

theorem readsBack : ReadsBack Choice.decode Choice.encode :=
  fun _ choice _ _ => decodeNested_encode _ choice le_rfl

end Choice

/-! ### Fields -/

instance : OAuthField.record.Declared := by unfold OAuthField.record; infer_instance

theorem items_sorted (items : List Json) (h : (Json.arr items).Sorted) : ∀ value ∈ items, value.Sorted :=
  Json.sorted_arr_iff.1 h

theorem OAuthField.readsBack : ReadsBack OAuthField.decode OAuthField.encode := by
  refine Record.readsBack (by simp [OAuthField.record]) fun x hx => ?_
  obtain ⟨f₅, validators, h₅, hvalidators, rfl⟩ := hx.defaulted items_sorted
  obtain ⟨f₄, isRequired, h₄, hrequired, rfl⟩ := h₅.optional
  obtain ⟨f₃, field, h₃, hfield, rfl⟩ := h₄.required
  obtain ⟨f₂, label, h₂, hlabel, rfl⟩ := h₃.required
  obtain ⟨f₁, oauthField, h₁, hoauth, rfl⟩ := h₂.required
  obtain rfl := h₁.done
  refine Record.Writes.defaultedBack ?_ Validator.readsBack hvalidators
  refine Record.Writes.optionalBack ?_ Decoder.bool_readsBack Decoder.bool_refusesNull hrequired
  refine Record.Writes.requiredBack ?_ Decoder.string_readsBack hfield
  refine Record.Writes.requiredBack ?_ Decoder.string_readsBack hlabel
  exact (Record.Writes.done OAuthField.mk).requiredBack Decoder.string_readsBack hoauth

namespace EntityOptions

instance : known.Declared := by unfold known; infer_instance

/-- The members of the options that are known by name. -/
def knownMembers (options : EntityOptions) : Members :=
  memberIf "autoCompleteFields" (encodeList Choice.encode) options.autoCompleteFields
    ++ memberIf "supportedFileTypes" encodeStrings options.supportedFileTypes
    ++ memberIf "maxFileSize" (fun (size : Nat) => encodeInt size) options.maxFileSize
    ++ memberIf "fileSupportMessage" .str options.fileSupportMessage
    ++ memberIf "oauth" (encodeList OAuthField.encode) options.oauth
    ++ memberIf "basic" (encodeList OAuthField.encode) options.basic
    ++ memberIf "auth_type" encodeStrings options.authType

theorem encode_eq (options : EntityOptions) : options.encode = .obj (options.knownMembers ++ options.extra) := by
  obtain ⟨choices, types, size, message, oauth, basic, authType, extra⟩ := options
  cases size <;> rfl

theorem knownMembers_names (options : EntityOptions) : (options.knownMembers.map (·.1)).Sublist known.names := by
  unfold known knownMembers
  simp only [List.map_append, Record.names_optional]
  refine .append (.append (.append (.append (.append (.append ?_ ?_) ?_) ?_) ?_) ?_) ?_
  all_goals exact memberIf_names _ _ _

theorem known_writes {build : Members → EntityOptions} (h : known.Yields Json.Sorted build) (extra : Members) :
    known.Writes (knownMembers (build extra)) build := by
  obtain ⟨f₇, authType, h₇, hauth, rfl⟩ := h.optional
  obtain ⟨f₆, basic, h₆, hbasic, rfl⟩ := h₇.optional
  obtain ⟨f₅, oauth, h₅, hoauth, rfl⟩ := h₆.optional
  obtain ⟨f₄, message, h₄, hmessage, rfl⟩ := h₅.optional
  obtain ⟨f₃, size, h₃, hsize, rfl⟩ := h₄.optional
  obtain ⟨f₂, types, h₂, htypes, rfl⟩ := h₃.optional
  obtain ⟨f₁, choices, h₁, hchoices, rfl⟩ := h₂.optional
  obtain rfl := h₁.done
  refine Record.Writes.optionalBack ?_ Decoder.strings_readsBack (Decoder.list_refusesNull _) hauth
  refine Record.Writes.optionalBack ?_ OAuthField.readsBack.list (Decoder.list_refusesNull _) hbasic
  refine Record.Writes.optionalBack ?_ OAuthField.readsBack.list (Decoder.list_refusesNull _) hoauth
  refine Record.Writes.optionalBack ?_ Decoder.string_readsBack Decoder.string_refusesNull hmessage
  refine Record.Writes.optionalBack ?_ Decoder.unsigned_readsBack Decoder.unsigned_refusesNull hsize
  refine Record.Writes.optionalBack ?_ Decoder.strings_readsBack (Decoder.list_refusesNull _) htypes
  exact (Record.Writes.done EntityOptions.mk).optionalBack Choice.readsBack.list (Decoder.list_refusesNull _)
    hchoices

theorem get?_extraOf (members : Members) (name : String) :
    Members.get? (extraOf members) name = if name ∈ known.names then none else Members.get? members name := by
  unfold extraOf
  rw [Members.get?_filter fun name => !known.names.contains name]
  by_cases h : name ∈ known.names <;> simp [h]

/-- What options are decoded from: the members of known name give a record, and the others are kept. -/
theorem decode_inv {value : Json} {x : EntityOptions} (h : EntityOptions.decode value = .ok x) :
    ∃ members build, value = .obj members ∧ known.Reads (Members.get? members) build ∧
      build (extraOf members) = x := by
  cases value with
  | obj members =>
    obtain ⟨build, hread, h⟩ := bind_ok_inv h
    cases h
    exact ⟨members, build, rfl, Record.readMembers_eq_ok.1 hread, rfl⟩
  | null => cases h
  | bool b => cases h
  | num n => cases h
  | str s => cases h
  | arr items => cases h

/-- Members that are kept as they are: sorted, and of no known name. -/
structure Kept (extra : Members) : Prop where
  unknown : ∀ name ∈ known.names, Members.get? extra name = none
  sorted : (Json.obj extra).Sorted

theorem kept_extraOf {members : Members} (h : (Json.obj members).Sorted) : Kept (extraOf members) := by
  constructor
  · intro name hname
    rw [get?_extraOf, if_pos hname]
  · rw [Json.sorted_obj_iff] at h ⊢
    exact ⟨h.1.filter _, fun entry hentry => h.2 entry (List.mem_of_mem_filter hentry)⟩

theorem build_extra {P : Json → Prop} {build : Members → EntityOptions} (h : known.Yields P build)
    (extra : Members) : (build extra).extra = extra := by
  obtain ⟨f₇, authType, h₇, -, rfl⟩ := h.optional
  obtain ⟨f₆, basic, h₆, -, rfl⟩ := h₇.optional
  obtain ⟨f₅, oauth, h₅, -, rfl⟩ := h₆.optional
  obtain ⟨f₄, message, h₄, -, rfl⟩ := h₅.optional
  obtain ⟨f₃, size, h₃, -, rfl⟩ := h₄.optional
  obtain ⟨f₂, types, h₂, -, rfl⟩ := h₃.optional
  obtain ⟨f₁, choices, h₁, -, rfl⟩ := h₂.optional
  obtain rfl := h₁.done
  rfl

/-- Decoded options keep the members of other names. -/
theorem extra_of_decode {value : Json} {x : EntityOptions} (h : EntityOptions.decode value = .ok x) :
    ∃ members, value = .obj members ∧ x.extra = extraOf members := by
  obtain ⟨members, build, rfl, hbuild, rfl⟩ := decode_inv h
  have hyields : known.Yields (fun _ => True) build := .inl ⟨_, fun _ _ _ => trivial, hbuild⟩
  exact ⟨members, rfl, build_extra hyields _⟩

theorem known_nodup : known.names.Nodup := by simp [known]

theorem Kept.nodup {extra : Members} (h : Kept extra) {entries : Members}
    (hentries : (entries.map (·.1)).Sublist known.names) : ((entries ++ extra).map (·.1)).Nodup := by
  rw [List.map_append]
  refine List.Nodup.append (known_nodup.sublist hentries) (Json.sorted_obj_iff.1 h.sorted).1.nodup ?_
  intro name hname hextra
  exact Members.get?_eq_none_iff.1 (h.unknown name (hentries.subset hname)) hextra

/-- Beside known members the kept ones are found again when all are sorted. -/
theorem Kept.extraOf_sorted {extra : Members} (h : Kept extra) {entries : Members}
    (hentries : (entries.map (·.1)).Sublist known.names) :
    extraOf (Members.ofList (Json.sortedMembers (entries ++ extra))) = extra := by
  refine Members.Ordered.ext ((Members.Ordered.ofList _).filter _) (Json.sorted_obj_iff.1 h.sorted).1 fun name => ?_
  rw [get?_extraOf]
  by_cases hname : name ∈ known.names
  · rw [if_pos hname, h.unknown name hname]
  · have hnone : Members.get? entries name = none :=
      Members.get?_eq_none_iff.2 fun hmem => hname (hentries.subset hmem)
    rw [if_neg hname, Json.get?_sorted (h.nodup hentries), Members.get?_append, hnone, Option.none_or]
    cases hvalue : Members.get? extra name with
    | none => rfl
    | some v =>
      have hsorted := (Json.sorted_obj_iff.1 h.sorted).2 _ (Members.mem_of_get? hvalue)
      exact congrArg some hsorted.sorted_eq

theorem readsBack : ReadsBack EntityOptions.decode EntityOptions.encode := by
  intro value x hvalue hread
  obtain ⟨members, build, rfl, hbuild, rfl⟩ := decode_inv hread
  have hyields : known.Yields Json.Sorted build :=
    .inl ⟨_, fun name value hget => (Json.sorted_obj_iff.1 hvalue).2 _ (Members.mem_of_get? hget), hbuild⟩
  have hkept := kept_extraOf hvalue
  have hwrites := known_writes hyields (extraOf members)
  have hextra := build_extra hyields (extraOf members)
  generalize extraOf members = extra at hkept hwrites hextra ⊢
  generalize hentries : knownMembers (build extra) = entries at hwrites
  -- the known members are found among the sorted ones, and all others are the kept ones
  have hknown : known.Reads (Members.get? (Members.ofList (Json.sortedMembers (entries ++ extra)))) build := by
    refine hwrites.reads known_nodup _ fun name hname => ?_
    rw [Json.get?_sorted (hkept.nodup hwrites.names), Members.get?_append, hkept.unknown name hname, Option.or_none]
  rw [encode_eq, hextra, hentries, Json.sorted, Json.ofMembers]
  show (known.readMembers _ >>= fun build => .ok (build (extraOf _))) = _
  rw [Record.readMembers_of_reads hknown, hkept.extraOf_sorted hwrites.names]
  rfl

end EntityOptions

instance : Entity.record.Declared := by unfold Entity.record; infer_instance

theorem EntityOptions.refusesNull : RefusesNull EntityOptions.decode := fun _ h => by cases h

theorem Entity.readsBack : ReadsBack Entity.decode Entity.encode := by
  refine Record.readsBack (by simp [Entity.record]) fun x hx => ?_
  obtain ⟨f₈, options, h₈, hoptions, rfl⟩ := hx.optional
  obtain ⟨f₇, validators, h₇, hvalidators, rfl⟩ := h₈.defaulted items_sorted
  obtain ⟨f₆, help, h₆, hhelp, rfl⟩ := h₇.optional
  obtain ⟨f₅, defaultValue, h₅, hdefault, rfl⟩ := h₆.optional
  obtain ⟨f₄, isRequired, h₄, hrequired, rfl⟩ := h₅.optional
  obtain ⟨f₃, type, h₃, htype, rfl⟩ := h₄.required
  obtain ⟨f₂, label, h₂, hlabel, rfl⟩ := h₃.required
  obtain ⟨f₁, field, h₁, hfield, rfl⟩ := h₂.required
  obtain rfl := h₁.done
  refine Record.Writes.optionalBack ?_ EntityOptions.readsBack EntityOptions.refusesNull hoptions
  refine Record.Writes.defaultedBack ?_ Validator.readsBack hvalidators
  refine Record.Writes.optionalBack ?_ Decoder.string_readsBack Decoder.string_refusesNull hhelp
  refine Record.Writes.optional ?_ fun a ha => ?_
  · refine Record.Writes.optionalBack ?_ Decoder.bool_readsBack Decoder.bool_refusesNull hrequired
    refine Record.Writes.requiredBack ?_ EntityType.readsBack htype
    refine Record.Writes.requiredBack ?_ Decoder.string_readsBack hlabel
    exact (Record.Writes.done Entity.mk).requiredBack Decoder.string_readsBack hfield
  · -- a default value is kept as it stands, and is not `null`
    obtain ⟨value, hvalue, hnull, hread⟩ := hdefault a ha
    cases hread
    rw [id, hvalue.sorted_eq]
    exact ⟨rfl, hnull⟩

/-! ### Pages -/

instance : Tab.record.Declared := by unfold Tab.record; infer_instance

theorem Tab.readsBack : ReadsBack Tab.decode Tab.encode := by
  refine Record.readsBack (by simp [Tab.record]) fun x hx => ?_
  obtain ⟨f₅, confName, h₅, hconf, rfl⟩ := hx.optional
  obtain ⟨f₄, table, h₄, htable, rfl⟩ := h₅.optional
  obtain ⟨f₃, entity, h₃, hentity, rfl⟩ := h₄.required
  obtain ⟨f₂, title, h₂, htitle, rfl⟩ := h₃.required
  obtain ⟨f₁, name, h₁, hname, rfl⟩ := h₂.required
  obtain rfl := h₁.done
  refine Record.Writes.optionalBack ?_ Decoder.string_readsBack Decoder.string_refusesNull hconf
  refine Record.Writes.optionalBack ?_ Table.readsBack (Record.decoder_refusesNull _ _) htable
  refine Record.Writes.requiredBack ?_ Entity.readsBack.list hentity
  refine Record.Writes.requiredBack ?_ Decoder.string_readsBack htitle
  exact (Record.Writes.done Tab.mk).requiredBack Decoder.string_readsBack hname

instance : Service.record.Declared := by unfold Service.record; infer_instance

theorem Service.readsBack : ReadsBack Service.decode Service.encode := by
  refine Record.readsBack (by simp [Service.record]) fun x hx => ?_
  obtain ⟨f₇, handlerClass, h₇, hclass, rfl⟩ := hx.optional
  obtain ⟨f₆, handlerModule, h₆, hmodule, rfl⟩ := h₇.optional
  obtain ⟨f₅, handlerName, h₅, hhandler, rfl⟩ := h₆.optional
  obtain ⟨f₄, confName, h₄, hconf, rfl⟩ := h₅.optional
  obtain ⟨f₃, entity, h₃, hentity, rfl⟩ := h₄.required
  obtain ⟨f₂, title, h₂, htitle, rfl⟩ := h₃.required
  obtain ⟨f₁, name, h₁, hname, rfl⟩ := h₂.required
  obtain rfl := h₁.done
  refine Record.Writes.optionalBack ?_ Decoder.string_readsBack Decoder.string_refusesNull hclass
  refine Record.Writes.optionalBack ?_ Decoder.string_readsBack Decoder.string_refusesNull hmodule
  refine Record.Writes.optionalBack ?_ Decoder.string_readsBack Decoder.string_refusesNull hhandler
  refine Record.Writes.optionalBack ?_ Decoder.string_readsBack Decoder.string_refusesNull hconf
  refine Record.Writes.requiredBack ?_ Entity.readsBack.list hentity
  refine Record.Writes.requiredBack ?_ Decoder.string_readsBack htitle
  exact (Record.Writes.done Service.mk).requiredBack Decoder.string_readsBack hname

instance : InputsPage.record.Declared := by unfold InputsPage.record; infer_instance

theorem InputsPage.readsBack : ReadsBack InputsPage.decode InputsPage.encode := by
  refine Record.readsBack (by simp [InputsPage.record]) fun x hx => ?_
  obtain ⟨f₃, menu, h₃, hmenu, rfl⟩ := hx.optional
  obtain ⟨f₂, services, h₂, hservices, rfl⟩ := h₃.required
  obtain ⟨f₁, title, h₁, htitle, rfl⟩ := h₂.optional
  obtain rfl := h₁.done
  refine Record.Writes.optionalBack ?_ MenuGroup.readsBack.list (Decoder.list_refusesNull _) hmenu
  refine Record.Writes.requiredBack ?_ Service.readsBack.list hservices
  exact (Record.Writes.done InputsPage.mk).optionalBack Decoder.string_readsBack Decoder.string_refusesNull
    htitle

instance : Pages.record.Declared := by unfold Pages.record; infer_instance

theorem Pages.readsBack : ReadsBack Pages.decode Pages.encode := by
  refine Record.readsBack (by simp [Pages.record]) fun x hx => ?_
  obtain ⟨f₂, inputs, h₂, hinputs, rfl⟩ := hx.optional
  obtain ⟨f₁, configuration, h₁, htabs, rfl⟩ := h₂.optional
  obtain rfl := h₁.done
  refine Record.Writes.optionalBack ?_ InputsPage.readsBack (Record.decoder_refusesNull _ _) hinputs
  exact (Record.Writes.done Pages.mk).optionalBack Tab.readsBack.list (Decoder.list_refusesNull _) htabs

instance : Config.record.Declared := by unfold Config.record; infer_instance

theorem Config.readsBack : ReadsBack Config.decode Config.encode := by
  refine Record.readsBack (by simp [Config.record]) fun x hx => ?_
  obtain ⟨f₂, pages, h₂, hpages, rfl⟩ := hx.required
  obtain ⟨f₁, product, h₁, hproduct, rfl⟩ := h₂.required
  obtain rfl := h₁.done
  refine Record.Writes.requiredBack ?_ Pages.readsBack hpages
  exact (Record.Writes.done Config.mk).requiredBack Meta.readsBack hproduct

/-! ### The whole model -/

/-- What was decoded is decoded again from what it is written as, and written a second time it is the
same. -/
def WritesFaithfully {α : Type} (decode : Decoder α) (encode : α → Json) : Prop :=
  ∀ value a, value.Sorted → decode value = .ok a →
    decode (encode a).sorted = .ok a ∧
      ∀ again, decode (encode a).sorted = .ok again → (encode again).sorted = (encode a).sorted

theorem ReadsBack.writesFaithfully {α : Type} {decode : Decoder α} {encode : α → Json}
    (h : ReadsBack decode encode) : WritesFaithfully decode encode := by
  intro value a hvalue hread
  have hback := h value a hvalue hread
  refine ⟨hback, fun again hagain => ?_⟩
  rw [hback] at hagain
  cases hagain
  rfl

/-- Reading undoes writing for every type of the model, however the value was spelled at first. -/
theorem models_written_faithfully :
    WritesFaithfully Config.decode Config.encode ∧ WritesFaithfully Meta.decode Meta.encode ∧
    WritesFaithfully Pages.decode Pages.encode ∧ WritesFaithfully Tab.decode Tab.encode ∧
    WritesFaithfully Table.decode Table.encode ∧ WritesFaithfully Column.decode Column.encode ∧
    WritesFaithfully InputsPage.decode InputsPage.encode ∧ WritesFaithfully Service.decode Service.encode ∧
    WritesFaithfully MenuGroup.decode MenuGroup.encode ∧ WritesFaithfully Entity.decode Entity.encode ∧
    WritesFaithfully EntityType.decode EntityType.encode ∧
    WritesFaithfully EntityOptions.decode EntityOptions.encode ∧
    WritesFaithfully Choice.decode Choice.encode ∧ WritesFaithfully ChoiceValue.decode ChoiceValue.encode ∧
    WritesFaithfully OAuthField.decode OAuthField.encode ∧ WritesFaithfully Validator.decode Validator.encode :=
  ⟨Config.readsBack.writesFaithfully, Meta.readsBack.writesFaithfully, Pages.readsBack.writesFaithfully,
    Tab.readsBack.writesFaithfully, Table.readsBack.writesFaithfully, Column.readsBack.writesFaithfully,
    InputsPage.readsBack.writesFaithfully, Service.readsBack.writesFaithfully,
    MenuGroup.readsBack.writesFaithfully, Entity.readsBack.writesFaithfully,
    EntityType.readsBack.writesFaithfully, EntityOptions.readsBack.writesFaithfully,
    Choice.readsBack.writesFaithfully, ChoiceValue.readsBack.writesFaithfully,
    OAuthField.readsBack.writesFaithfully, Validator.readsBack.writesFaithfully⟩

/-- An entity that spells its type as an object and `null` for an absent member, has a member and a tag
that are not known, and a validator that is an array. -/
def spelledEntity : Json :=
  .obj [("extra", .bool true), ("field", .str "name"), ("help", .null), ("label", .str "Name"),
    ("options", .obj [("endpointUrl", .arr [.null]), ("maxFileSize", .num (.int 5))]),
    ("type", .obj [("text", .null)]),
    ("validators", .arr [.arr [.str "regex", .str "a", .null], .obj [("errorMsg", .null), ("type", .str "new")]])]

theorem spelledEntity_written_faithfully :
    ∃ entity, spelledEntity.Sorted ∧ Entity.decode spelledEntity = .ok entity ∧
      Entity.decode entity.encode.sorted = .ok entity := by
  have hsorted : spelledEntity.Sorted := by
    simp only [spelledEntity, Json.Sorted, Json.SortedMembers, Json.SortedItems, Members.Ordered]
    decide
  have hread : Entity.decode spelledEntity = .ok ⟨"name", "Name", .text, none, none, none,
      [.regex "a" none, .other], some ⟨none, none, some 5, none, none, none, none,
        [("endpointUrl", .arr [.null])]⟩⟩ := rfl
  obtain ⟨-, -, -, -, -, -, -, -, -, hentity, -⟩ := models_written_faithfully
  exact ⟨_, hsorted, hread, (hentity _ _ hsorted hread).1⟩

end AddonConfig
