import AddonConfig.Decode.Record
import AddonConfig.Model.Encode
import AddonConfig.Proofs.SortedMembers

/-!
# Records read and written

What a decoded record says of its members, and what members have to be there for a record to be decoded.
`Record.Yields` takes a record apart, whether it was read from an object or an array; `Record.Writes`
puts members together that give a record back, in whatever order they are listed.
-/

namespace AddonConfig

/-! ### Decoders that succeed -/

theorem bind_ok_inv {ε α β : Type} {x : Except ε α} {f : α → Except ε β} {b : β}
    (h : (x >>= f) = .ok b) : ∃ a, x = .ok a ∧ f a = .ok b := by
  cases x with
  | error e => cases h
  | ok a => exact ⟨a, rfl, h⟩

theorem mapM_eq_ok {ε α β : Type} {f : α → Except ε β} {items : List α} {results : List β} :
    items.mapM f = .ok results ↔ List.Forall₂ (fun item result => f item = .ok result) items results := by
  induction items generalizing results with
  | nil =>
    rw [List.mapM_nil, List.forall₂_nil_left_iff]
    exact ⟨fun h => by cases h; rfl, fun h => h ▸ rfl⟩
  | cons item rest ih =>
    rw [List.mapM_cons]
    constructor
    · intro h
      obtain ⟨result, hitem, h⟩ := bind_ok_inv h
      obtain ⟨others, hrest, h⟩ := bind_ok_inv h
      cases h
      exact .cons hitem (ih.1 hrest)
    · rintro (_ | ⟨hitem, hrest⟩)
      rw [hitem, ih.2 hrest]
      rfl

theorem exists_of_forall₂ {α β : Type} {R : α → β → Prop} {items : List α} {results : List β}
    (h : List.Forall₂ R items results) {result : β} (hmem : result ∈ results) :
    ∃ item ∈ items, R item result := by
  induction h with
  | nil => cases hmem
  | cons hfirst _ ih =>
    rcases List.mem_cons.1 hmem with rfl | hmem
    · exact ⟨_, List.mem_cons_self, hfirst⟩
    · obtain ⟨item, hitem, h⟩ := ih hmem
      exact ⟨item, List.mem_cons_of_mem _ hitem, h⟩

namespace Decoder
variable {α : Type} {decode item : Decoder α} {value : Json}

theorem list_arr (item : Decoder α) (items : List Json) : item.list (.arr items) = items.mapM item := rfl

/-- Only an array is read as a list, and its items are read one by one. -/
theorem list_eq_ok {results : List α} (h : item.list value = .ok results) :
    ∃ items, value = .arr items ∧ List.Forall₂ (fun i r => item i = .ok r) items results := by
  cases value <;> first | cases h | exact ⟨_, rfl, mapM_eq_ok.1 h⟩

theorem list_of_forall {encode : α → Json} {results : List α}
    (h : ∀ a ∈ results, item (encode a).sorted = .ok a) :
    item.list (encodeList encode results).sorted = .ok results := by
  rw [encodeList, Json.sorted_arr, List.map_map, list_arr, mapM_eq_ok, List.forall₂_map_left_iff]
  exact List.forall₂_same.2 h

theorem option_of_ne_null (h : value ≠ .null) : decode.option value = some <$> decode value := by
  cases value <;> first | rfl | exact absurd rfl h

theorem option_eq_some {a : α} (h : decode.option value = .ok (some a)) :
    value ≠ .null ∧ decode value = .ok a := by
  by_cases hnull : value = .null
  · subst hnull
    cases h
  · rw [option_of_ne_null hnull] at h
    cases hdecode : decode value with
    | error e => rw [hdecode] at h; cases h
    | ok b => rw [hdecode] at h; cases h; exact ⟨hnull, rfl⟩

theorem option_of_ok {a : α} (hnull : value ≠ .null) (h : decode value = .ok a) :
    decode.option value = .ok (some a) := by
  rw [option_of_ne_null hnull, h]
  rfl

end Decoder

/-! ### What a record is read from -/

theorem Members.get?_member_append (written : String) (value : Json) (rest : Members) (name : String) :
    get? (member written value ++ rest) name
      = if name = written then some value else get? rest name :=
  get?_cons _ _ _

theorem memberIf_names {α : Type} (name : String) (encode : α → Json) (o : Option α) :
    ((memberIf name encode o).map (·.1)).Sublist [name] := by
  cases o with
  | none => exact List.nil_sublist _
  | some a => exact List.Sublist.refl _

/-- What a member's value, or its absence from an object, is read as. -/
def Field.Gives {α : Type} (field : Field α) : Option Json → α → Prop
  | some value, a => field.decode value = .ok a
  | none, a => field.absent = some a

/-- Where a member can come from: from a value of some kind, or from none. -/
def Field.Holds {α : Type} (field : Field α) (P : Json → Prop) (a : α) : Prop :=
  (∃ value, P value ∧ field.decode value = .ok a) ∨ field.absent = some a ∨ field.shortArray = some a

namespace Reading
variable {α β : Type} {field : Field α} {value : Json} {a : α} {e : DecodeError}

theorem and_ok (reading : Reading (α → β)) (h : field.decode value = .ok a) :
    reading.and field (some value) = ⟨reading.refusals, reading.built.map (· a)⟩ := by
  simp only [Reading.and, h]

theorem and_refused (reading : Reading (α → β)) (h : field.decode value = .error e) :
    reading.and field (some value) = ⟨(field.name, e) :: reading.refusals, .error e⟩ := by
  simp only [Reading.and, h]

theorem and_absent (reading : Reading (α → β)) (h : field.absent = some a) :
    reading.and field none = ⟨reading.refusals, reading.built.map (· a)⟩ := by
  obtain ⟨refusals, built⟩ := reading
  cases built <;> simp [Reading.and, h, bind, Except.bind, pure, Except.pure, Except.map]

theorem and_missing (reading : Reading (α → β)) (h : field.absent = none) :
    ∃ e, reading.and field none = ⟨reading.refusals, .error e⟩ := by
  obtain ⟨refusals, built⟩ := reading
  cases built <;> simp [Reading.and, h, bind, Except.bind, throw, throwThe, MonadExceptOf.throw]

end Reading

namespace Record

/-- The record that members give, each by its name. -/
def Reads {α : Type} (record : Record α) (get : String → Option Json) (x : α) : Prop :=
  record.ofMembers get = ⟨[], .ok x⟩

/-- A record that is put together from declared members. -/
class inductive Declared : {α : Type} → Record α → Prop
  | done {α : Type} (value : α) : Declared (Record.done value)
  | and {α β : Type} {record : Record (α → β)} (h : Declared record) (field : Field α) :
      Declared (record.and field)

variable {α β : Type} {get : String → Option Json} {P : Json → Prop}

instance (value : α) : (Record.done value).Declared := .done value

instance (record : Record (α → β)) [h : record.Declared] (name : String) (decode : Decoder α) :
    (record.required name decode).Declared := .and h _

instance (record : Record (Option α → β)) [h : record.Declared] (name : String) (decode : Decoder α) :
    (record.optional name decode).Declared := .and h _

instance (record : Record (List α → β)) [h : record.Declared] (name : String) (item : Decoder α) :
    (record.defaulted name item).Declared := .and h _

@[simp] theorem names_done (value : α) : (Record.done value).names = [] := rfl

@[simp] theorem names_and (record : Record (α → β)) (field : Field α) :
    (record.and field).names = record.names ++ [field.name] := rfl

@[simp] theorem names_required (record : Record (α → β)) (name : String) (decode : Decoder α) :
    (record.required name decode).names = record.names ++ [name] := rfl

@[simp] theorem names_optional (record : Record (Option α → β)) (name : String) (decode : Decoder α) :
    (record.optional name decode).names = record.names ++ [name] := rfl

@[simp] theorem names_defaulted (record : Record (List α → β)) (name : String) (item : Decoder α) :
    (record.defaulted name item).names = record.names ++ [name] := rfl

theorem ofMembers_and (record : Record (α → β)) (field : Field α) (get : String → Option Json) :
    (record.and field).ofMembers get = (record.ofMembers get).and field (get field.name) := rfl

theorem reads_done {value x : α} : (Record.done value).Reads get x ↔ x = value :=
  ⟨fun h => by cases h; rfl, fun h => h ▸ rfl⟩

theorem map_eq_read {reading : Reading (α → β)} {a : α} {x : β} :
    (⟨reading.refusals, reading.built.map (· a)⟩ : Reading β) = ⟨[], .ok x⟩ ↔
      ∃ f, reading = ⟨[], .ok f⟩ ∧ f a = x := by
  obtain ⟨refusals, built⟩ := reading
  cases built <;> simp [Except.map]

theorem reads_and {record : Record (α → β)} {field : Field α} {x : β} :
    (record.and field).Reads get x ↔
      ∃ f a, record.Reads get f ∧ field.Gives (get field.name) a ∧ f a = x := by
  unfold Reads
  rw [ofMembers_and]
  cases hget : get field.name with
  | some value =>
    cases hdecode : field.decode value with
    | error e => simp [Reading.and_refused _ hdecode, Field.Gives, hdecode]
    | ok a =>
      rw [Reading.and_ok _ hdecode, map_eq_read]
      simp only [Field.Gives, hdecode, Except.ok.injEq]
      exact ⟨fun ⟨f, h, hx⟩ => ⟨f, a, h, rfl, hx⟩, fun ⟨f, _, h, ha, hx⟩ => ⟨f, h, ha ▸ hx⟩⟩
  | none =>
    cases habsent : field.absent with
    | none =>
      obtain ⟨e, he⟩ := (record.ofMembers get).and_missing habsent
      simp [he, Field.Gives, habsent]
    | some a =>
      rw [Reading.and_absent _ habsent, map_eq_read]
      simp only [Field.Gives, habsent, Option.some.injEq]
      exact ⟨fun ⟨f, h, hx⟩ => ⟨f, a, h, rfl, hx⟩, fun ⟨f, _, h, ha, hx⟩ => ⟨f, h, ha ▸ hx⟩⟩

theorem Reads.required {record : Record (α → β)} {name : String} {decode : Decoder α} {x : β}
    (h : (record.required name decode).Reads get x) :
    ∃ f a value, record.Reads get f ∧ get name = some value ∧ decode value = .ok a ∧ f a = x := by
  obtain ⟨f, a, hf, ha, hx⟩ := reads_and.1 h
  change Field.Gives _ (get name) a at ha
  cases hget : get name with
  | none => rw [hget] at ha; cases ha
  | some value => rw [hget] at ha; exact ⟨f, a, value, hf, rfl, ha, hx⟩

theorem Reads.optional {record : Record (Option α → β)} {name : String} {decode : Decoder α} {x : β}
    (h : (record.optional name decode).Reads get x) :
    ∃ f o, record.Reads get f ∧ (∀ a, o = some a → ∃ value, get name = some value ∧ decode value = .ok a) ∧
      f o = x := by
  obtain ⟨f, o, hf, ho, hx⟩ := reads_and.1 h
  change Field.Gives _ (get name) o at ho
  refine ⟨f, o, hf, ?_, hx⟩
  rintro a rfl
  cases hget : get name with
  | none => rw [hget] at ho; cases ho
  | some value => rw [hget] at ho; exact ⟨value, rfl, (Decoder.option_eq_some ho).2⟩

theorem Reads.defaulted {record : Record (List α → β)} {name : String} {item : Decoder α} {x : β}
    (h : (record.defaulted name item).Reads get x) :
    ∃ f xs, record.Reads get f ∧
      (∀ a ∈ xs, ∃ items value, get name = some (.arr items) ∧ value ∈ items ∧ item value = .ok a) ∧
      f xs = x := by
  obtain ⟨f, xs, hf, hxs, hx⟩ := reads_and.1 h
  change Field.Gives _ (get name) xs at hxs
  refine ⟨f, xs, hf, fun a ha => ?_, hx⟩
  cases hget : get name with
  | none => rw [hget] at hxs; cases hxs; cases ha
  | some value =>
    rw [hget] at hxs
    obtain ⟨items, rfl, hitems⟩ := Decoder.list_eq_ok hxs
    obtain ⟨v, hv, hva⟩ := exists_of_forall₂ hitems ha
    exact ⟨items, v, rfl, hv, hva⟩

/-- Only declared members that are there can be refused. -/
theorem Declared.of_refusal {record : Record α} (h : Declared record) (get : String → Option Json) :
    ∀ refusal ∈ (record.ofMembers get).refusals, refusal.1 ∈ record.names ∧ (get refusal.1).isSome := by
  induction h with
  | done => intro refusal hmem; cases hmem
  | @and α β record _ field ih =>
    have hprior : ∀ refusal ∈ (record.ofMembers get).refusals,
        refusal.1 ∈ (record.and field).names ∧ (get refusal.1).isSome := fun refusal hmem =>
      ⟨List.mem_append_left _ (ih refusal hmem).1, (ih refusal hmem).2⟩
    intro refusal hmem
    rw [ofMembers_and] at hmem
    cases hget : get field.name with
    | none =>
      rw [hget] at hmem
      exact hprior refusal hmem
    | some value =>
      rw [hget] at hmem
      cases hdecode : field.decode value with
      | ok a =>
        rw [Reading.and_ok _ hdecode] at hmem
        exact hprior refusal hmem
      | error e =>
        rw [Reading.and_refused _ hdecode] at hmem
        rcases List.mem_cons.1 hmem with rfl | hmem
        · exact ⟨by simp, by rw [hget]; rfl⟩
        · exact hprior refusal hmem

/-- Only the declared members are looked at. -/
theorem Declared.ofMembers_congr {record : Record α} (h : Declared record) {get get' : String → Option Json}
    (hget : ∀ name ∈ record.names, get name = get' name) : record.ofMembers get = record.ofMembers get' := by
  induction h with
  | done => rfl
  | @and α β record _ field ih =>
    rw [ofMembers_and, ofMembers_and, ih fun name hname => hget name (List.mem_append_left _ hname),
      hget field.name (List.mem_append_right _ (List.mem_singleton.2 rfl))]

theorem readMembers_of_reads {record : Record α} {members : Members} {x : α}
    (h : record.Reads (Members.get? members) x) : record.readMembers members = .ok x := by
  have hnone : members.findSome? (fun member => List.lookup member.1 ([] : List (String × DecodeError)))
      = none := List.findSome?_eq_none_iff.2 fun _ _ => rfl
  unfold Record.Reads at h
  unfold readMembers
  rw [h, Reading.result, hnone]

/-- An object gives a record exactly if none of its declared members is refused and none is missing. -/
theorem readMembers_eq_ok {record : Record α} [hdeclared : record.Declared] {members : Members} {x : α} :
    record.readMembers members = .ok x ↔ record.Reads (Members.get? members) x := by
  refine ⟨fun h => ?_, readMembers_of_reads⟩
  unfold readMembers Reading.result at h
  split at h
  case h_1 => cases h
  case h_2 hnone =>
    have hpresent := hdeclared.of_refusal (Members.get? members)
    unfold Record.Reads
    generalize record.ofMembers (Members.get? members) = reading at h hnone hpresent ⊢
    obtain ⟨refusals, built⟩ := reading
    cases refusals with
    | nil => exact congrArg _ h
    | cons refusal rest =>
      -- the member that is refused would have been found
      obtain ⟨value, hvalue⟩ := Option.isSome_iff_exists.1 (hpresent refusal List.mem_cons_self).2
      have hfound := List.findSome?_eq_none_iff.1 hnone _ (Members.mem_of_get? hvalue)
      simp at hfound

/-- The record is one that can be read from values of some kind, be they an object's or an array's. -/
def Yields (record : Record α) (P : Json → Prop) (x : α) : Prop :=
  (∃ get, (∀ name value, get name = some value → P value) ∧ record.Reads get x) ∨
    ∃ expected items rest, (∀ item ∈ items, P item) ∧ record.ofItems expected items = .ok (x, rest)

/-- The front of an array that is read as one member more. -/
theorem ofItems_and {record : Record (α → β)} {field : Field α} {expected : Expected} {items rest : List Json}
    {x : β} (h : (record.and field).ofItems expected items = .ok (x, rest)) :
    ∃ f left a, record.ofItems expected items = .ok (f, left) ∧ f a = x ∧
      ((∃ item, left = item :: rest ∧ field.decode item = .ok a) ∨
        (rest = [] ∧ field.shortArray = some a)) := by
  obtain ⟨⟨f, left⟩, hf, h⟩ := bind_ok_inv h
  cases left with
  | cons item left =>
    obtain ⟨a, ha, h⟩ := bind_ok_inv h
    cases h
    exact ⟨f, _, a, hf, rfl, .inl ⟨item, rfl, ha⟩⟩
  | nil =>
    cases hshort : field.shortArray with
    | none => simp only [hshort] at h; cases h
    | some a =>
      simp only [hshort] at h
      cases h
      exact ⟨f, _, a, hf, rfl, .inr ⟨rfl, rfl⟩⟩

/-- What an array leaves over is of the array. -/
theorem Declared.rest_subset {record : Record α} (h : Declared record) {expected : Expected}
    {items rest : List Json} {x : α} (hread : record.ofItems expected items = .ok (x, rest)) :
    rest ⊆ items := by
  induction h generalizing rest with
  | done => cases hread; exact fun _ h => h
  | @and α β record _ field ih =>
    obtain ⟨f, left, a, hf, -, ⟨item, rfl, -⟩ | ⟨rfl, -⟩⟩ := ofItems_and hread
    · exact fun other hother => ih hf (List.mem_cons_of_mem _ hother)
    · exact List.nil_subset _

namespace Yields

theorem done {value x : α} (h : (Record.done value).Yields P x) : x = value := by
  rcases h with ⟨get, -, h⟩ | ⟨_, _, _, -, h⟩
  · exact reads_done.1 h
  · cases h; rfl

theorem and {record : Record (α → β)} [hdeclared : record.Declared] {field : Field α} {x : β}
    (h : (record.and field).Yields P x) : ∃ f a, record.Yields P f ∧ field.Holds P a ∧ f a = x := by
  rcases h with ⟨get, hP, h⟩ | ⟨expected, items, rest, hP, h⟩
  · obtain ⟨f, a, hf, ha, rfl⟩ := reads_and.1 h
    refine ⟨f, a, .inl ⟨get, hP, hf⟩, ?_, rfl⟩
    cases hget : get field.name with
    | none => rw [hget] at ha; exact .inr (.inl ha)
    | some value => rw [hget] at ha; exact .inl ⟨value, hP _ _ hget, ha⟩
  · obtain ⟨f, left, a, hf, hx, hlast⟩ := ofItems_and h
    refine ⟨f, a, .inr ⟨expected, items, left, hP, hf⟩, ?_, hx⟩
    rcases hlast with ⟨item, rfl, hitem⟩ | ⟨-, hshort⟩
    · exact .inl ⟨item, hP item (hdeclared.rest_subset hf List.mem_cons_self), hitem⟩
    · exact .inr (.inr hshort)

variable {name : String} {decode item : Decoder α}

theorem required {record : Record (α → β)} [record.Declared] {x : β}
    (h : (record.required name decode).Yields P x) :
    ∃ f a, record.Yields P f ∧ (∃ value, P value ∧ decode value = .ok a) ∧ f a = x := by
  obtain ⟨f, a, hf, hvalue | habsent | hshort, hx⟩ := h.and
  · exact ⟨f, a, hf, hvalue, hx⟩
  · cases habsent
  · cases hshort

theorem optional {record : Record (Option α → β)} [record.Declared] {x : β}
    (h : (record.optional name decode).Yields P x) :
    ∃ f o, record.Yields P f ∧ (∀ a, o = some a → ∃ value, P value ∧ value ≠ .null ∧ decode value = .ok a)
      ∧ f o = x := by
  obtain ⟨f, o, hf, ⟨value, hP, hvalue⟩ | habsent | hshort, hx⟩ := h.and
  · refine ⟨f, o, hf, ?_, hx⟩
    rintro a rfl
    exact ⟨value, hP, Decoder.option_eq_some hvalue⟩
  · cases habsent
    exact ⟨f, none, hf, fun _ h => (Option.some_ne_none _ h.symm).elim, hx⟩
  · cases hshort

theorem defaulted {record : Record (List α → β)} [record.Declared] {x : β}
    (h : (record.defaulted name item).Yields P x) (hP : ∀ items, P (.arr items) → ∀ value ∈ items, P value) :
    ∃ f xs, record.Yields P f ∧ (∀ a ∈ xs, ∃ value, P value ∧ item value = .ok a) ∧ f xs = x := by
  obtain ⟨f, xs, hf, ⟨value, hvalue, hread⟩ | habsent | hshort, hx⟩ := h.and
  · refine ⟨f, xs, hf, fun a ha => ?_, hx⟩
    obtain ⟨items, rfl, hitems⟩ := Decoder.list_eq_ok hread
    obtain ⟨w, hw, hwa⟩ := exists_of_forall₂ hitems ha
    exact ⟨w, hP items hvalue w hw, hwa⟩
  · cases habsent
    exact ⟨f, [], hf, by simp, hx⟩
  · cases hshort
    exact ⟨f, [], hf, by simp, hx⟩

end Yields

/-! ### Members that give a record back -/

/-- Members, of which none has a name that is not declared, give the record wherever they are found
sorted, if no name is declared twice. -/
structure Writes (record : Record α) (entries : Members) (x : α) : Prop where
  names : (entries.map (·.1)).Sublist record.names
  reads : record.names.Nodup →
    ∀ get, (∀ name ∈ record.names, get name = (Members.get? entries name).map Json.sorted) → record.Reads get x

namespace Writes

theorem done (value : α) : (Record.done value).Writes [] value :=
  ⟨List.Sublist.refl _, fun _ _ _ => reads_done.2 rfl⟩

variable {name : String} {decode item : Decoder α} {encode : α → Json} {entries : Members}

/-- One member more, which has what its field makes of it. -/
theorem and {record : Record (α → β)} {f : α → β} {field : Field α} {a : α} (h : record.Writes entries f)
    (added : Members) (hadded : (added.map (·.1)).Sublist [field.name])
    (hgives : field.Gives ((Members.get? added field.name).map Json.sorted) a) :
    (record.and field).Writes (entries ++ added) (f a) := by
  constructor
  · rw [List.map_append]
    exact h.names.append hadded
  · intro hnodup get hget
    obtain ⟨hprior, -, hdisjoint⟩ := List.nodup_append.1 hnodup
    have hfresh : field.name ∉ record.names := fun hmem => hdisjoint _ hmem _ List.mem_cons_self rfl
    have hnone : Members.get? entries field.name = none :=
      Members.get?_eq_none_iff.2 fun hmem => hfresh (h.names.subset hmem)
    refine reads_and.2 ⟨f, a, h.reads hprior get fun name hname => ?_, ?_, rfl⟩
    · have hne : Members.get? added name = none := by
        refine Members.get?_eq_none_iff.2 fun hmem => hfresh ?_
        rwa [← List.mem_singleton.1 (hadded.subset hmem)]
      rw [hget name (List.mem_append_left _ hname), Members.get?_append, hne, Option.or_none]
    · rwa [hget field.name (List.mem_append_right _ (List.mem_singleton.2 rfl)), Members.get?_append, hnone,
        Option.none_or]

theorem required {record : Record (α → β)} {f : α → β} (h : record.Writes entries f) {value : Json} {a : α}
    (hvalue : decode value.sorted = .ok a) :
    (record.required name decode).Writes (entries ++ member name value) (f a) :=
  h.and _ (List.Sublist.refl _) (by simpa [member, Members.get?_cons, Field.Gives] using hvalue)

theorem optional {record : Record (Option α → β)} {f : Option α → β} (h : record.Writes entries f)
    {o : Option α} (hvalue : ∀ a, o = some a → decode (encode a).sorted = .ok a ∧ (encode a).sorted ≠ .null) :
    (record.optional name decode).Writes (entries ++ memberIf name encode o) (f o) := by
  refine h.and _ (memberIf_names name encode o) ?_
  cases o with
  | none => rfl
  | some a =>
    obtain ⟨hread, hnull⟩ := hvalue a rfl
    simpa [memberIf, Members.get?_cons, Field.Gives] using Decoder.option_of_ok hnull hread

theorem defaulted {record : Record (List α → β)} {f : List α → β} (h : record.Writes entries f)
    {xs : List α} (hvalue : ∀ a ∈ xs, item (encode a).sorted = .ok a) :
    (record.defaulted name item).Writes (entries ++ memberList name encode xs) (f xs) := by
  refine h.and _ ?_ ?_
  · cases xs with
    | nil => exact List.nil_sublist _
    | cons a rest => exact List.Sublist.refl _
  · cases xs with
    | nil => rfl
    | cons a rest =>
      simpa [memberList, Members.get?_cons, Field.Gives] using Decoder.list_of_forall hvalue

/-- The members give the record back when they are sorted. -/
theorem decoder {record : Record α} {x : α} (h : record.Writes entries x) (title : String)
    (hnodup : record.names.Nodup) : record.decoder title (Json.obj entries).sorted = .ok x :=
  readMembers_of_reads <| h.reads hnodup _ fun name _ => Json.get?_sorted (hnodup.sublist h.names) name

end Writes

/-- What a record is decoded from, be it an object or an array. -/
theorem yields_of_decoder {record : Record α} [record.Declared] {title : String} {value : Json}
    {x : α} (h : record.decoder title value = .ok x)
    (hobj : ∀ members, value = .obj members → ∀ entry ∈ members, P entry.2)
    (harr : ∀ items, value = .arr items → ∀ item ∈ items, P item) : record.Yields P x := by
  cases value with
  | obj members =>
    refine .inl ⟨Members.get? members, fun name value hget => ?_, readMembers_eq_ok.1 h⟩
    exact hobj members rfl _ (Members.mem_of_get? hget)
  | arr items =>
    obtain ⟨⟨y, rest⟩, hread, h⟩ := bind_ok_inv h
    refine .inr ⟨.itemsOf title record.names.length, items, rest, harr items rfl, ?_⟩
    by_cases hrest : rest.isEmpty
    · simp only [hrest, if_true] at h
      cases h
      exact hread
    · simp only [hrest] at h
      cases h
  | null => cases h
  | bool b => cases h
  | num n => cases h
  | str s => cases h

end Record
end AddonConfig
