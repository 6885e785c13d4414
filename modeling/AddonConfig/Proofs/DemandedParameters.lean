import AddonConfig.Proofs.ViolationSpans

/-!
# Parameters that validators are asked for

`Schema.askedAt` follows a schema to what it asks for at a place of the document, and the violations at and below a
node are those that are found there (`mem_violationsAt_below`). A validator stands below an entity or below a
field of an `oauth` entity (`ValidatorPlace`), and at all of these places the same schema asks for it. What it
misses is said by `parameters_demanded`: a range of a number validator and a pattern of a regex validator, and both
of an object without a type.
-/

namespace AddonConfig

namespace Schema
variable {schema asked : Schema} {value node : Json} {place rest : Pointer} {step : Step} {violation : Violation}
  {members : Members}

/-! ### Violations at and below a node -/

/-- What a schema asks for at a step, one schema a declaration. -/
def behind : Schema → Step → List Schema
  | .array item, .item _ => [item]
  | .object declared _ _, .member name => (declared.filter (·.1 = name)).map (·.2)
  | _, _ => []

/-- What a schema asks for at a place. -/
def askedAt (schema : Schema) : Pointer → List Schema
  | [] => [schema]
  | step :: rest => (schema.behind step).flatMap (askedAt · rest)

theorem mem_behind_member {declared : List (String × Schema)} {required : List String} {conditions : List Condition}
    {name : String} : asked ∈ (object declared required conditions).behind (.member name) ↔ (name, asked) ∈ declared := by
  simp [Schema.behind]

/-- A violation stands at or below the place of the value it is found in. -/
theorem place_extends (h : violation ∈ violationsAt schema place value) : place <+: violation.place := by
  obtain ⟨rest, -, hplace, -⟩ := violation_at_node schema place value h
  exact ⟨rest, hplace.symm⟩

theorem not_behind_step (h : violation.place = place) : ¬ place ++ [step] <+: violation.place := by
  intro hprefix
  have hlength := hprefix.length_le
  rw [h, List.length_append, List.length_singleton] at hlength
  omega

/-- Steps from one place to the same place below are the same. -/
theorem step_unique {other : Step} (h : place ++ [step] <+: violation.place)
    (hother : place ++ [other] <+: violation.place) : step = other := by
  have heq := List.prefix_of_prefix_length_le h hother (by simp) |>.eq_of_length (by simp)
  exact List.singleton_inj.1 (List.append_cancel_left heq)

theorem violation_at_place (h : violation ∈ violationsAt schema place value)
    (hscalar : violationsAt schema place value = complain place (scalarComplaints schema value)) :
    violation.place = place :=
  (mem_complain.1 (hscalar ▸ h)).1

/-- The violations behind a step are those of what the schema asks for there. -/
theorem mem_violationsAt_step (hchild : value.child? step = some node) (hbelow : place ++ [step] <+: violation.place) :
    violation ∈ violationsAt schema place value ↔
      ∃ asked ∈ schema.behind step, violation ∈ violationsAt asked (place ++ [step]) node := by
  obtain ⟨items, index, rfl, rfl, hget⟩ | ⟨members, name, rfl, rfl, hget⟩ := Json.child?_eq_some hchild
  · cases schema with
    | array item =>
      rw [mem_violationsAt_arr]
      constructor
      · rintro ⟨other, found, hfound, h⟩
        obtain rfl : index = other := Step.item.inj (step_unique hbelow (place_extends h))
        obtain rfl : node = found := Option.some.inj (hget.symm.trans hfound)
        exact ⟨item, List.mem_singleton_self item, h⟩
      · rintro ⟨asked, hasked, h⟩
        obtain rfl := List.mem_singleton.1 hasked
        exact ⟨index, node, hget, h⟩
    | string | word | choice | boolean | integer | natural | number | scalar | object =>
      refine iff_of_false (fun h => not_behind_step (violation_at_place h ?_) hbelow) (by simp [Schema.behind])
      rw [violationsAt] <;> simp
  · cases schema with
    | object declared required conditions =>
      rw [mem_violationsAt_obj]
      constructor
      · rintro (⟨hplace, -⟩ | ⟨other, asked, found, hmem, hfound, h⟩ | ⟨hplace, -⟩)
        · exact absurd hbelow (not_behind_step hplace)
        · obtain rfl : name = other := Step.member.inj (step_unique hbelow (place_extends h))
          obtain rfl : node = found := Option.some.inj (hget.symm.trans hfound)
          exact ⟨asked, mem_behind_member.2 hmem, h⟩
        · exact absurd hbelow (not_behind_step hplace)
      · rintro ⟨asked, hasked, h⟩
        exact .inr (.inl ⟨name, asked, node, mem_behind_member.1 hasked, hget, h⟩)
    | string | word | choice | boolean | integer | natural | number | scalar | array =>
      refine iff_of_false (fun h => not_behind_step (violation_at_place h ?_) hbelow) (by simp [Schema.behind])
      rw [violationsAt] <;> simp

/-- The violations at and below a node are those of what the schema asks for at its place. -/
theorem mem_violationsAt_below (hnode : value.node? rest = some node) (hbelow : place ++ rest <+: violation.place) :
    violation ∈ violationsAt schema place value ↔
      ∃ asked ∈ schema.askedAt rest, violation ∈ violationsAt asked (place ++ rest) node := by
  induction rest generalizing schema place value with
  | nil =>
    cases hnode
    simp [askedAt]
  | cons step rest ih =>
    rw [Json.node?_cons] at hnode
    obtain ⟨child, hchild, hnode⟩ := Option.bind_eq_some_iff.1 hnode
    have hassoc : place ++ step :: rest = place ++ [step] ++ rest := by simp
    rw [hassoc] at hbelow ⊢
    rw [mem_violationsAt_step hchild ((List.prefix_append _ _).trans hbelow)]
    simp only [askedAt, List.mem_flatMap, ih hnode hbelow]
    constructor
    · rintro ⟨outer, houter, asked, hasked, h⟩
      exact ⟨asked, ⟨outer, houter, hasked⟩, h⟩
    · rintro ⟨asked, ⟨outer, houter, hasked⟩, h⟩
      exact ⟨outer, houter, asked, hasked, h⟩

/-! ### Members that are missed -/

theorem mem_conditionComplaints {conditions : List Condition} {name : String} :
    .missing name ∈ conditionComplaints conditions members ↔
      Members.get? members name = none ∧
        ∃ condition ∈ conditions, condition.demands = name ∧ condition.applies members := by
  rw [conditionComplaints, List.mem_flatMap]
  constructor
  · rintro ⟨condition, hmem, h⟩
    split at h
    · next happlies =>
      obtain ⟨demanded, hdemanded, hnone, heq⟩ := mem_missing.1 h
      cases heq
      obtain rfl := List.mem_singleton.1 hdemanded
      exact ⟨hnone, condition, hmem, rfl, happlies⟩
    · cases h
  · rintro ⟨hnone, condition, hmem, rfl, happlies⟩
    refine ⟨condition, hmem, ?_⟩
    rw [if_pos happlies]
    exact mem_missing.2 ⟨_, List.mem_singleton_self _, hnone, rfl⟩

/-- Missed of an object are the members that are always required, and those that a condition demands. -/
theorem missing_mem_violationsAt {declared : List (String × Schema)} {required : List String}
    {conditions : List Condition} {name : String} :
    ⟨place, .missing name⟩ ∈ violationsAt (.object declared required conditions) place (.obj members) ↔
      Members.get? members name = none ∧
        (name ∈ required ∨ ∃ condition ∈ conditions, condition.demands = name ∧ condition.applies members) := by
  have hrequired : .missing name ∈ missing required members ↔ name ∈ required ∧ Members.get? members name = none := by
    rw [mem_missing]
    constructor
    · rintro ⟨other, hmem, hnone, heq⟩
      cases heq
      exact ⟨hmem, hnone⟩
    · exact fun ⟨hmem, hnone⟩ => ⟨name, hmem, hnone, rfl⟩
  rw [mem_violationsAt_obj]
  constructor
  · rintro (⟨-, h⟩ | ⟨other, asked, found, -, -, h⟩ | ⟨-, h⟩)
    · obtain ⟨hnone, hcondition⟩ := mem_conditionComplaints.1 h
      exact ⟨hnone, .inr hcondition⟩
    · -- what is inside a member is not about the object
      exact absurd (place_extends h) (not_behind_step rfl)
    · exact ⟨(hrequired.1 h).2, .inl (hrequired.1 h).1⟩
  · rintro ⟨hnone, h | h⟩
    · exact .inr (.inr ⟨rfl, hrequired.2 ⟨h, hnone⟩⟩)
    · exact .inl ⟨rfl, mem_conditionComplaints.2 ⟨hnone, h⟩⟩

theorem applies_iff {condition : Condition} :
    condition.applies members ↔ Members.get? members condition.member = some (.str condition.value) ∨
      Members.get? members condition.member = none := by
  unfold Condition.applies
  split <;> simp_all

/-! ### Validators of a document -/

/-- The places of the entities of tabs and of services. -/
inductive EntityPlace : Pointer → Prop
  | tab (tab entity : Nat) :
      EntityPlace [.member "pages", .member "configuration", .item tab, .member "entity", .item entity]
  | service (service entity : Nat) :
      EntityPlace [.member "pages", .member "inputs", .member "services", .item service, .member "entity",
        .item entity]

/-- The places of the validators of an entity and of those of its sub-fields. -/
inductive ValidatorPlace : Pointer → Prop
  | entity {place : Pointer} (h : EntityPlace place) (validator : Nat) :
      ValidatorPlace (place ++ [.member "validators", .item validator])
  | oauth {place : Pointer} (h : EntityPlace place) (field validator : Nat) :
      ValidatorPlace (place ++ [.member "options", .member "oauth", .item field, .member "validators",
        .item validator])
  | basic {place : Pointer} (h : EntityPlace place) (field validator : Nat) :
      ValidatorPlace (place ++ [.member "options", .member "basic", .item field, .member "validators",
        .item validator])

theorem askedAt_append (schema : Schema) (place rest : Pointer) :
    schema.askedAt (place ++ rest) = (schema.askedAt place).flatMap (askedAt · rest) := by
  induction place generalizing schema with
  | nil => simp [askedAt]
  | cons step place ih => simp only [List.cons_append, askedAt, ih, List.flatMap_assoc]

theorem EntityPlace.askedAt (h : EntityPlace place) : document.askedAt place = [Schema.entity] := by
  cases h <;> rfl

/-- Wherever a validator stands, the document's schema asks for a validator there and for nothing else. -/
theorem ValidatorPlace.askedAt (h : ValidatorPlace place) : document.askedAt place = [Schema.validator] := by
  cases h with
  | entity h | oauth h | basic h =>
    rw [askedAt_append, h.askedAt, List.flatMap_singleton]
    rfl

theorem missing_mem_violations {name : String} (hplace : ValidatorPlace place)
    (hnode : value.node? place = some (.obj members)) :
    ⟨place, .missing name⟩ ∈ violations document value ↔
      ⟨place, .missing name⟩ ∈ violationsAt Schema.validator place (.obj members) := by
  rw [violations, mem_violationsAt_below hnode (List.prefix_refl _), hplace.askedAt]
  simp

end Schema

/-- A validator is told to have a range if it has none and its type is `number` or missing, and to have a pattern
if it has none and its type is `regex` or missing. -/
theorem parameters_demanded {value : Json} {place : Pointer} {members : Members}
    (hplace : Schema.ValidatorPlace place) (hnode : value.node? place = some (.obj members)) :
    (⟨place, .missing "range"⟩ ∈ Schema.violations Schema.document value ↔
      Members.get? members "range" = none ∧
        (Members.get? members "type" = some (.str "number") ∨ Members.get? members "type" = none)) ∧
    (⟨place, .missing "pattern"⟩ ∈ Schema.violations Schema.document value ↔
      Members.get? members "pattern" = none ∧
        (Members.get? members "type" = some (.str "regex") ∨ Members.get? members "type" = none)) := by
  rw [Schema.missing_mem_violations hplace hnode, Schema.missing_mem_violations hplace hnode, Schema.validator,
    Schema.missing_mem_violationsAt, Schema.missing_mem_violationsAt]
  simp [Schema.applies_iff]

/-- A validator without a type at an entity of a tab, and a number validator without a range below an `oauth` entity
of a service. -/
def bareDocument : Json :=
  .obj [
    ("meta", .obj [("displayName", .str "Add-on"), ("name", .str "addon"), ("restRoot", .str "addon"),
      ("version", .str "1.0")]),
    ("pages", .obj [
      ("configuration", .arr [.obj [
        ("entity", .arr [.obj [
          ("field", .str "name"), ("label", .str "Name"), ("type", .str "text"),
          ("validators", .arr [.obj [("errorMsg", .str "No.")]])]]),
        ("name", .str "account"), ("title", .str "Account")]]),
      ("inputs", .obj [("services", .arr [.obj [
        ("entity", .arr [.obj [
          ("field", .str "login"), ("label", .str "Login"),
          ("options", .obj [("basic", .arr [.obj [
            ("field", .str "port"), ("label", .str "Port"), ("oauth_field", .str "port"),
            ("validators", .arr [.obj [("type", .str "number")]])]])]),
          ("type", .str "oauth")]]),
        ("name", .str "input"), ("title", .str "Input")]])])])]

/-- The place of the validator without a type. -/
def untypedPlace : Pointer :=
  [.member "pages", .member "configuration", .item 0, .member "entity", .item 0, .member "validators", .item 0]

/-- The place of the number validator. -/
def boundlessPlace : Pointer :=
  [.member "pages", .member "inputs", .member "services", .item 0, .member "entity", .item 0, .member "options",
    .member "basic", .item 0, .member "validators", .item 0]

theorem validatorPlace_untyped : Schema.ValidatorPlace untypedPlace := .entity (.tab 0 0) 0

theorem validatorPlace_boundless : Schema.ValidatorPlace boundlessPlace := .basic (.service 0 0) 0 0

theorem bareDocument_demanded :
    (Schema.ValidatorPlace boundlessPlace ∧ bareDocument.node? boundlessPlace = some (.obj [("type", .str "number")])) ∧
      ⟨boundlessPlace, .missing "range"⟩ ∈ Schema.violations Schema.document bareDocument ∧
        ⟨boundlessPlace, .missing "pattern"⟩ ∉ Schema.violations Schema.document bareDocument := by
  have hnode : bareDocument.node? boundlessPlace = some (.obj [("type", .str "number")]) := rfl
  obtain ⟨hrange, hpattern⟩ := parameters_demanded validatorPlace_boundless hnode
  refine ⟨⟨validatorPlace_boundless, hnode⟩, hrange.2 ⟨rfl, .inl rfl⟩, fun h => ?_⟩
  have htype := (hpattern.1 h).2
  simp [Members.get?_cons] at htype

/-- A validator that does not say its type is told to have a range. -/
theorem untyped_validator_asked_for_range :
    ¬ ∀ (value : Json) (place : Pointer) (members : Members), Schema.ValidatorPlace place →
      value.node? place = some (.obj members) →
        (⟨place, .missing "range"⟩ ∈ Schema.violations Schema.document value ↔
          Members.get? members "type" = some (.str "number") ∧ Members.get? members "range" = none) := by
  intro h
  have hnode : bareDocument.node? untypedPlace = some (.obj [("errorMsg", .str "No.")]) := rfl
  have hreported : ⟨untypedPlace, .missing "range"⟩ ∈ Schema.violations Schema.document bareDocument :=
    List.mem_of_getElem? (show (Schema.violations Schema.document bareDocument)[0]? = _ from rfl)
  have htype := ((h _ _ _ validatorPlace_untyped hnode).1 hreported).1
  simp [Members.get?_cons] at htype

end AddonConfig
