import AddonConfig.Proofs.SortedMembers
import AddonConfig.Schema.Basic

/-!
# What a schema finds wrong

`Schema.Conforms` says without places which values a schema has nothing against, one clause a kind of
schema (`violationsAt_eq_nil`), and `mem_violationsAt_*` say where the violations in a collection come from.
-/

namespace AddonConfig.Schema
variable {item schema : Schema} {declared : List (String × Schema)} {required : List String}
  {conditions : List Condition} {place : Pointer} {value : Json} {members : Members} {violation : Violation}

/-! ### Where violations come from -/

theorem mem_complain {complaints : List Complaint} :
    violation ∈ complain place complaints ↔ violation.place = place ∧ violation.complaint ∈ complaints := by
  obtain ⟨at_, complaint⟩ := violation
  rw [complain, List.mem_map]
  constructor
  · rintro ⟨c, hc, h⟩
    cases h
    exact ⟨rfl, hc⟩
  · rintro ⟨rfl, hc⟩
    exact ⟨complaint, hc, rfl⟩

theorem complain_eq_nil {complaints : List Complaint} : complain place complaints = [] ↔ complaints = [] :=
  List.map_eq_nil_iff

theorem mem_missing {names : List String} {complaint : Complaint} :
    complaint ∈ missing names members ↔
      ∃ name ∈ names, Members.get? members name = none ∧ complaint = .missing name := by
  rw [missing, List.mem_map]
  constructor
  · rintro ⟨name, hname, rfl⟩
    obtain ⟨hmem, hnone⟩ := List.mem_filter.1 hname
    exact ⟨name, hmem, Option.isNone_iff_eq_none.1 hnone, rfl⟩
  · rintro ⟨name, hmem, hnone, rfl⟩
    exact ⟨name, List.mem_filter.2 ⟨hmem, by rw [hnone]; rfl⟩, rfl⟩

theorem violationsAt_arr (item : Schema) (place : Pointer) (items : List Json) :
    violationsAt (.array item) place (.arr items)
      = items.zipIdx.flatMap fun (value, index) => violationsAt item (place ++ [.item index]) value := by
  rw [violationsAt]

theorem violationsAt_obj (declared : List (String × Schema)) (required : List String)
    (conditions : List Condition) (place : Pointer) (members : Members) :
    violationsAt (.object declared required conditions) place (.obj members)
      = complain place (conditionComplaints conditions members) ++ memberViolations declared place members
        ++ complain place (missing required members) := by
  rw [violationsAt]

theorem mem_violationsAt_arr {items : List Json} :
    violation ∈ violationsAt (.array item) place (.arr items) ↔
      ∃ index value, items[index]? = some value ∧ violation ∈ violationsAt item (place ++ [.item index]) value := by
  rw [violationsAt_arr, List.mem_flatMap]
  constructor
  · rintro ⟨⟨value, index⟩, hmem, h⟩
    exact ⟨index, value, List.mem_zipIdx_iff_getElem?.1 hmem, h⟩
  · rintro ⟨index, value, hget, h⟩
    exact ⟨(value, index), List.mem_zipIdx_iff_getElem?.2 hget, h⟩

theorem mem_memberViolations :
    violation ∈ memberViolations declared place members ↔
      ∃ name schema value, (name, schema) ∈ declared ∧ Members.get? members name = some value ∧
        violation ∈ violationsAt schema (place ++ [.member name]) value := by
  induction declared with
  | nil => simp [memberViolations]
  | cons entry rest ih =>
    obtain ⟨name, schema⟩ := entry
    rw [memberViolations, List.mem_append, ih]
    constructor
    · rintro (h | ⟨other, s, value, hmem, h⟩)
      · cases hget : Members.get? members name with
        | none => rw [hget] at h; cases h
        | some value => rw [hget] at h; exact ⟨name, schema, value, List.mem_cons_self, hget, h⟩
      · exact ⟨other, s, value, List.mem_cons_of_mem _ hmem, h⟩
    · rintro ⟨other, s, value, hmem, hget, h⟩
      rcases List.mem_cons.1 hmem with heq | hmem
      · cases heq
        rw [hget]
        exact .inl h
      · exact .inr ⟨other, s, value, hmem, hget, h⟩

theorem mem_violationsAt_obj :
    violation ∈ violationsAt (.object declared required conditions) place (.obj members) ↔
      (violation.place = place ∧ violation.complaint ∈ conditionComplaints conditions members) ∨
      (∃ name schema value, (name, schema) ∈ declared ∧ Members.get? members name = some value ∧
        violation ∈ violationsAt schema (place ++ [.member name]) value) ∨
      (violation.place = place ∧ violation.complaint ∈ missing required members) := by
  rw [violationsAt_obj, List.mem_append, List.mem_append, mem_complain, mem_complain, mem_memberViolations,
    or_assoc]

/-- A text can only be refused as no word. -/
theorem mem_violationsAt_word {text : String} :
    violation ∈ violationsAt .word place (.str text) ↔
      violation = ⟨place, .notWord (.str text)⟩ ∧ isWord text = false := by
  have hscalar : violationsAt .word place (.str text) = complain place (scalarComplaints .word (.str text)) := by
    rw [violationsAt] <;> simp
  rw [hscalar]
  cases h : isWord text <;> simp [scalarComplaints, wordComplaint, kindComplaint, ValueKind.holds, h, complain]

/-- A text can only be refused as none of those to choose from. -/
theorem mem_violationsAt_choice {allowed : List String} {text : String} :
    violation ∈ violationsAt (.choice allowed) place (.str text) ↔
      violation = ⟨place, .notAllowed (.str text) allowed⟩ ∧ text ∉ allowed := by
  have hscalar : violationsAt (.choice allowed) place (.str text)
      = complain place (scalarComplaints (.choice allowed) (.str text)) := by
    rw [violationsAt] <;> simp
  rw [hscalar]
  by_cases h : text ∈ allowed <;>
    simp [scalarComplaints, choiceComplaint, kindComplaint, ValueKind.holds, h, complain]

/-! ### Values without violations -/

mutual

/-- The schema has nothing against the value. -/
def Conforms : Schema → Json → Prop
  | .array item, .arr items => ∀ value ∈ items, Conforms item value
  | .object declared required conditions, .obj members =>
      conditionComplaints conditions members = [] ∧ ConformMembers declared members
        ∧ ∀ name ∈ required, (Members.get? members name).isSome
  | schema, value => scalarComplaints schema value = []

/-- The schema of a declared member has nothing against its value. -/
def ConformMembers : List (String × Schema) → Members → Prop
  | [], _ => True
  | (name, schema) :: rest, members =>
      (∀ value, Members.get? members name = some value → Conforms schema value) ∧ ConformMembers rest members

end

theorem conformMembers_iff :
    ConformMembers declared members ↔
      ∀ name schema, (name, schema) ∈ declared →
        ∀ value, Members.get? members name = some value → Conforms schema value := by
  induction declared with
  | nil => simp [ConformMembers]
  | cons entry rest ih =>
    obtain ⟨name, schema⟩ := entry
    rw [ConformMembers, ih]
    constructor
    · rintro ⟨h, hrest⟩ other s hmem
      rcases List.mem_cons.1 hmem with heq | hmem
      · cases heq; exact h
      · exact hrest other s hmem
    · exact fun h => ⟨h name schema List.mem_cons_self,
        fun other s hmem => h other s (List.mem_cons_of_mem _ hmem)⟩

theorem missing_eq_nil {names : List String} :
    missing names members = [] ↔ ∀ name ∈ names, (Members.get? members name).isSome := by
  rw [missing, List.map_eq_nil_iff, List.filter_eq_nil_iff]
  simp only [Option.isNone_iff_eq_none, Option.isSome_iff_ne_none, ne_eq]

mutual

/-- There are no violations exactly if the value conforms, wherever it stands. -/
theorem violationsAt_eq_nil : ∀ (schema : Schema) (place : Pointer) (value : Json),
    violationsAt schema place value = [] ↔ Conforms schema value
  | .array item, place, .arr items => by
    rw [violationsAt_arr, List.flatMap_eq_nil_iff, Conforms]
    constructor
    · intro h value hmem
      obtain ⟨index, hget⟩ := List.mem_iff_getElem?.1 hmem
      exact (violationsAt_eq_nil item _ value).1 (h (value, index) (List.mem_zipIdx_iff_getElem?.2 hget))
    · rintro h ⟨value, index⟩ hmem
      exact (violationsAt_eq_nil item _ value).2 (h value (List.mem_of_getElem? (List.mem_zipIdx_iff_getElem?.1 hmem)))
  | .object declared required conditions, place, .obj members => by
    rw [violationsAt_obj, List.append_eq_nil_iff, List.append_eq_nil_iff, complain_eq_nil, complain_eq_nil,
      memberViolations_eq_nil declared place members, missing_eq_nil, Conforms, and_assoc]
  | .string, _, _ | .word, _, _ | .choice _, _, _ | .boolean, _, _ | .integer, _, _ | .natural, _, _
  | .number, _, _ | .scalar, _, _
  | .array _, _, .null | .array _, _, .bool _ | .array _, _, .num _ | .array _, _, .str _ | .array _, _, .obj _
  | .object .., _, .null | .object .., _, .bool _ | .object .., _, .num _ | .object .., _, .str _
  | .object .., _, .arr _ => by
    rw [violationsAt, Conforms, complain_eq_nil] <;> simp

theorem memberViolations_eq_nil : ∀ (declared : List (String × Schema)) (place : Pointer) (members : Members),
    memberViolations declared place members = [] ↔ ConformMembers declared members
  | [], _, _ => by simp [memberViolations, ConformMembers]
  | (name, schema) :: rest, place, members => by
    rw [memberViolations, List.append_eq_nil_iff, memberViolations_eq_nil rest place members, ConformMembers]
    cases Members.get? members name with
    | none => simp
    | some value => simp [violationsAt_eq_nil schema _ value]

end

theorem violations_eq_nil (schema : Schema) (value : Json) : violations schema value = [] ↔ Conforms schema value :=
  violationsAt_eq_nil schema [] value

/-! ### What conforms to each kind of schema -/

theorem kindComplaint_eq_nil {kinds : List ValueKind} :
    kindComplaint kinds value = [] ↔ ∃ kind ∈ kinds, kind.holds value = true := by
  unfold kindComplaint
  split_ifs with h
  · simpa using h
  · simpa using h

theorem conforms_string : Conforms .string value ↔ ∃ text, value = .str text := by
  cases value <;> simp [Conforms, scalarComplaints, kindComplaint_eq_nil, ValueKind.holds]

theorem conforms_boolean : Conforms .boolean value ↔ ∃ flag, value = .bool flag := by
  cases value <;> simp [Conforms, scalarComplaints, kindComplaint_eq_nil, ValueKind.holds]

theorem conforms_number : Conforms .number value ↔ ∃ number, value = .num number := by
  cases value <;> simp [Conforms, scalarComplaints, kindComplaint_eq_nil, ValueKind.holds]

theorem conforms_word : Conforms .word value ↔ ∃ text, value = .str text ∧ isWord text = true := by
  cases value <;> simp [Conforms, scalarComplaints, kindComplaint_eq_nil, ValueKind.holds, wordComplaint]

theorem conforms_choice {allowed : List String} :
    Conforms (.choice allowed) value ↔ ∃ text ∈ allowed, value = .str text := by
  cases value <;> simp [Conforms, scalarComplaints, kindComplaint_eq_nil, ValueKind.holds, choiceComplaint]

theorem conforms_integer_int (n : Int) : Conforms .integer (.num (.int n)) := by
  simp [Conforms, scalarComplaints, kindComplaint_eq_nil, ValueKind.holds]

theorem conforms_natural_int {n : Int} (h : 0 ≤ n) : Conforms .natural (.num (.int n)) := by
  simpa [Conforms, scalarComplaints, kindComplaint_eq_nil, ValueKind.holds, naturalComplaint, isNegative] using h

theorem conforms_scalar :
    Conforms .scalar value ↔
      (∃ text, value = .str text) ∨ (∃ number, value = .num number) ∨ ∃ flag, value = .bool flag := by
  cases value <;> simp [Conforms, scalarComplaints, kindComplaint_eq_nil, ValueKind.holds]

theorem conforms_array : Conforms (.array item) value ↔
    ∃ items, value = .arr items ∧ ∀ value ∈ items, Conforms item value := by
  cases value <;> simp [Conforms, scalarComplaints, kindComplaint_eq_nil, ValueKind.holds]

theorem conforms_object : Conforms (.object declared required conditions) value ↔
    ∃ members, value = .obj members ∧ conditionComplaints conditions members = [] ∧
      (∀ name schema, (name, schema) ∈ declared →
        ∀ value, Members.get? members name = some value → Conforms schema value) ∧
      ∀ name ∈ required, (Members.get? members name).isSome := by
  cases value <;> simp [Conforms, scalarComplaints, kindComplaint_eq_nil, ValueKind.holds, conformMembers_iff]

theorem conforms_member (h : Conforms (.object declared required conditions) (.obj members)) {name : String}
    (hschema : (name, schema) ∈ declared) (hget : Members.get? members name = some value) :
    Conforms schema value := by
  rw [Conforms, conformMembers_iff] at h
  exact h.2.1 name schema hschema value hget

end AddonConfig.Schema
