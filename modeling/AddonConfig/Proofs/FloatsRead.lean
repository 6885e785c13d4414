import AddonConfig.Model.Shape
import AddonConfig.Proofs.SortedMembers

/-!
# Floating point numbers that are read

Every floating point number in a value that is read from YAML stands in the text as a scalar. So what holds of all
numbers that scalars write holds of all numbers of the value (`Yaml.Shape.floats_of_text`), whatever shape is
expected and whatever aliases are followed on the way. `Reading.Ensures` says what a reading gives if it gives
something.
-/

namespace AddonConfig

/-! ### Numbers in a value -/

/-- Every floating point number in the value is of a kind. -/
inductive Json.Floats (p : Binary64 → Prop) : Json → Prop
  | null : Floats p .null
  | bool (value : Bool) : Floats p (.bool value)
  | int (value : Int) : Floats p (.num (.int value))
  | float {value : Binary64} (h : p value) : Floats p (.num (.float value))
  | str (value : String) : Floats p (.str value)
  | arr {items : List Json} (h : ∀ item ∈ items, Floats p item) : Floats p (.arr items)
  | obj {members : Members} (h : ∀ entry ∈ members, Floats p entry.2) : Floats p (.obj members)

theorem Json.Floats.ofMembers {p : Binary64 → Prop} {entries : Members} (h : ∀ entry ∈ entries, entry.2.Floats p) :
    (Json.ofMembers entries).Floats p := by
  refine .obj ?_
  induction entries using List.reverseRecOn with
  | nil => intro entry hentry; cases hentry
  | append_singleton entries last ih =>
    rw [Members.ofList, List.foldl_append]
    intro entry hentry
    rcases Members.mem_insert hentry with rfl | hentry
    · exact h last (List.mem_append_right _ (List.mem_singleton_self _))
    · exact ih (fun entry hentry => h entry (List.mem_append_left _ hentry)) entry hentry

namespace Yaml

/-! ### Readings -/

/-- Whatever the reading gives, it has the property. -/
def Reading.Ensures {α : Type} (reading : Reading α) (p : α → Prop) : Prop :=
  ∀ left a rest, reading.run left = some (a, rest) → p a

namespace Reading.Ensures
variable {α β : Type} {p : α → Prop} {q : β → Prop} {reading : Reading α}

theorem pure {a : α} (h : p a) : Ensures (Pure.pure a) p := by
  rintro left _ rest ⟨⟩
  exact h

theorem failure : Ensures (failure : Reading α) p := by
  rintro left a rest ⟨⟩

/-- Any reading ensures nothing. -/
theorem any (reading : Reading α) : reading.Ensures fun _ => True := fun _ _ _ _ => trivial

theorem bind {f : α → Reading β} (h : reading.Ensures p) (hf : ∀ a, p a → (f a).Ensures q) :
    (reading >>= f).Ensures q := by
  intro left b rest hrun
  obtain ⟨⟨a, middle⟩, hfirst, hrun⟩ := Option.bind_eq_some_iff.1 hrun
  exact hf a (h left a middle hfirst) middle b rest hrun

theorem lift {o : Option α} (h : ∀ a, o = some a → p a) : Ensures (liftM o) p := by
  intro left a rest hrun
  obtain ⟨b, hb, hrun⟩ := Option.bind_eq_some_iff.1 hrun
  cases hrun
  exact h _ hb

theorem map {f : α → β} (h : reading.Ensures p) (hf : ∀ a, p a → q (f a)) : (f <$> reading).Ensures q := by
  rw [map_eq_pure_bind]
  exact h.bind fun a ha => .pure (hf a ha)

theorem ite {c : Prop} [Decidable c] {first second : Reading α} (hfirst : first.Ensures p)
    (hsecond : second.Ensures p) : (if c then first else second).Ensures p := by
  split
  · exact hfirst
  · exact hsecond

/-- Nothing is given after a failure. -/
theorem failure_bind {f : β → Reading α} : Ensures (Alternative.failure >>= f) p := by
  rintro left a rest ⟨⟩

theorem mapM {f : β → Reading α} {items : List β} (h : ∀ item ∈ items, (f item).Ensures p) :
    (items.mapM f).Ensures fun results => ∀ result ∈ results, p result := by
  induction items with
  | nil =>
    rw [List.mapM_nil]
    exact .pure (by simp)
  | cons item rest ih =>
    rw [List.mapM_cons]
    refine (h item List.mem_cons_self).bind fun a ha => ?_
    refine (ih fun item hitem => h item (List.mem_cons_of_mem _ hitem)).bind fun results hresults => .pure ?_
    exact List.forall_mem_cons.2 ⟨ha, hresults⟩

end Reading.Ensures

/-! ### Scalars and values of no expected shape -/

section
variable {p : Binary64 → Prop} (written : ∀ text x, floatOf? text = some x → p x)

/-- Every floating point number in the value is of a kind, those in keys apart. -/
inductive Untyped.Floats (p : Binary64 → Prop) : Untyped → Prop
  | scalar {datum : Datum} (h : ∀ x, datum = .float x → p x) : Floats p (.scalar datum)
  | sequence {items : List Untyped} (h : ∀ item ∈ items, Floats p item) : Floats p (.sequence items)
  | mapping {entries : List (Untyped × Untyped)} (h : ∀ entry ∈ entries, Floats p entry.2) :
      Floats p (.mapping entries)

theorem Datum.floats_toJson {datum : Datum} (h : ∀ x, datum = .float x → p x) : datum.toJson.Floats p := by
  cases datum with
  | null => exact .null
  | bool value => exact .bool value
  | int value => exact .int value
  | float value => exact .float (h value rfl)
  | text value => exact .str value

mutual

theorem Untyped.floats_toJson : ∀ {value : Untyped} {json : Json}, value.Floats p → value.toJson? = some json →
    json.Floats p
  | .scalar datum, _, h, rfl => by
    cases h with
    | scalar h => exact Datum.floats_toJson h
  | .sequence items, json, h, hjson => by
    obtain ⟨values, hvalues, rfl⟩ := Option.map_eq_some_iff.1 hjson
    cases h with
    | sequence h => exact .arr (Untyped.floats_itemsToJson h hvalues)
  | .mapping entries, json, h, hjson => by
    obtain ⟨members, hmembers, rfl⟩ := Option.map_eq_some_iff.1 hjson
    cases h with
    | mapping h => exact .ofMembers (Untyped.floats_entriesToJson h hmembers)

theorem Untyped.floats_itemsToJson : ∀ {items : List Untyped} {values : List Json}, (∀ item ∈ items, item.Floats p) →
    itemsToJson? items = some values → ∀ value ∈ values, value.Floats p
  | [], _, _, rfl => by simp
  | item :: rest, values, h, hvalues => by
    obtain ⟨first, hfirst, hvalues⟩ := Option.bind_eq_some_iff.1 hvalues
    obtain ⟨others, hothers, hvalues⟩ := Option.bind_eq_some_iff.1 hvalues
    cases hvalues
    rw [List.forall_mem_cons] at h ⊢
    exact ⟨Untyped.floats_toJson h.1 hfirst, Untyped.floats_itemsToJson h.2 hothers⟩

theorem Untyped.floats_entriesToJson : ∀ {entries : List (Untyped × Untyped)} {members : List (String × Json)},
    (∀ entry ∈ entries, entry.2.Floats p) → entriesToJson? entries = some members →
      ∀ entry ∈ members, entry.2.Floats p
  | [], _, _, rfl => by simp
  | (key, value) :: rest, members, h, hmembers => by
    cases key with
    | scalar datum =>
      cases datum with
      | text name =>
        obtain ⟨first, hfirst, hmembers⟩ := Option.bind_eq_some_iff.1 hmembers
        obtain ⟨others, hothers, hmembers⟩ := Option.bind_eq_some_iff.1 hmembers
        cases hmembers
        rw [List.forall_mem_cons] at h ⊢
        exact ⟨Untyped.floats_toJson h.1 hfirst, Untyped.floats_entriesToJson h.2 hothers⟩
      | _ => cases hmembers
    | _ => cases hmembers

end

include written

theorem float_of_ofPlain {text : String} {x : Binary64} (h : Datum.ofPlain text = .float x) : p x := by
  unfold Datum.ofPlain at h
  dsimp only at h
  repeat' split at h
  all_goals cases h
  exact written _ _ ‹_›

theorem float_of_plainDatum {text : String} {x : Binary64} (h : plainDatum? text = some (.float x)) : p x := by
  unfold plainDatum? at h
  dsimp only at h
  split_ifs at h
  exact float_of_ofPlain written (Option.some.inj h)

theorem float_of_datum {tag : Option String} {style : ScalarStyle} {text : String} {x : Binary64}
    (h : datum? tag style text = some (.float x)) : p x := by
  unfold datum? at h
  cases tag with
  | none =>
    dsimp only at h
    split_ifs at h
    · exact float_of_plainDatum written h
    · cases h
  | some name =>
    dsimp only at h
    split_ifs at h
    -- of the tags only the one for floating point numbers gives one
    all_goals simp at h
    exact written _ _ h

theorem Untyped.scalar_floats (tag : Option String) (style : ScalarStyle) (text : String) :
    Reading.Ensures (scalar <$> liftM (datum? tag style text)) (Untyped.Floats p) := by
  refine Reading.Ensures.map (.lift fun datum hdatum => ?_) fun datum h => .scalar h
  rintro x rfl
  exact float_of_datum written hdatum

theorem Untyped.read_floats (namedKeys : Bool) (targets : Targets) (levels : Nat) (node : Linked) :
    (read namedKeys targets levels node).Ensures (Untyped.Floats p) := by
  induction levels generalizing node with
  | zero =>
    unfold read
    refine (Reading.Ensures.any _).bind fun found _ => ?_
    match found with
    | .scalar tag style text => exact scalar_floats written tag style text
    | .sequence tag items => exact .failure
    | .mapping tag entries => exact .failure
    | .alias number => exact .failure
  | succ levels ih =>
    unfold read
    refine (Reading.Ensures.any _).bind fun found _ => ?_
    match found with
    | .scalar tag style text => exact scalar_floats written tag style text
    | .sequence tag items =>
      refine .ite .failure_bind ?_
      exact (Reading.Ensures.mapM fun item _ => ih item).map fun results h => .sequence h
    | .mapping tag entries =>
      refine .ite .failure_bind ?_
      refine Reading.Ensures.map (p := fun entries => ∀ entry ∈ entries, entry.2.Floats p) (.mapM fun entry _ => ?_)
        fun results h => .mapping h
      refine .ite ?_ ?_
      · exact (Reading.Ensures.any _).bind fun key _ => (ih entry.2).bind fun value h => .pure h
      · exact (Reading.Ensures.any _).bind fun key _ => (ih entry.2).bind fun value h => .pure h
    | .alias number => exact .failure

/-! ### Values of an expected shape -/

theorem Untyped.readJson_floats (namedKeys : Bool) (targets : Targets) (levels : Nat) (node : Linked) :
    Reading.Ensures (do (← read namedKeys targets levels node).toJson?) (Json.Floats p) :=
  (read_floats written namedKeys targets levels node).bind fun _ hvalue => .lift fun _ hjson =>
    Untyped.floats_toJson hvalue hjson

theorem primitive_floats {tag : Option String} {style : ScalarStyle} {text : String} {datum : Datum} {json : Json}
    (hdatum : datum? tag style text = some datum) (h : primitive? datum = some json) : json.Floats p := by
  have hfloats : datum.toJson.Floats p := Datum.floats_toJson fun x hx => float_of_datum written (hx ▸ hdatum)
  cases datum with
  | null => cases h
  | float value =>
    rw [primitive?] at h
    split_ifs at h
    cases h
    exact hfloats
  | bool value | int value | text value =>
    cases h
    exact hfloats

omit written in
theorem readMembers_floats {targets : Targets} {fields : List (String × Shape)} {field : Shape → Linked → Reading Json}
    {other : Option (Linked → Reading Json)} (hfield : ∀ shape node, (field shape node).Ensures (Json.Floats p))
    (hother : ∀ read, other = some read → ∀ node, (read node).Ensures (Json.Floats p)) (seen : List String)
    (entries : List (Linked × Linked)) :
    (readMembers targets fields field other seen entries).Ensures fun members =>
      ∀ entry ∈ members, entry.2.Floats p := by
  induction entries generalizing seen with
  | nil => exact .pure (by simp)
  | cons entry rest ih =>
    unfold readMembers
    refine (Reading.Ensures.any _).bind fun name _ => ?_
    cases fields.lookup name with
    | some shape =>
      dsimp only
      refine .ite .failure_bind ?_
      refine (hfield shape entry.2).bind fun value hvalue => (ih (name :: seen)).bind fun members hmembers => .pure ?_
      exact List.forall_mem_cons.2 ⟨hvalue, hmembers⟩
    | none =>
      cases other with
      | none => exact ih seen
      | some read =>
        refine (hother read rfl entry.2).bind fun value hvalue => (ih seen).bind fun members hmembers => .pure ?_
        exact List.forall_mem_cons.2 ⟨hvalue, hmembers⟩

omit written in
theorem readTagged_floats {targets : Targets} {tagName : String} {untyped : Linked → Reading Untyped}
    (huntyped : ∀ node, (untyped node).Ensures (Untyped.Floats p)) (entries : List (Linked × Linked)) :
    (readTagged targets tagName untyped entries).Ensures fun found => ∀ entry ∈ found.2, entry.2.Floats p := by
  induction entries with
  | nil => exact .pure (by simp)
  | cons entry rest ih =>
    have hother (key : Untyped) : Reading.Ensures (do
        let value ← untyped entry.2
        let found ← readTagged targets tagName untyped rest
        return (found.1, (key, value) :: found.2)) fun found => ∀ entry ∈ found.2, entry.2.Floats p :=
      (huntyped entry.2).bind fun value hvalue => ih.bind fun found hfound => .pure <|
        List.forall_mem_cons.2 ⟨hvalue, hfound⟩
    unfold readTagged
    refine (Reading.Ensures.any _).bind fun key _ => ?_
    cases key with
    | scalar datum =>
      cases datum with
      | text name =>
        refine .ite ?_ (hother _)
        refine (Reading.Ensures.any _).bind fun tag _ => ih.bind fun found hfound => .ite .failure (.pure hfound)
      | _ => exact hother _
    | _ => exact hother _

omit written in
/-- An entry adds its value, by the name of a parameter, or nothing. -/
theorem parametersOf_cons {names : List String} {key value : Untyped} {rest : List (Untyped × Untyped)}
    {members : Members} (h : parametersOf? names ((key, value) :: rest) = some members) :
    ∃ others, parametersOf? names rest = some others ∧
      (members = others ∨ ∃ name json, value.toJson? = some json ∧ members = (name, json) :: others) := by
  unfold parametersOf? at h
  extract_lets named at h
  obtain ⟨name, h⟩ : ∃ name, named name = some members := by
    split at h
    · exact ⟨some _, h⟩
    · split_ifs at h
      · cases h
      · exact ⟨names[_]?, h⟩
    · cases h
  obtain ⟨others, hothers, h⟩ := Option.bind_eq_some_iff.1 h
  refine ⟨others, hothers, ?_⟩
  cases name with
  | none =>
    cases h
    exact .inl rfl
  | some name =>
    dsimp only at h
    split_ifs at h
    · cases h
      exact .inl rfl
    · obtain ⟨json, hjson, h⟩ := Option.bind_eq_some_iff.1 h
      cases h
      exact .inr ⟨name, json, hjson, rfl⟩

omit written in
theorem parametersOf_floats {names : List String} {entries : List (Untyped × Untyped)} {members : Members}
    (h : ∀ entry ∈ entries, entry.2.Floats p) (hmembers : parametersOf? names entries = some members) :
    ∀ entry ∈ members, entry.2.Floats p := by
  induction entries generalizing members with
  | nil =>
    cases hmembers
    simp
  | cons entry rest ih =>
    rw [List.forall_mem_cons] at h
    obtain ⟨others, hothers, rfl | ⟨name, json, hjson, rfl⟩⟩ := parametersOf_cons hmembers
    · exact ih h.2 hothers
    · exact List.forall_mem_cons.2 ⟨Untyped.floats_toJson h.1 hjson, ih h.2 hothers⟩

theorem Shape.readNode_floats {targets : Targets} {levels : Nat} {part : Option (Shape → Linked → Reading Json)}
    (hpart : ∀ read, part = some read → ∀ shape node, (read shape node).Ensures (Json.Floats p)) (shape : Shape)
    (node : Linked) : (shape.readNode targets levels part node).Ensures (Json.Floats p) := by
  fun_induction Shape.readNode targets levels part shape node with
  -- a text, a flag or an integer
  | case1 | case8 | case10 => exact .pure (.str _)
  | case2 => exact (Reading.Ensures.any _).map fun value _ => .bool value
  | case4 =>
    refine Reading.Ensures.map (p := fun number => ∃ value, number = Number.int value) ?_ fun number hnumber => ?_
    · exact (Reading.Ensures.any _).map fun value _ => ⟨value, rfl⟩
    · obtain ⟨value, rfl⟩ := hnumber
      exact .int value
  -- a value of any kind
  | case6 => exact Reading.Ensures.bind (.lift fun _ h => h) fun datum hdatum => .lift fun _ h =>
      primitive_floats written hdatum h
  | case7 => exact Untyped.readJson_floats written true targets levels _
  | case11 shape node ih => exact (Reading.Ensures.any _).bind fun _ _ => .ite (.pure .null) ih
  -- the items of a list
  | case12 item tag items =>
    refine Reading.Ensures.bind (.lift fun _ h => h) fun read hread => ?_
    exact (Reading.Ensures.mapM fun node _ => hpart read hread item node).map fun _ h => .arr h
  | case13 => exact .pure (.arr (by simp))
  -- the members of a record
  | case15 fields tag entries =>
    refine Reading.Ensures.bind (.lift fun _ h => h) fun read hread => ?_
    exact (readMembers_floats (hpart read hread) (by simp) [] entries).map fun _ h => .ofMembers h
  | case18 fields tag entries =>
    refine Reading.Ensures.bind (.lift fun _ h => h) fun read hread => ?_
    refine (readMembers_floats (hpart read hread) ?_ [] entries).map fun _ h => .ofMembers h
    rintro _ ⟨⟩ node
    exact Untyped.readJson_floats written false targets (levels - 1) node
  | case16 | case19 => exact .pure (.obj (by simp))
  -- the parameters that go with a tag
  | case21 | case23 => exact .failure_bind
  | case22 name parameters tag entries =>
    refine (readTagged_floats (Untyped.read_floats written false targets (levels - 1)) entries).bind ?_
    rintro ⟨found, others⟩ hothers
    refine (Reading.Ensures.any _).bind fun kind _ => ?_
    split
    · refine Reading.Ensures.bind (.lift fun _ h => h) fun members hmembers => .pure (.ofMembers ?_)
      exact List.forall_mem_cons.2 ⟨.str kind, parametersOf_floats hothers hmembers⟩
    · exact .pure (.obj (by simp [Json.Floats.str]))
  | case24 name parameters tag first items =>
    refine (Reading.Ensures.any _).bind fun kind _ => ?_
    refine (Reading.Ensures.mapM fun node _ => Untyped.read_floats written false targets (levels - 1) node).bind ?_
    intro values hvalues
    refine Reading.Ensures.bind (.lift fun _ h => h) fun jsons hjsons => .pure (.arr ?_)
    exact List.forall_mem_cons.2 ⟨.str kind, Untyped.floats_itemsToJson hvalues hjsons⟩
  | _ => exact .failure

theorem Shape.read_floats (targets : Targets) (levels : Nat) (shape : Shape) (node : Linked) :
    (read targets levels shape node).Ensures (Json.Floats p) := by
  induction levels generalizing shape node with
  | zero => exact (Reading.Ensures.any _).bind fun node _ => readNode_floats written (by simp) shape node
  | succ levels ih =>
    refine (Reading.Ensures.any _).bind fun node _ => readNode_floats written ?_ shape node
    rintro _ ⟨⟩ shape node
    exact ih shape node

/-- What holds of the numbers that scalars write holds of all numbers in the value of a text. -/
theorem Shape.floats_of_text {shape : Shape} {text : String} {value : Json} (h : shape.ofText? text = some value) :
    value.Floats p := by
  obtain ⟨root, -, h⟩ := Option.bind_eq_some_iff.1 h
  obtain ⟨⟨linked, targets⟩, -, h⟩ := Option.bind_eq_some_iff.1 h
  obtain ⟨⟨_, left⟩, hread, h⟩ := Option.bind_eq_some_iff.1 h
  cases h
  exact read_floats written targets levelLimit shape linked _ _ _ hread

end

end Yaml

end AddonConfig
