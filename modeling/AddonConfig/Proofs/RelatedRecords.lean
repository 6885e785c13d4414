import AddonConfig.Proofs.SchemaGuard

/-!
# Two runs of a record

A record is read twice, from values that are related member by member, or by decoders of which one stands in for
the other. `Record.Alike` says of two records that they read related values of every member alike; then both give
the same result or the same error, from objects and from arrays. A member that is not declared is passed over, and
the depth to which choices are read makes no difference to a choice that is less deep.
-/

namespace AddonConfig

/-! ### Lists and optional values -/

namespace Decoder
variable {α : Type} {decode item other : Decoder α} {value changed : Json}

theorem list_congr {items : List Json} (h : ∀ value ∈ items, other value = item value) :
    other.list (.arr items) = item.list (.arr items) := by
  induction items with
  | nil => rfl
  | cons first rest ih =>
    have hrest := ih fun value hvalue => h value (List.mem_cons_of_mem _ hvalue)
    rw [list_arr, list_arr] at hrest ⊢
    rw [List.mapM_cons, List.mapM_cons, h first List.mem_cons_self, hrest]

theorem list_of_one (h : item changed = item value) (front back : List Json) :
    item.list (.arr (front ++ changed :: back)) = item.list (.arr (front ++ value :: back)) := by
  rw [list_arr, list_arr, List.mapM_append, List.mapM_append, List.mapM_cons, List.mapM_cons, h]

theorem option_congr (hnull : changed = .null ↔ value = .null) (h : decode changed = decode value) :
    decode.option changed = decode.option value := by
  by_cases hvalue : value = .null
  · rw [hvalue, hnull.2 hvalue]
  · rw [option_of_ne_null hvalue, option_of_ne_null (mt hnull.1 hvalue), h]

end Decoder

/-! ### Records that read related values alike -/

section
variable {α : Type} {R : α → α → Prop}

theorem isSome_of_rel {found changed : Option α} (h : Option.Rel R found changed) :
    changed.isSome = found.isSome := by
  cases h <;> rfl

theorem rel_self (hrefl : ∀ a, R a a) (found : Option α) : Option.Rel R found found := by
  cases found with
  | none => exact .none
  | some a => exact .some (hrefl a)

/-- Of two lists that differ in one item the items are related if these two are. -/
theorem rel_getElem? (hrefl : ∀ a, R a a) {front : List α} {a b : α} {index : Nat}
    (h : index = front.length → R a b) (back : List α) :
    Option.Rel R (front ++ a :: back)[index]? (front ++ b :: back)[index]? := by
  rcases lt_trichotomy index front.length with hlt | heq | hgt
  · rw [List.getElem?_append_left hlt, List.getElem?_append_left hlt]
    exact rel_self hrefl _
  · rw [heq, List.getElem?_append_right le_rfl, List.getElem?_append_right le_rfl, Nat.sub_self]
    exact .some (h heq)
  · obtain ⟨beyond, rfl⟩ := Nat.exists_eq_add_of_lt hgt
    rw [List.getElem?_append_right (by omega), List.getElem?_append_right (by omega)]
    have hbeyond : front.length + beyond + 1 - front.length = beyond + 1 := by omega
    rw [hbeyond, List.getElem?_cons_succ, List.getElem?_cons_succ]
    exact rel_self hrefl _

end

namespace Members

/-- Members of the same names, with related values. -/
def Related (related : String → Json → Json → Prop) : Members → Members → Prop :=
  List.Forall₂ fun entry changed => changed.1 = entry.1 ∧ related entry.1 entry.2 changed.2

variable {related : String → Json → Json → Prop} {members changed : Members}

theorem Related.names_eq (h : Related related members changed) : changed.map (·.1) = members.map (·.1) := by
  induction h with
  | nil => rfl
  | cons hentry _ ih => rw [List.map_cons, List.map_cons, hentry.1, ih]

theorem Related.get? (h : Related related members changed) (name : String) :
    Option.Rel (related name) (Members.get? members name) (Members.get? changed name) := by
  induction h with
  | nil => exact .none
  | @cons entry other _ _ hentry _ ih =>
    rw [get?_cons, get?_cons, hentry.1]
    split_ifs with hname
    · subst hname
      exact .some hentry.2
    · exact ih

theorem Related.of_one (hrefl : ∀ name value, related name value value) {name : String} {value other : Json}
    (h : related name value other) (before after : Members) :
    Related related (before ++ (name, value) :: after) (before ++ (name, other) :: after) := by
  have hsame : ∀ entries : Members, Related related entries entries := fun entries =>
    List.forall₂_same.2 fun entry _ => ⟨rfl, hrefl entry.1 entry.2⟩
  exact List.rel_append (hsame before) (.cons ⟨rfl, h⟩ (hsame after))

end Members

namespace Record
variable {α β : Type} {related : String → Json → Json → Prop}

theorem drop_eq_nil {items : List Json} {count : Nat} (h : items[count]? = none) :
    items.drop count = [] ∧ items.drop (count + 1) = [] := by
  have hle := List.getElem?_eq_none_iff.1 h
  exact ⟨List.drop_eq_nil_of_le hle, List.drop_eq_nil_of_le (Nat.le_succ_of_le hle)⟩

theorem drop_eq_cons {items : List Json} {count : Nat} {item : Json} (h : items[count]? = some item) :
    items.drop count = item :: items.drop (count + 1) := by
  obtain ⟨hlt, rfl⟩ := List.getElem?_eq_some_iff.1 h
  exact List.drop_eq_getElem_cons hlt

section
variable {record : Record (α → β)} {field : Field α} {expected : Expected} {items rest : List Json} {build : α → β}

theorem ofItems_and_error {e : DecodeError} (h : record.ofItems expected items = .error e) :
    (record.and field).ofItems expected items = .error e := by
  simp only [Record.and, h, bind, Except.bind]

theorem ofItems_and_cons {item : Json} (h : record.ofItems expected items = .ok (build, item :: rest)) :
    (record.and field).ofItems expected items = (field.decode item).map fun a => (build a, rest) := by
  simp only [Record.and, h, bind, Except.bind]
  cases field.decode item <;> rfl

theorem ofItems_and_nil (h : record.ofItems expected items = .ok (build, [])) :
    (record.and field).ofItems expected items =
      (field.shortArray.elim (.error (.invalidLength record.names.length expected)) fun a => .ok (build a, [])) := by
  simp only [Record.and, h, bind, Except.bind]
  cases field.shortArray <;> rfl

end

/-- Records of the same members that read related values of a member alike. -/
inductive Alike (related : String → Json → Json → Prop) : {α : Type} → Record α → Record α → Prop
  | done {α : Type} (value : α) : Alike related (Record.done value) (Record.done value)
  | and {α β : Type} {record other : Record (α → β)} {name : String} {decode decode' : Decoder α}
      {absent shortArray : Option α} (h : Alike related record other)
      (hdecode : ∀ value changed, related name value changed → decode' changed = decode value) :
      Alike related (record.and ⟨name, decode, absent, shortArray⟩) (other.and ⟨name, decode', absent, shortArray⟩)

namespace Alike
variable {record other : Record α}

theorem declared (h : record.Alike related other) : record.Declared := by
  induction h with
  | done value => exact .done value
  | and _ _ ih => exact .and ih _

theorem names_eq (h : record.Alike related other) : other.names = record.names := by
  induction h with
  | done => rfl
  | and _ _ ih => rw [names_and, names_and, ih]

theorem ofMembers_eq (h : record.Alike related other) {get get' : String → Option Json}
    (hget : ∀ name, Option.Rel (related name) (get name) (get' name)) :
    other.ofMembers get' = record.ofMembers get := by
  induction h with
  | done => rfl
  | @and α β record other name decode decode' absent shortArray _ hdecode ih =>
    rw [ofMembers_and, ofMembers_and, ih]
    have hfound := hget name
    show Reading.and _ _ (get' name) = Reading.and _ _ (get name)
    generalize get name = found, get' name = found' at hfound
    cases hfound with
    | none => rfl
    | some hrelated => simp only [Reading.and, hdecode _ _ hrelated]

/-- The order of the members is the same, and with it the refusal that decides. -/
theorem readMembers_eq (h : record.Alike related other) {members changed : Members}
    (hmembers : Members.Related related members changed) :
    other.readMembers changed = record.readMembers members := by
  have hfirst (refusals : List (String × DecodeError)) :
      changed.findSome? (fun member => refusals.lookup member.1)
        = members.findSome? fun member => refusals.lookup member.1 := by
    have hnames := congrArg (List.findSome? fun name => refusals.lookup name) hmembers.names_eq
    rwa [List.findSome?_map, List.findSome?_map] at hnames
  rw [readMembers, readMembers, h.ofMembers_eq hmembers.get?, Reading.result, Reading.result, hfirst]

/-- Of two arrays both fronts are refused for one reason, or both are read and as much is left over. -/
theorem ofItems_cases (h : record.Alike related other) (expected : Expected) {items changed : List Json}
    (hitems : ∀ (index : Nat) (name : String), record.names[index]? = some name →
      Option.Rel (related name) items[index]? changed[index]?) :
    (∃ e, record.ofItems expected items = .error e ∧ other.ofItems expected changed = .error e) ∨
      ∃ a, record.ofItems expected items = .ok (a, items.drop record.names.length) ∧
        other.ofItems expected changed = .ok (a, changed.drop record.names.length) := by
  induction h with
  | done value => exact .inr ⟨value, rfl, rfl⟩
  | @and α β record other name decode decode' absent shortArray halike hdecode ih =>
    -- the items before the last member are its predecessors'
    have hprior : ∀ (index : Nat) (prior : String), record.names[index]? = some prior →
        Option.Rel (related prior) items[index]? changed[index]? := fun index prior hname =>
      hitems index prior (by rw [names_and, List.getElem?_append_left (List.getElem?_eq_some_iff.1 hname).1, hname])
    have hlast : Option.Rel (related name) items[record.names.length]? changed[record.names.length]? :=
      hitems _ _ (by simp)
    rcases ih hprior with ⟨e, he, he'⟩ | ⟨build, hread, hread'⟩
    · exact .inl ⟨e, ofItems_and_error he, ofItems_and_error he'⟩
    rw [names_and, List.length_append, List.length_singleton]
    generalize hitem : items[record.names.length]? = found,
      hitem' : changed[record.names.length]? = found' at hlast
    cases hlast with
    | none =>
      obtain ⟨hdrop, hrest⟩ := drop_eq_nil hitem
      obtain ⟨hdrop', hrest'⟩ := drop_eq_nil hitem'
      rw [hdrop] at hread
      rw [hdrop'] at hread'
      rw [ofItems_and_nil hread, ofItems_and_nil hread', hrest, hrest', halike.names_eq]
      cases shortArray with
      | none => exact .inl ⟨_, rfl, rfl⟩
      | some a => exact .inr ⟨build a, rfl, rfl⟩
    | @some value value' hrelated =>
      rw [drop_eq_cons hitem] at hread
      rw [drop_eq_cons hitem'] at hread'
      rw [ofItems_and_cons hread, ofItems_and_cons hread']
      have hsame : decode' value' = decode value := hdecode value value' hrelated
      cases hvalue : decode value with
      | error e =>
        rw [hvalue] at hsame
        exact .inl ⟨e, by simp only [hvalue, Except.map], by simp only [hsame, Except.map]⟩
      | ok a =>
        rw [hvalue] at hsame
        exact .inr ⟨build a, by simp only [hvalue, Except.map], by simp only [hsame, Except.map]⟩

theorem decoder_obj (h : record.Alike related other) (title : String) {members changed : Members}
    (hmembers : Members.Related related members changed) :
    other.decoder title (.obj changed) = record.decoder title (.obj members) :=
  h.readMembers_eq hmembers

theorem decoder_arr (h : record.Alike related other) (title : String) {items changed : List Json}
    (hlength : changed.length = items.length)
    (hitems : ∀ (index : Nat) (name : String), record.names[index]? = some name →
      Option.Rel (related name) items[index]? changed[index]?) :
    other.decoder title (.arr changed) = record.decoder title (.arr items) := by
  simp only [decoder, h.names_eq]
  rcases h.ofItems_cases (.itemsOf title record.names.length) hitems with ⟨e, he, he'⟩ | ⟨a, ha, ha'⟩
  · simp only [he, he', bind, Except.bind]
  · have hrest : (changed.drop record.names.length).isEmpty = (items.drop record.names.length).isEmpty := by
      rw [Bool.eq_iff_iff, List.isEmpty_iff, List.isEmpty_iff, List.drop_eq_nil_iff, List.drop_eq_nil_iff, hlength]
    simp only [ha, ha', bind, Except.bind, hrest, hlength]

end Alike

/-! ### Members that a record does not declare -/

/-- A member that is not declared is passed over. -/
theorem readMembers_erase {record : Record α} [hdeclared : record.Declared] {name : String}
    (hname : name ∉ record.names) (members : Members) :
    record.readMembers (Members.erase name members) = record.readMembers members := by
  have hget : ∀ declared ∈ record.names,
      Members.get? (Members.erase name members) declared = Members.get? members declared := by
    intro declared hmem
    have hne : declared ≠ name := by rintro rfl; exact hname hmem
    rw [Members.get?_erase, if_neg hne]
  have hrefusals := hdeclared.of_refusal (Members.get? members)
  rw [readMembers, readMembers, hdeclared.ofMembers_congr hget, Reading.result, Reading.result]
  generalize record.ofMembers (Members.get? members) = reading at hrefusals ⊢
  have hnone : reading.refusals.lookup name = none := by
    refine List.lookup_eq_none_iff.2 fun refusal hmem => bne_iff_ne.2 ?_
    rintro rfl
    exact hname (hrefusals refusal hmem).1
  have hfirst : (Members.erase name members).findSome? (fun member => reading.refusals.lookup member.1)
      = members.findSome? fun member => reading.refusals.lookup member.1 := by
    rw [Members.erase, ← List.head?_filterMap, ← List.head?_filterMap, List.filterMap_filter]
    congr 2 with member
    by_cases hmember : member.1 = name <;> simp [hmember, hnone]
  rw [hfirst]

end Record

/-! ### Choices -/

namespace Choice

theorem record_alike {child other : Decoder Choice} {depth : Nat}
    (h : ∀ value, value.depth < depth → other value = child value) :
    (record child).Alike (fun _ value changed => changed = value ∧ value.depth < depth) (record other) := by
  have hlist : ∀ value : Json, value.depth < depth → other.list.option value = child.list.option value := by
    intro value hdepth
    cases value with
    | arr items =>
      have hitems : other.list (.arr items) = child.list (.arr items) :=
        Decoder.list_congr fun item hitem => h item ((Json.depth_lt_of_mem hitem).trans hdepth)
      show some <$> other.list (.arr items) = some <$> child.list (.arr items)
      rw [hitems]
    | _ => rfl
  refine .and (.and (.and (.done _) ?_) ?_) ?_
  · rintro value _ ⟨rfl, -⟩
    rfl
  · rintro value _ ⟨rfl, -⟩
    rfl
  · rintro value _ ⟨rfl, hdepth⟩
    exact hlist _ hdepth

/-- Only values inside a value are read as its children. -/
theorem decoder_congr {child other : Decoder Choice} {value : Json}
    (h : ∀ inner, inner.depth < value.depth → other inner = child inner) (title : String) :
    (record other).decoder title value = (record child).decoder title value := by
  have halike := record_alike h
  cases value with
  | obj members =>
    refine halike.decoder_obj title (List.forall₂_same.2 fun entry hentry => ⟨rfl, rfl, ?_⟩)
    exact Nat.lt_succ_of_le (Json.depth_le_depthMembers hentry)
  | arr items =>
    refine halike.decoder_arr title rfl fun index name _ => ?_
    cases hitem : items[index]? with
    | none => exact .none
    | some item => exact .some ⟨rfl, Json.depth_lt_of_mem (List.mem_of_getElem? hitem)⟩
  | _ => rfl

/-- Levels beyond the depth of a value make no difference. -/
theorem decodeNested_eq {levels more : Nat} {value : Json} (h : value.depth ≤ levels) (hmore : value.depth ≤ more) :
    decodeNested more value = decodeNested levels value := by
  have hpos := value.depth_pos
  induction levels generalizing more value with
  | zero => omega
  | succ levels ih =>
    obtain ⟨more, rfl⟩ : ∃ fewer, more = fewer + 1 := ⟨more - 1, by omega⟩
    exact decoder_congr (fun inner hinner => ih (by omega) (by omega) inner.depth_pos) _

/-- A choice is read as a record with choices below it, however deep they nest. -/
theorem decode_eq : Choice.decode = (record Choice.decode).decoder "AutoCompleteField" := by
  funext value
  obtain ⟨levels, hlevels⟩ : ∃ levels, value.depth = levels + 1 :=
    ⟨value.depth - 1, by have := value.depth_pos; omega⟩
  rw [Choice.decode, hlevels]
  exact decoder_congr (fun inner hinner => decodeNested_eq le_rfl (by omega)) _

end Choice

end AddonConfig
