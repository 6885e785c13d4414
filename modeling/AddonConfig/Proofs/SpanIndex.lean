import AddonConfig.Json.Located
import AddonConfig.Proofs.PointerText
import Mathlib.Data.List.Nodup

/-!
# The index of the nodes of a document

`Located.ofValue` records the bytes of every node under the node's place. `span_index_of_nodes` says that the
texts of these places are the pointers of the nodes of the JSON value, one entry a node, as long as the keys of
every mapping differ. What a key that is no text leads to is not in the value and not in the index.
-/

namespace AddonConfig

/-- In a list with one entry a key, looking a key up finds its entry. -/
theorem lookup_eq_some_iff_mem {κ α : Type} [BEq κ] [LawfulBEq κ] {entries : List (κ × α)}
    (h : (entries.map (·.1)).Nodup) {key : κ} {value : α} :
    entries.lookup key = some value ↔ (key, value) ∈ entries := by
  induction entries with
  | nil => simp
  | cons entry rest ih =>
    obtain ⟨found, first⟩ := entry
    obtain ⟨hfresh, hrest⟩ := List.nodup_cons.1 h
    rw [List.lookup_cons, List.mem_cons]
    by_cases heq : key = found
    · subst heq
      have hnot : (key, value) ∉ rest := fun hmem => hfresh (List.mem_map.2 ⟨_, hmem, rfl⟩)
      simp [hnot, eq_comm]
    · simp [beq_false_of_ne heq, heq, ih hrest]

namespace Yaml.Value

/-! ### Nodes of a YAML value -/

/-- The text of a key, if it is one. -/
def text? : Value → Option String
  | .scalar (.text name) _ => some name
  | _ => none

/-- The entries whose keys are texts. -/
def named (entries : List (Value × Value)) : List (String × Value) :=
  entries.filterMap fun entry => entry.1.text?.map fun name => (name, entry.2)

/-- The bytes of a value, those under its tags. -/
def span : Value → Span
  | .scalar _ span => span
  | .sequence _ span => span
  | .mapping _ span => span
  | .tagged _ value => value.span

/-- What a value holds at a step, under its tags. -/
def child? : Value → Step → Option Value
  | .sequence items _, .item index => items[index]?
  | .mapping entries _, .member name => (named entries).lookup name
  | .tagged _ value, step => child? value step
  | _, _ => none

/-- The node of a value at a place. -/
def node? (root : Value) (place : Pointer) : Option Value := place.foldlM child? root

/-- The keys of every mapping differ, those inside keys apart. -/
inductive KeysDiffer : Value → Prop
  | scalar (datum : Datum) (span : Span) : KeysDiffer (.scalar datum span)
  | sequence {items : List Value} (span : Span) (items_ok : ∀ item ∈ items, KeysDiffer item) :
      KeysDiffer (.sequence items span)
  | mapping {entries : List (Value × Value)} (span : Span)
      (keys : entries.Pairwise fun first second => first.1.same second.1 = false)
      (values : ∀ entry ∈ entries, KeysDiffer entry.2) : KeysDiffer (.mapping entries span)
  | tagged {value : Value} (tag : String) (value_ok : KeysDiffer value) : KeysDiffer (.tagged tag value)

/-- The JSON value of a node. -/
def json (node : Value) : Json := (Located.ofValue node).value

mutual

/-- The value without the entries whose keys are no texts. -/
def textKeyed : Value → Value
  | .scalar datum span => .scalar datum span
  | .sequence items span => .sequence (textKeyedItems items) span
  | .mapping entries span => .mapping (textKeyedEntries entries) span
  | .tagged tag value => .tagged tag (textKeyed value)

def textKeyedItems : List Value → List Value
  | [] => []
  | item :: rest => textKeyed item :: textKeyedItems rest

def textKeyedEntries : List (Value × Value) → List (Value × Value)
  | [] => []
  | (.scalar (.text name) span, value) :: rest =>
      (.scalar (.text name) span, textKeyed value) :: textKeyedEntries rest
  | _ :: rest => textKeyedEntries rest

end

/-- The steps into a value and what they lead to. -/
def children : Value → List (Step × Value)
  | .scalar .. => []
  | .sequence items _ => items.zipIdx.map fun (item, index) => (.item index, item)
  | .mapping entries _ => (named entries).map fun (name, value) => (.member name, value)
  | .tagged _ value => value.children

section Named
variable {key value : Value} {rest : List (Value × Value)} {name : String}

theorem text?_eq_some (h : key.text? = some name) : ∃ span, key = .scalar (.text name) span := by
  unfold text? at h
  split at h
  · cases h
    exact ⟨_, rfl⟩
  · cases h

theorem named_cons_some (h : key.text? = some name) : named ((key, value) :: rest) = (name, value) :: named rest := by
  simp [named, h]

theorem named_cons_none (h : key.text? = none) : named ((key, value) :: rest) = named rest := by
  simp [named, h]

end Named

end Yaml.Value

open Yaml (Value Span)

/-- The entries of the index: the text of every place and the bytes of the node there. -/
def Located.index (located : Located) : List (String × Span) :=
  located.spans.map fun entry => (entry.1.text, entry.2)

/-- The index of a value read from a YAML value is that of its nodes. -/
structure Located.IndexesNodes (located : Located) (root : Value) : Prop where
  /-- The keys are the pointers of the nodes of the JSON value. -/
  keys : ∀ key, key ∈ located.index.map (·.1) ↔ ∃ place, (located.value.node? place).isSome ∧ place.text = key
  /-- What is recorded are the YAML nodes, each with its own bytes. -/
  recorded : ∀ key span, (key, span) ∈ located.index ↔
    ∃ place node, root.node? place = some node ∧ place.text = key ∧ node.span = span
  /-- The pointer that a node is recorded under leads to the JSON value of the node. -/
  resolved : ∀ place node, root.node? place = some node →
    located.value.resolve? place.text = some node.json
  /-- Different nodes have different pointers. -/
  apart : ∀ place other, (located.value.node? place).isSome → (located.value.node? other).isSome →
    place.text = other.text → place = other
  /-- No entry is recorded over another. -/
  once : (located.index.map (·.1)).Nodup

/-! ### Reading a node -/

namespace Located
variable {place : Pointer} {key value : Value} {rest : List (Value × Value)} {name : String}

theorem ofValueAt_sequence (place : Pointer) (items : List Value) (span : Span) :
    ofValueAt place (.sequence items span)
      = ⟨.arr (ofItems place 0 items).1, (place, span) :: (ofItems place 0 items).2⟩ := rfl

theorem ofValueAt_mapping (place : Pointer) (entries : List (Value × Value)) (span : Span) :
    ofValueAt place (.mapping entries span)
      = ⟨Json.ofMembers (ofEntries place entries).1, (place, span) :: (ofEntries place entries).2⟩ := rfl

theorem ofItems_cons (place : Pointer) (index : Nat) (item : Value) (rest : List Value) :
    ofItems place index (item :: rest) =
      ((ofValueAt (place ++ [Step.item index]) item).value :: (ofItems place (index + 1) rest).1,
        (ofValueAt (place ++ [Step.item index]) item).spans ++ (ofItems place (index + 1) rest).2) := rfl

theorem ofEntries_named (h : key.text? = some name) :
    ofEntries place ((key, value) :: rest) =
      ((name, (ofValueAt (place ++ [Step.member name]) value).value) :: (ofEntries place rest).1,
        (ofValueAt (place ++ [Step.member name]) value).spans ++ (ofEntries place rest).2) := by
  obtain ⟨span, rfl⟩ := Value.text?_eq_some h
  rfl

theorem ofEntries_unnamed (h : key.text? = none) :
    ofEntries place ((key, value) :: rest) = ofEntries place rest := by
  rw [ofEntries]
  rintro name span value ⟨⟩
  cases h

mutual

/-- The JSON value of a node does not depend on its place. -/
theorem value_ofValueAt (place : Pointer) : ∀ value : Value, (ofValueAt place value).value = value.json
  | .scalar .. => rfl
  | .sequence items _ => congrArg Json.arr ((values_ofItems place 0 items).trans (values_ofItems [] 0 items).symm)
  | .mapping entries _ =>
    congrArg Json.ofMembers ((members_ofEntries place entries).trans (members_ofEntries [] entries).symm)
  | .tagged _ value => (value_ofValueAt place value).trans (value_ofValueAt [] value).symm

theorem values_ofItems (place : Pointer) (index : Nat) :
    ∀ items : List Value, (ofItems place index items).1 = items.map Value.json
  | [] => rfl
  | item :: rest => by
    rw [ofItems_cons, values_ofItems place (index + 1) rest, value_ofValueAt (place ++ [Step.item index]) item,
      List.map_cons]

theorem members_ofEntries (place : Pointer) : ∀ entries : List (Value × Value),
    (ofEntries place entries).1 = (Value.named entries).map fun entry => (entry.1, entry.2.json)
  | [] => rfl
  | (key, value) :: rest => by
    cases hkey : key.text? with
    | none => rw [ofEntries_unnamed hkey, members_ofEntries place rest, Value.named_cons_none hkey]
    | some name =>
      rw [ofEntries_named hkey, members_ofEntries place rest, Value.named_cons_some hkey,
        value_ofValueAt (place ++ [Step.member name]) value, List.map_cons]

end

theorem spans_ofItems (place : Pointer) (index : Nat) (items : List Value) :
    (ofItems place index items).2
      = (items.zipIdx index).flatMap fun entry => (ofValueAt (place ++ [Step.item entry.2]) entry.1).spans := by
  induction items generalizing index with
  | nil => rfl
  | cons item rest ih => rw [List.zipIdx_cons, List.flatMap_cons, ← ih, ofItems_cons]

theorem spans_ofEntries (place : Pointer) (entries : List (Value × Value)) :
    (ofEntries place entries).2
      = (Value.named entries).flatMap fun entry => (ofValueAt (place ++ [Step.member entry.1]) entry.2).spans := by
  induction entries with
  | nil => rfl
  | cons entry rest ih =>
    obtain ⟨key, value⟩ := entry
    cases hkey : key.text? with
    | none => rw [ofEntries_unnamed hkey, ih, Value.named_cons_none hkey]
    | some name => rw [ofEntries_named hkey, ih, Value.named_cons_some hkey, List.flatMap_cons]

/-- A node is recorded at its place, and what it holds a step further. -/
theorem spans_ofValueAt (place : Pointer) : ∀ value : Value, (ofValueAt place value).spans
    = (place, value.span) :: value.children.flatMap fun child => (ofValueAt (place ++ [child.1]) child.2).spans
  | .scalar .. => rfl
  | .sequence items span => by
    rw [ofValueAt_sequence, spans_ofItems]
    simp [Value.children, Value.span, List.flatMap_map]
  | .mapping entries span => by
    rw [ofValueAt_mapping, spans_ofEntries]
    simp [Value.children, Value.span, List.flatMap_map]
  | .tagged _ value => spans_ofValueAt place value

mutual

/-- What a key that is no text leads to leaves no trace. -/
theorem ofValueAt_textKeyed (place : Pointer) : ∀ value : Value,
    ofValueAt place value.textKeyed = ofValueAt place value
  | .scalar .. => rfl
  | .sequence items span => by
    rw [Value.textKeyed, ofValueAt_sequence, ofValueAt_sequence, ofItems_textKeyed place 0 items]
  | .mapping entries span => by
    rw [Value.textKeyed, ofValueAt_mapping, ofValueAt_mapping, ofEntries_textKeyed place entries]
  | .tagged _ value => ofValueAt_textKeyed place value

theorem ofItems_textKeyed (place : Pointer) (index : Nat) : ∀ items : List Value,
    ofItems place index (Value.textKeyedItems items) = ofItems place index items
  | [] => rfl
  | item :: rest => by
    rw [Value.textKeyedItems, ofItems_cons, ofItems_cons, ofValueAt_textKeyed (place ++ [Step.item index]) item,
      ofItems_textKeyed place (index + 1) rest]

theorem ofEntries_textKeyed (place : Pointer) : ∀ entries : List (Value × Value),
    ofEntries place (Value.textKeyedEntries entries) = ofEntries place entries
  | [] => rfl
  | (.scalar (.text name) _, value) :: rest => by
    rw [Value.textKeyedEntries, ofEntries_named rfl, ofEntries_named rfl,
      ofValueAt_textKeyed (place ++ [Step.member name]) value, ofEntries_textKeyed place rest]
  | (.scalar .null _, _) :: rest | (.scalar (.bool _) _, _) :: rest | (.scalar (.int _) _, _) :: rest
  | (.scalar (.float _) _, _) :: rest | (.sequence .., _) :: rest | (.mapping .., _) :: rest
  | (.tagged .., _) :: rest => ofEntries_textKeyed place rest

end

end Located

/-! ### Nodes whose keys differ -/

namespace Yaml.Value
variable {root value inner node : Value} {items : List Value} {entries : List (Value × Value)} {child : Step × Value}
  {step : Step} {place : Pointer}

theorem node?_cons (value : Value) (step : Step) (rest : Pointer) :
    value.node? (step :: rest) = (value.child? step).bind (·.node? rest) := rfl

theorem mem_of_child_sequence {span : Span} (h : child ∈ (sequence items span).children) : child.2 ∈ items := by
  obtain ⟨⟨item, index⟩, hmem, rfl⟩ := List.mem_map.1 h
  exact List.mem_of_getElem? (List.mem_zipIdx_iff_getElem?.1 hmem)

theorem mem_of_child_mapping {span : Span} (h : child ∈ (mapping entries span).children) :
    ∃ key, (key, child.2) ∈ entries := by
  obtain ⟨⟨name, value⟩, hmem, rfl⟩ := List.mem_map.1 h
  obtain ⟨⟨key, value⟩, hentry, hname⟩ := List.mem_filterMap.1 hmem
  obtain ⟨_, -, heq⟩ := Option.map_eq_some_iff.1 hname
  cases heq
  exact ⟨key, hentry⟩

/-- What holds of a node if it holds of its children holds of every node. -/
@[elab_as_elim]
theorem KeysDiffer.induction {motive : Value → Prop} (h : root.KeysDiffer)
    (step : ∀ value : Value, value.KeysDiffer → (∀ child ∈ value.children, motive child.2) → motive value) :
    motive root := by
  -- a tagged value has the children of the value under the tag
  suffices hboth : motive root ∧ ∀ child ∈ root.children, motive child.2 from hboth.1
  induction h with
  | scalar datum span =>
    have hnone : ∀ child ∈ (Value.scalar datum span).children, motive child.2 := by simp [children]
    exact ⟨step _ (.scalar datum span) hnone, hnone⟩
  | @sequence items span items_ok ih =>
    have hchildren : ∀ child ∈ (Value.sequence items span).children, motive child.2 := by
      intro child hchild
      exact (ih _ (mem_of_child_sequence hchild)).1
    exact ⟨step _ (.sequence span items_ok) hchildren, hchildren⟩
  | @mapping entries span keys values ih =>
    have hchildren : ∀ child ∈ (Value.mapping entries span).children, motive child.2 := by
      intro child hchild
      obtain ⟨key, hentry⟩ := mem_of_child_mapping hchild
      exact (ih _ hentry).1
    exact ⟨step _ (.mapping span keys values) hchildren, hchildren⟩
  | tagged tag value_ok ih => exact ⟨step _ (.tagged tag value_ok) ih.2, ih.2⟩

theorem KeysDiffer.of_child (h : value.KeysDiffer) (hchild : child ∈ value.children) : child.2.KeysDiffer := by
  induction h with
  | scalar => cases hchild
  | sequence span items_ok => exact items_ok _ (mem_of_child_sequence hchild)
  | mapping span keys values =>
    obtain ⟨key, hentry⟩ := mem_of_child_mapping hchild
    exact values _ hentry
  | tagged _ _ ih => exact ih hchild

theorem names_nodup (h : entries.Pairwise fun first second => first.1.same second.1 = false) :
    ((named entries).map (·.1)).Nodup := by
  refine List.pairwise_map.2 (List.Pairwise.filterMap _ ?_ h)
  intro first second hdiffer found hfound found' hfound' heq
  obtain ⟨name, hname, rfl⟩ := Option.map_eq_some_iff.1 hfound
  obtain ⟨name', hname', rfl⟩ := Option.map_eq_some_iff.1 hfound'
  obtain ⟨_, hfirst⟩ := text?_eq_some hname
  obtain ⟨_, hsecond⟩ := text?_eq_some hname'
  rw [hfirst, hsecond] at hdiffer
  simp [same, Datum.same, show name = name' from heq] at hdiffer

theorem KeysDiffer.steps_nodup (h : value.KeysDiffer) : (value.children.map (·.1)).Nodup := by
  induction h with
  | scalar => exact List.nodup_nil
  | @sequence items span =>
    have hsteps : (Value.sequence items span).children.map (·.1) = (items.zipIdx.map (·.2)).map Step.item := by
      rw [children, List.map_map, List.map_map]
      rfl
    rw [hsteps, List.zipIdx_map_snd]
    exact List.Nodup.map (fun _ _ heq => Step.item.inj heq) (List.nodup_range' _)
  | @mapping entries span keys =>
    have hsteps : (Value.mapping entries span).children.map (·.1) = ((named entries).map (·.1)).map Step.member := by
      rw [children, List.map_map, List.map_map]
      rfl
    rw [hsteps]
    exact List.Nodup.map (fun _ _ heq => Step.member.inj heq) (names_nodup keys)
  | tagged _ _ ih => exact ih

/-- A step leads to the child that is found after it. -/
theorem KeysDiffer.child?_eq_some (h : value.KeysDiffer) : value.child? step = some inner ↔ (step, inner) ∈ value.children := by
  induction h with
  | scalar => cases step <;> simp [child?, children]
  | sequence span _ =>
    cases step with
    | item index => simp [child?, children, List.mem_zipIdx_iff_getElem?]
    | member name => simp [child?, children]
  | mapping span keys =>
    cases step with
    | item index => simp [child?, children]
    | member name => simp [child?, children, lookup_eq_some_iff_mem (names_nodup keys)]
  | tagged _ _ ih => rw [child?, ih, children]

/-! ### What is recorded -/

/-- Below a place the nodes of the value are recorded, each with its own bytes. -/
theorem KeysDiffer.mem_spans (h : value.KeysDiffer) : ∀ place found span, (found, span) ∈ (Located.ofValueAt place value).spans ↔
    ∃ rest node, found = place ++ rest ∧ value.node? rest = some node ∧ node.span = span := by
  refine h.induction fun value h ih place found span => ?_
  rw [Located.spans_ofValueAt, List.mem_cons, List.mem_flatMap]
  constructor
  · rintro (heq | ⟨⟨step, inner⟩, hchild, hmem⟩)
    · cases heq
      exact ⟨[], value, (List.append_nil _).symm, rfl, rfl⟩
    · obtain ⟨rest, node, rfl, hnode, hspan⟩ := (ih _ hchild _ _ _).1 hmem
      refine ⟨step :: rest, node, by simp, ?_, hspan⟩
      rw [node?_cons, h.child?_eq_some.2 hchild]
      exact hnode
  · rintro ⟨rest, node, rfl, hnode, rfl⟩
    cases rest with
    | nil =>
      cases hnode
      exact .inl (by rw [List.append_nil])
    | cons step rest =>
      obtain ⟨inner, hinner, hnode⟩ := Option.bind_eq_some_iff.1 hnode
      have hchild := h.child?_eq_some.1 hinner
      exact .inr ⟨(step, inner), hchild, (ih _ hchild _ _ _).2 ⟨rest, node, by simp, hnode, rfl⟩⟩

theorem KeysDiffer.place_of_mem (h : value.KeysDiffer) {found : Pointer}
    (hmem : found ∈ (Located.ofValueAt place value).spans.map (·.1)) : ∃ rest, found = place ++ rest := by
  obtain ⟨entry, hentry, rfl⟩ := List.mem_map.1 hmem
  obtain ⟨rest, _, hplace, -⟩ := (h.mem_spans _ _ _).1 hentry
  exact ⟨rest, hplace⟩

/-- No place is recorded twice. -/
theorem KeysDiffer.places_nodup (h : value.KeysDiffer) :
    ∀ place, ((Located.ofValueAt place value).spans.map (·.1)).Nodup := by
  refine h.induction fun value h ih place => ?_
  rw [Located.spans_ofValueAt, List.map_cons, List.map_flatMap, List.nodup_cons, List.nodup_flatMap]
  refine ⟨fun hmem => ?_, fun child hchild => ih child hchild _, ?_⟩
  · obtain ⟨child, hchild, hmem⟩ := List.mem_flatMap.1 hmem
    obtain ⟨rest, hplace⟩ := (h.of_child hchild).place_of_mem hmem
    simp at hplace
  · refine (List.pairwise_map.1 h.steps_nodup).imp_of_mem fun hchild hchild' hne found hmem hmem' => hne ?_
    obtain ⟨rest, rfl⟩ := (h.of_child hchild).place_of_mem hmem
    obtain ⟨rest', heq⟩ := (h.of_child hchild').place_of_mem hmem'
    simpa using congrArg (·[place.length]?) heq

/-! ### What nodes are converted to -/

theorem json_sequence (items : List Value) (span : Span) : (sequence items span).json = .arr (items.map json) := by
  rw [json, Located.ofValue, Located.ofValueAt_sequence, Located.values_ofItems]

theorem json_mapping (entries : List (Value × Value)) (span : Span) :
    (mapping entries span).json = Json.ofMembers ((named entries).map fun entry => (entry.1, entry.2.json)) := by
  rw [json, Located.ofValue, Located.ofValueAt_mapping, Located.members_ofEntries]

theorem get?_map (entries : List (String × Value)) (name : String) :
    Members.get? (entries.map fun entry => (entry.1, entry.2.json)) name = (entries.lookup name).map json := by
  induction entries with
  | nil => rfl
  | cons entry rest ih =>
    obtain ⟨found, value⟩ := entry
    rw [List.map_cons, Members.get?_cons, ih, List.lookup_cons]
    by_cases h : name = found
    · simp [h]
    · simp [h, beq_false_of_ne h]

/-- The JSON value of a node holds at a step the JSON value of what the node holds there. -/
theorem KeysDiffer.child?_json (h : value.KeysDiffer) (step : Step) : value.json.child? step = (value.child? step).map json := by
  induction h with
  | scalar datum span =>
    have hscalar : (Value.scalar datum span).json.child? step = none := by
      show (Located.ofDatum datum).child? step = none
      unfold Located.ofDatum
      split
      all_goals first | rfl | (split <;> rfl)
    rw [hscalar]
    cases step <;> rfl
  | sequence span _ =>
    rw [json_sequence]
    cases step with
    | item index => exact List.getElem?_map
    | member name => rfl
  | @mapping entries span keys =>
    rw [json_mapping]
    cases step with
    | item index => rfl
    | member name =>
      have hnames : (((named entries).map fun entry => (entry.1, entry.2.json)).map (·.1)).Nodup := by
        simpa [Function.comp_def] using names_nodup keys
      exact (Members.get?_ofList_of_nodup hnames name).trans (get?_map _ name)
  | tagged _ _ ih => exact ih

theorem KeysDiffer.node?_json (h : root.KeysDiffer) (place : Pointer) : root.json.node? place = (root.node? place).map json := by
  induction place generalizing root with
  | nil => rfl
  | cons step rest ih =>
    rw [Json.node?_cons, node?_cons, h.child?_json]
    cases hchild : root.child? step with
    | none => rfl
    | some inner => exact ih (h.of_child (h.child?_eq_some.1 hchild))

end Yaml.Value

/-! ### The index -/

namespace Located
variable {root node : Value} {place : Pointer} {key : String} {span : Span}

theorem mem_index (h : root.KeysDiffer) : (key, span) ∈ (ofValue root).index ↔
    ∃ place node, root.node? place = some node ∧ place.text = key ∧ node.span = span := by
  rw [index, List.mem_map]
  constructor
  · rintro ⟨⟨place, found⟩, hmem, heq⟩
    cases heq
    obtain ⟨rest, node, hplace, hnode, hspan⟩ := (h.mem_spans _ _ _).1 hmem
    rw [List.nil_append] at hplace
    exact ⟨rest, node, hnode, by rw [hplace], hspan⟩
  · rintro ⟨place, node, hnode, rfl, rfl⟩
    exact ⟨(place, node.span), (h.mem_spans _ _ _).2 ⟨place, node, rfl, hnode, rfl⟩, rfl⟩

/-- The nodes of the JSON value stand where those of the YAML value do. -/
theorem isSome_node?_json (h : root.KeysDiffer) : (root.json.node? place).isSome ↔ (root.node? place).isSome := by
  rw [h.node?_json, Option.isSome_map]

theorem mem_keys (h : root.KeysDiffer) : key ∈ (ofValue root).index.map (·.1) ↔
    ∃ place, (root.json.node? place).isSome ∧ place.text = key := by
  rw [List.mem_map]
  constructor
  · rintro ⟨⟨key, span⟩, hmem, rfl⟩
    obtain ⟨place, node, hnode, htext, -⟩ := (mem_index h).1 hmem
    exact ⟨place, (isSome_node?_json h).2 (Option.isSome_of_eq_some hnode), htext⟩
  · rintro ⟨place, hsome, htext⟩
    obtain ⟨node, hnode⟩ := Option.isSome_iff_exists.1 ((isSome_node?_json h).1 hsome)
    exact ⟨(key, node.span), (mem_index h).2 ⟨place, node, hnode, htext, rfl⟩, rfl⟩

theorem keys_nodup (h : root.KeysDiffer) : ((ofValue root).index.map (·.1)).Nodup := by
  have hkeys : (ofValue root).index.map (·.1) = ((ofValue root).spans.map (·.1)).map Pointer.text := by
    rw [index, List.map_map, List.map_map]
    rfl
  have hnode : ∀ place ∈ (ofValue root).spans.map (·.1), (root.json.node? place).isSome := by
    intro place hmem
    obtain ⟨⟨found, span⟩, hentry, rfl⟩ := List.mem_map.1 hmem
    obtain ⟨rest, node, hplace, hnode, -⟩ := (h.mem_spans _ _ _).1 hentry
    obtain rfl : found = rest := hplace
    exact (isSome_node?_json h).2 (Option.isSome_of_eq_some hnode)
  rw [hkeys]
  exact (h.places_nodup []).map_on fun place hplace other hother htext =>
    Json.text_inj (hnode place hplace) (hnode other hother) htext

/-- A node is found under its pointer. -/
theorem lookup_index (h : root.KeysDiffer) (hnode : root.node? place = some node) :
    (ofValue root).index.lookup place.text = some node.span :=
  (lookup_eq_some_iff_mem (keys_nodup h)).2 ((mem_index h).2 ⟨place, node, hnode, rfl, rfl⟩)

end Located

/-- The index of a YAML value whose keys differ is that of its nodes, and entries whose keys are no texts have no
part in it. -/
theorem span_index_of_nodes (root : Value) (h : root.KeysDiffer) :
    (Located.ofValue root).IndexesNodes root ∧ Located.ofValue root.textKeyed = Located.ofValue root := by
  refine ⟨⟨fun key => Located.mem_keys h, fun key span => Located.mem_index h, fun place node hnode => ?_,
    fun place other hplace hother => Json.text_inj hplace hother, Located.keys_nodup h⟩,
    Located.ofValueAt_textKeyed [] root⟩
  have hjson : root.json.node? place = some node.json := by rw [h.node?_json, hnode, Option.map_some]
  exact Json.resolve?_text hjson

/-- A mapping with a slash, a tilde and nothing at all as keys, a tagged item and a key that is no text. -/
def awkwardValue : Value :=
  .mapping
    [(.scalar (.text "a/b") ⟨0, 3⟩, .sequence [.scalar (.int 1) ⟨6, 7⟩, .tagged "!t" (.scalar .null ⟨12, 13⟩)] ⟨5, 14⟩),
      (.scalar (.text "~1") ⟨15, 17⟩, .scalar (.bool true) ⟨19, 23⟩),
      (.scalar (.text "") ⟨24, 26⟩, .scalar (.text "x") ⟨28, 29⟩),
      (.scalar (.int 0) ⟨30, 31⟩, .mapping [(.scalar (.text "lost") ⟨34, 38⟩, .scalar .null ⟨40, 41⟩)] ⟨33, 42⟩)]
    ⟨0, 43⟩

theorem awkwardValue_keysDiffer : awkwardValue.KeysDiffer := by
  refine .mapping _ (by decide) ?_
  simp only [List.mem_cons, List.not_mem_nil, or_false]
  rintro entry (rfl | rfl | rfl | rfl)
  · refine .sequence _ ?_
    simp only [List.mem_cons, List.not_mem_nil, or_false]
    rintro item (rfl | rfl)
    · exact .scalar _ _
    · exact .tagged _ (.scalar _ _)
  · exact .scalar _ _
  · exact .scalar _ _
  · refine .mapping _ (by decide) ?_
    simp only [List.mem_cons, List.not_mem_nil, or_false]
    rintro entry rfl
    exact .scalar _ _

theorem awkwardValue_indexed : awkwardValue.KeysDiffer ∧
    (Located.ofValue awkwardValue).index =
      [("", ⟨0, 43⟩), ("/a~1b", ⟨5, 14⟩), ("/a~1b/0", ⟨6, 7⟩), ("/a~1b/1", ⟨12, 13⟩), ("/~01", ⟨19, 23⟩),
        ("/", ⟨28, 29⟩)] ∧
    (Located.ofValue awkwardValue).IndexesNodes awkwardValue ∧
      Located.ofValue awkwardValue.textKeyed = Located.ofValue awkwardValue :=
  ⟨awkwardValue_keysDiffer, by decide, span_index_of_nodes awkwardValue awkwardValue_keysDiffer⟩

end AddonConfig
