import AddonConfig.Proofs.SpanIndex
import AddonConfig.Proofs.Violations
import AddonConfig.Schema.Document

/-!
# Where violations are reported

A violation stands at a node of the value and is about that node (`violation_at_node`). In a value read from a
text the keys of every mapping differ (`keysDiffer_of_text`), so the node is in the index, and the violation is
reported with the node's own bytes and never with those of the whole document (`violation_reported_at_node`).
-/

namespace AddonConfig

namespace Yaml

/-! ### Values read from a text -/

/-- The keys differ in every value that an anchor has. -/
def Anchors.KeysDiffer (anchors : Anchors) : Prop :=
  ∀ name found, anchors.lookup name = some (some found) → found.value.KeysDiffer

section
variable {anchors after : Anchors} {anchor : Option String} {measured found : Measured} {value : Value}

theorem Anchors.KeysDiffer.opened (h : anchors.KeysDiffer) (hopened : anchors.opened? anchor = some after) :
    after.KeysDiffer := by
  cases anchor with
  | none =>
    cases hopened
    exact h
  | some name =>
    simp only [Anchors.opened?] at hopened
    split_ifs at hopened
    cases hopened
    intro other found hfound
    rw [List.lookup_cons] at hfound
    split at hfound
    · cases hfound
    · exact h other found hfound

theorem Anchors.KeysDiffer.closed (h : anchors.KeysDiffer) (hmeasured : measured.value.KeysDiffer) :
    (anchors.closed measured anchor).KeysDiffer := by
  cases anchor with
  | none => exact h
  | some name =>
    intro other found hfound
    rw [Anchors.closed, List.lookup_cons] at hfound
    split at hfound
    · cases hfound
      exact hmeasured
    · exact h other found hfound

theorem Value.KeysDiffer.withTag (h : value.KeysDiffer) (tag : Option String) : (Value.withTag tag value).KeysDiffer := by
  unfold Value.withTag
  split
  · split
    · exact .tagged _ h
    · exact h
  · exact h

/-- A collection is kept as it is, or not at all. -/
theorem Value.KeysDiffer.collected {limit : Nat} (hvalue : measured.value.KeysDiffer) (h : anchors.KeysDiffer)
    (hkept : ((Value.within? limit measured).bind fun node => some (node, anchors.closed node anchor))
      = some (found, after)) : found.value.KeysDiffer ∧ after.KeysDiffer := by
  obtain ⟨kept, hwithin, hclosed⟩ := Option.bind_eq_some_iff.1 hkept
  unfold Value.within? at hwithin
  split_ifs at hwithin
  cases hwithin
  cases hclosed
  exact ⟨hvalue, h.closed hvalue⟩

end

mutual

theorem keysDiffer_ofNodeFrom? {limit : Nat} : ∀ (node : Node) {anchors after : Anchors} {found : Measured},
    anchors.KeysDiffer → Value.ofNodeFrom? limit anchors node = some (found, after) →
      found.value.KeysDiffer ∧ after.KeysDiffer
  | .scalar properties style text span, anchors, after, found, hanchors, h => by
    obtain ⟨opened, hopened, heq⟩ := Option.map_eq_some_iff.1 h
    cases heq
    have hvalue := (Value.KeysDiffer.scalar (.ofScalar properties.tag style text) span).withTag properties.tag
    exact ⟨hvalue, (hanchors.opened hopened).closed hvalue⟩
  | .sequence properties items span, anchors, after, found, hanchors, h => by
    obtain ⟨opened, hopened, h⟩ := Option.bind_eq_some_iff.1 h
    obtain ⟨⟨measured, later⟩, hitems, h⟩ := Option.bind_eq_some_iff.1 h
    obtain ⟨hmeasured, hlater⟩ := keysDiffer_ofItemsFrom? items (hanchors.opened hopened) hitems
    have hvalue : (Value.sequence (measured.map (·.value)) span).KeysDiffer := by
      refine .sequence span fun item hitem => ?_
      obtain ⟨m, hm, rfl⟩ := List.mem_map.1 hitem
      exact hmeasured m hm
    exact Value.KeysDiffer.collected (hvalue.withTag properties.tag) hlater h
  | .mapping properties entries span, anchors, after, found, hanchors, h => by
    obtain ⟨opened, hopened, h⟩ := Option.bind_eq_some_iff.1 h
    obtain ⟨⟨measured, later⟩, hentries, h⟩ := Option.bind_eq_some_iff.1 h
    obtain ⟨hkeys, hmeasured, hlater⟩ := keysDiffer_ofEntriesFrom? entries (hanchors.opened hopened) hentries
    have hvalue : (Value.mapping (measured.map fun entry => (entry.1.value, entry.2.value)) span).KeysDiffer := by
      refine .mapping span (List.pairwise_map.2 hkeys) fun entry hentry => ?_
      obtain ⟨m, hm, rfl⟩ := List.mem_map.1 hentry
      exact hmeasured m hm
    exact Value.KeysDiffer.collected (hvalue.withTag properties.tag) hlater h
  | .alias name span, anchors, after, found, hanchors, h => by
    unfold Value.ofNodeFrom? at h
    split at h
    · next node hlookup =>
      cases h
      exact ⟨hanchors name _ hlookup, hanchors⟩
    · cases h

theorem keysDiffer_ofItemsFrom? {limit : Nat} : ∀ (items : List Node) {anchors after : Anchors}
    {found : List Measured}, anchors.KeysDiffer → Value.ofItemsFrom? limit anchors items = some (found, after) →
      (∀ measured ∈ found, measured.value.KeysDiffer) ∧ after.KeysDiffer
  | [], anchors, after, found, hanchors, h => by
    cases h
    exact ⟨by simp, hanchors⟩
  | item :: rest, anchors, after, found, hanchors, h => by
    obtain ⟨⟨first, middle⟩, hfirst, h⟩ := Option.bind_eq_some_iff.1 h
    obtain ⟨⟨others, later⟩, hothers, h⟩ := Option.bind_eq_some_iff.1 h
    cases h
    obtain ⟨hvalue, hmiddle⟩ := keysDiffer_ofNodeFrom? item hanchors hfirst
    obtain ⟨hvalues, hlater⟩ := keysDiffer_ofItemsFrom? rest hmiddle hothers
    exact ⟨List.forall_mem_cons.2 ⟨hvalue, hvalues⟩, hlater⟩

/-- An entry whose key comes again is refused. -/
theorem keysDiffer_ofEntriesFrom? {limit : Nat} : ∀ (entries : List (Node × Node)) {anchors after : Anchors}
    {found : List (Measured × Measured)}, anchors.KeysDiffer →
      Value.ofEntriesFrom? limit anchors entries = some (found, after) →
        (found.Pairwise fun first second => first.1.value.same second.1.value = false) ∧
          (∀ entry ∈ found, entry.2.value.KeysDiffer) ∧ after.KeysDiffer
  | [], anchors, after, found, hanchors, h => by
    cases h
    exact ⟨.nil, by simp, hanchors⟩
  | (key, value) :: rest, anchors, after, found, hanchors, h => by
    obtain ⟨⟨foundKey, named⟩, hkey, h⟩ := Option.bind_eq_some_iff.1 h
    obtain ⟨⟨first, middle⟩, hfirst, h⟩ := Option.bind_eq_some_iff.1 h
    obtain ⟨⟨others, later⟩, hothers, h⟩ := Option.bind_eq_some_iff.1 h
    dsimp only at h
    split_ifs at h with hrepeated
    cases h
    obtain ⟨-, hnamed⟩ := keysDiffer_ofNodeFrom? key hanchors hkey
    obtain ⟨hvalue, hmiddle⟩ := keysDiffer_ofNodeFrom? value hnamed hfirst
    obtain ⟨hkeys, hvalues, hlater⟩ := keysDiffer_ofEntriesFrom? rest hmiddle hothers
    have hfresh : ∀ entry ∈ others, foundKey.value.same entry.1.value = false := by simpa using hrepeated
    exact ⟨List.pairwise_cons.2 ⟨hfresh, hkeys⟩, List.forall_mem_cons.2 ⟨hvalue, hvalues⟩, hlater⟩

end

/-- The keys of every mapping that is read from a text differ. -/
theorem Value.keysDiffer_of_text {text : String} {root : Value} (h : Value.ofText? text = some root) :
    root.KeysDiffer := by
  obtain ⟨document, -, h⟩ := Option.bind_eq_some_iff.1 h
  cases document with
  | none =>
    cases h
    exact .scalar _ _
  | some node =>
    obtain ⟨⟨measured, after⟩, hmeasured, rfl⟩ := Option.map_eq_some_iff.1 h
    exact (keysDiffer_ofNodeFrom? node (by intro name found hfound; cases hfound) hmeasured).1

end Yaml

/-! ### What violations are about -/

/-- The complaint is about that value: it is quoted, or it is an object without the member that is missed. -/
def Complaint.About : Complaint → Json → Prop
  | .kind value _, node => value = node
  | .notAllowed value _, node => value = node
  | .negative value, node => value = node
  | .notWord value, node => value = node
  | .missing name, node => ∃ members, node = .obj members ∧ Members.get? members name = none

namespace Schema
variable {schema : Schema} {value : Json} {members : Members} {place : Pointer} {complaint : Complaint}
  {violation : Violation}

theorem about_kind {kinds : List ValueKind} (h : complaint ∈ kindComplaint kinds value) : complaint.About value := by
  unfold kindComplaint at h
  split at h
  · cases h
  · rw [List.mem_singleton.1 h]
    rfl

theorem about_choice {allowed : List String} (h : complaint ∈ choiceComplaint allowed value) :
    complaint.About value := by
  unfold choiceComplaint at h
  split at h
  · split at h
    · cases h
    · rw [List.mem_singleton.1 h]
      rfl
  · rw [List.mem_singleton.1 h]
    rfl

theorem about_word (h : complaint ∈ wordComplaint value) : complaint.About value := by
  unfold wordComplaint at h
  split at h
  · split at h
    · cases h
    · rw [List.mem_singleton.1 h]
      rfl
  · cases h

theorem about_natural (h : complaint ∈ naturalComplaint value) : complaint.About value := by
  unfold naturalComplaint at h
  split at h
  · split at h
    · rw [List.mem_singleton.1 h]
      rfl
    · cases h
  · cases h

theorem about_scalar (h : complaint ∈ scalarComplaints schema value) : complaint.About value := by
  cases schema with
  | word => exact (List.mem_append.1 h).elim about_word about_kind
  | choice allowed => exact (List.mem_append.1 h).elim about_choice about_kind
  | natural => exact (List.mem_append.1 h).elim about_natural about_kind
  | string | boolean | integer | number | scalar | array | object => exact about_kind h

theorem about_missing {names : List String} (h : complaint ∈ missing names members) :
    complaint.About (.obj members) := by
  obtain ⟨name, -, hnone, rfl⟩ := mem_missing.1 h
  exact ⟨members, rfl, hnone⟩

theorem about_condition {conditions : List Condition} (h : complaint ∈ conditionComplaints conditions members) :
    complaint.About (.obj members) := by
  obtain ⟨condition, -, h⟩ := List.mem_flatMap.1 h
  split at h
  · exact about_missing h
  · cases h

/-- The violation stands at a node below the place and is about that node. -/
def AtNode (place : Pointer) (value : Json) (violation : Violation) : Prop :=
  ∃ rest node, violation.place = place ++ rest ∧ value.node? rest = some node ∧ violation.complaint.About node

theorem AtNode.here (hplace : violation.place = place) (habout : violation.complaint.About value) :
    AtNode place value violation :=
  ⟨[], value, by rw [hplace, List.append_nil], rfl, habout⟩

theorem AtNode.below {step : Step} {inner : Json} (hchild : value.child? step = some inner)
    (h : AtNode (place ++ [step]) inner violation) : AtNode place value violation := by
  obtain ⟨rest, node, hplace, hnode, habout⟩ := h
  refine ⟨step :: rest, node, by rw [hplace, List.append_assoc, List.singleton_append], ?_, habout⟩
  rw [Json.node?_cons, hchild]
  exact hnode

theorem atNode_complain {complaints : List Complaint} (habout : ∀ complaint ∈ complaints, complaint.About value)
    (h : violation ∈ complain place complaints) : AtNode place value violation := by
  obtain ⟨hplace, hcomplaint⟩ := mem_complain.1 h
  exact .here hplace (habout _ hcomplaint)

mutual

/-- Every violation in a value is about the node at its place. -/
theorem violation_at_node : ∀ (schema : Schema) (place : Pointer) (value : Json) {violation : Violation},
    violation ∈ violationsAt schema place value → AtNode place value violation
  | .array item, place, .arr items, violation, h => by
    obtain ⟨index, inner, hget, h⟩ := mem_violationsAt_arr.1 h
    have hinner := violation_at_node item (place ++ [.item index]) inner h
    exact .below (show (Json.arr items).child? (.item index) = some inner from hget) hinner
  | .object declared required conditions, place, .obj members, violation, h => by
    rw [violationsAt_obj] at h
    rcases List.mem_append.1 h with h | h
    · rcases List.mem_append.1 h with h | h
      · exact atNode_complain (fun _ => about_condition) h
      · exact member_violation_at_node declared place members h
    · exact atNode_complain (fun _ => about_missing) h
  | .string, _, _, _, h | .word, _, _, _, h | .choice _, _, _, _, h | .boolean, _, _, _, h | .integer, _, _, _, h
  | .natural, _, _, _, h | .number, _, _, _, h | .scalar, _, _, _, h
  | .array _, _, .null, _, h | .array _, _, .bool _, _, h | .array _, _, .num _, _, h | .array _, _, .str _, _, h
  | .array _, _, .obj _, _, h
  | .object .., _, .null, _, h | .object .., _, .bool _, _, h | .object .., _, .num _, _, h
  | .object .., _, .str _, _, h | .object .., _, .arr _, _, h => by
    rw [violationsAt] at h
    · exact atNode_complain (fun _ => about_scalar) h
    all_goals simp

theorem member_violation_at_node : ∀ (declared : List (String × Schema)) (place : Pointer) (members : Members)
    {violation : Violation}, violation ∈ memberViolations declared place members →
      AtNode place (.obj members) violation
  | [], _, _, _, h => by cases h
  | (name, schema) :: rest, place, members, violation, h => by
    rw [memberViolations] at h
    rcases List.mem_append.1 h with h | h
    · cases hget : Members.get? members name with
      | none =>
        rw [hget] at h
        cases h
      | some inner =>
        rw [hget] at h
        have hinner := violation_at_node schema (place ++ [.member name]) inner h
        exact .below (show (Json.obj members).child? (.member name) = some inner from hget) hinner
    · exact member_violation_at_node rest place members h

end

end Schema

/-! ### Where they are reported -/

open Yaml (Value)

/-- In a value that was read from a text every violation, of whatever schema, is about one node, whose pointer it
gives, and it is reported with the bytes of that node. -/
theorem violation_reported_at_node {text : String} {located : Located} {schema : Schema} {violation : Violation}
    (hread : Located.ofText? text = some located) (h : violation ∈ Schema.violations schema located.value) :
    ∃ root node, Value.ofText? text = some root ∧ root.node? violation.place = some node ∧
      located.value.resolve? violation.place.text = some node.json ∧ violation.complaint.About node.json ∧
      located.index.lookup violation.place.text = some node.span ∧
      located.spanAt violation.place = node.span := by
  obtain ⟨root, hroot, rfl⟩ := Option.map_eq_some_iff.1 hread
  have hkeys := Value.keysDiffer_of_text hroot
  obtain ⟨rest, value, hplace, hvalue, habout⟩ := Schema.violation_at_node schema [] _ h
  rw [List.nil_append] at hplace
  subst hplace
  obtain ⟨node, hnode, rfl⟩ := Option.map_eq_some_iff.1 ((hkeys.node?_json _).symm.trans hvalue)
  have hspan : (Located.ofValue root).spans.lookup violation.place = some node.span :=
    (lookup_eq_some_iff_mem (hkeys.places_nodup [])).2 ((hkeys.mem_spans _ _ _).2 ⟨_, node, rfl, hnode, rfl⟩)
  refine ⟨root, node, hroot, hnode, Json.resolve?_text hvalue, habout, Located.lookup_index hkeys hnode, ?_⟩
  rw [Located.spanAt, hspan]
  rfl

/-- A tagged mapping without most of the members of a product, after an entry that no schema knows. -/
def taggedText : String := "a/b: [~]\nmeta: !own \x7bname: 1\x7d\n"

def taggedValue : Value :=
  .mapping
    [(.scalar (.text "a/b") ⟨0, 3⟩, .sequence [.scalar .null ⟨6, 7⟩] ⟨5, 8⟩),
      (.scalar (.text "meta") ⟨9, 13⟩,
        .tagged "!own" (.mapping [(.scalar (.text "name") ⟨21, 25⟩, .scalar (.int 1) ⟨27, 28⟩)] ⟨15, 29⟩))]
    ⟨0, 30⟩

/-- The root that the product in it lacks. -/
def missingRoot : Violation := ⟨[.member "meta"], .missing "restRoot"⟩

/-- A schema that does know the first entry. -/
def slashedSchema : Schema := .object [("a/b", .array .string)] [] []

theorem taggedText_reported :
    Located.ofText? taggedText = some (.ofValue taggedValue) ∧
      missingRoot ∈ Schema.violations Schema.document taggedValue.json ∧
      (∃ root node, Value.ofText? taggedText = some root ∧ root.node? missingRoot.place = some node ∧
        taggedValue.json.resolve? missingRoot.place.text = some node.json ∧ missingRoot.complaint.About node.json ∧
        (Located.ofValue taggedValue).index.lookup missingRoot.place.text = some node.span ∧
        (Located.ofValue taggedValue).spanAt missingRoot.place = node.span) ∧
      (Located.ofValue taggedValue).spanAt missingRoot.place = ⟨15, 29⟩ ∧
      Schema.violations slashedSchema taggedValue.json = [⟨[.member "a/b", .item 0], .kind .null [.string]⟩] ∧
      (Located.ofValue taggedValue).index.lookup "/a~1b/0" = some ⟨6, 7⟩ := by
  have htokens : Yaml.Token.ofText taggedText =
      [⟨.blockMapping, 0, 0⟩, ⟨.key, 0, 0⟩, ⟨.scalar .plain "a/b", 0, 3⟩, ⟨.value, 3, 4⟩, ⟨.flowSequence, 5, 6⟩,
        ⟨.scalar .plain "~", 6, 7⟩, ⟨.flowSequenceEnd, 7, 8⟩, ⟨.key, 9, 9⟩, ⟨.scalar .plain "meta", 9, 13⟩,
        ⟨.value, 13, 14⟩, ⟨.tag "!" "own", 15, 19⟩, ⟨.flowMapping, 20, 21⟩, ⟨.key, 21, 21⟩,
        ⟨.scalar .plain "name", 21, 25⟩, ⟨.value, 25, 26⟩, ⟨.scalar .plain "1", 27, 28⟩, ⟨.flowMappingEnd, 28, 29⟩,
        ⟨.blockEnd, 30, 30⟩, ⟨.streamEnd, 30, 30⟩] := by
    decide +kernel
  have hvalue : Value.ofText? taggedText = some taggedValue := by
    rw [Value.ofText?, Yaml.Document.ofText?, htokens]
    rfl
  have hread : Located.ofText? taggedText = some (.ofValue taggedValue) :=
    Option.map_eq_some_iff.2 ⟨_, hvalue, rfl⟩
  have hmissing : missingRoot ∈ Schema.violations Schema.document taggedValue.json :=
    List.mem_of_getElem? (show (Schema.violations Schema.document taggedValue.json)[1]? = _ from rfl)
  exact ⟨hread, hmissing, violation_reported_at_node hread hmissing, by decide, rfl, by decide⟩

end AddonConfig
