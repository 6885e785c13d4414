import AddonConfig.Json.Located
import AddonConfig.Proofs.FlowScanner

/-!
# The nodes of JSON text

Where the tokens of a JSON text make a YAML node, the node means the value that the text spells
(`means_of_text`). A name whose key was given up makes none.
-/

namespace AddonConfig.Yaml
open Json (Lexeme Phrase Spells)

/-! ### What nodes mean -/

namespace Node

/-- Wherever the node has a value, that is the JSON value. -/
def Means (node : Node) (value : Json) : Prop :=
  ∀ limit anchors found after, Value.ofNodeFrom? limit anchors node = some (found, after) →
    ∀ place, (Located.ofValueAt place found.value).value = value

def ItemsMean (items : List Node) (values : List Json) : Prop :=
  ∀ limit anchors found after, Value.ofItemsFrom? limit anchors items = some (found, after) →
    ∀ place index, (Located.ofItems place index (found.map (·.value))).1 = values

def EntriesMean (entries : List (Node × Node)) (members : List (String × Json)) : Prop :=
  ∀ limit anchors found after, Value.ofEntriesFrom? limit anchors entries = some (found, after) →
    ∀ place, (Located.ofEntries place (found.map fun entry => (entry.1.value, entry.2.value))).1 = members

section Meaning
variable {node : Node} {value : Json} {text name : String} {span : Span} {items : List Node} {values : List Json}
  {entries : List (Node × Node)} {members : List (String × Json)}

theorem means_quoted : Means (.scalar bare .quoted text span) (.str text) := by
  intro limit anchors found after h place
  cases h
  rfl

theorem means_plain (hmeans : Located.ofDatum (Datum.ofPlain text) = value) :
    Means (.scalar bare .plain text span) value := by
  intro limit anchors found after h place
  cases h
  exact hmeans

theorem itemsMean_nil : ItemsMean [] [] := by
  intro limit anchors found after h place index
  cases h
  rfl

theorem itemsMean_cons (hnode : Means node value) (hitems : ItemsMean items values) :
    ItemsMean (node :: items) (value :: values) := by
  intro limit anchors found after h place index
  obtain ⟨⟨first, middle⟩, hfirst, hrest⟩ := Option.bind_eq_some_iff.1 h
  obtain ⟨⟨others, last⟩, hothers, hall⟩ := Option.bind_eq_some_iff.1 hrest
  cases hall
  simp only [List.map_cons, Located.ofItems, hnode _ _ _ _ hfirst, hitems _ _ _ _ hothers]

theorem within?_eq_some {limit : Nat} {found measured : Measured} (h : Value.within? limit measured = some found) :
    found = measured := by
  unfold Value.within? at h
  split_ifs at h
  exact (Option.some.inj h).symm

theorem means_sequence (hitems : ItemsMean items values) : Means (.sequence bare items span) (.arr values) := by
  intro limit anchors found after h place
  obtain ⟨⟨measured, middle⟩, hmeasured, hrest⟩ := Option.bind_eq_some_iff.1 h
  obtain ⟨whole, hwithin, hall⟩ := Option.bind_eq_some_iff.1 hrest
  cases hall
  rw [within?_eq_some hwithin]
  exact congrArg Json.arr (hitems _ _ _ _ hmeasured place 0)

theorem entriesMean_nil : EntriesMean [] [] := by
  intro limit anchors found after h place
  cases h
  rfl

/-- A name is a key of its own text. -/
theorem entriesMean_cons (hnode : Means node value) (hentries : EntriesMean entries members) :
    EntriesMean ((.scalar bare .quoted name span, node) :: entries) ((name, value) :: members) := by
  intro limit anchors found after h place
  obtain ⟨⟨first, middle⟩, hfirst, hrest⟩ := Option.bind_eq_some_iff.1 h
  obtain ⟨⟨others, last⟩, hothers, hall⟩ := Option.bind_eq_some_iff.1 hrest
  dsimp only at hall
  split_ifs at hall
  cases hall
  have hothers' := hentries _ _ _ _ hothers place
  have hfirst' := hnode _ _ _ _ hfirst (place ++ [.member name])
  show (name, (Located.ofValueAt (place ++ [.member name]) first.value).value) :: _ = _
  rw [hfirst']
  exact congrArg _ hothers'

theorem means_mapping (hentries : EntriesMean entries members) :
    Means (.mapping bare entries span) (Json.ofMembers members) := by
  intro limit anchors found after h place
  obtain ⟨⟨measured, middle⟩, hmeasured, hrest⟩ := Option.bind_eq_some_iff.1 h
  obtain ⟨whole, hwithin, hall⟩ := Option.bind_eq_some_iff.1 hrest
  cases hall
  rw [within?_eq_some hwithin]
  exact congrArg Json.ofMembers (hentries _ _ _ _ hmeasured place)

end Meaning
/-! ### Reading nodes -/

/-- The tokens that begin a value. -/
def beginsValue : TokenKind → Bool
  | .flowSequence => true
  | .flowMapping => true
  | .scalar .. => true
  | _ => false

/-- The tokens begin with a token of that kind and go on so, or there is a fault. -/
theorem follows_cons {tokens : List Token} {kind : TokenKind} {kinds : List TokenKind}
    (h : Follows (tokens.map Token.kind) (kind :: kinds)) :
    (∃ start stop, tokens = [⟨.fault, start, stop⟩]) ∨
      ∃ start stop rest, tokens = ⟨kind, start, stop⟩ :: rest ∧ Follows (rest.map Token.kind) kinds := by
  generalize hkinds : tokens.map Token.kind = found at h
  cases h with
  | fault =>
    match tokens with
    | [⟨_, start, stop⟩] =>
      cases hkinds
      exact .inl ⟨start, stop, rfl⟩
  | cons _ h =>
    match tokens with
    | ⟨_, start, stop⟩ :: rest =>
      cases hkinds
      exact .inr ⟨start, stop, rest, rfl, h⟩

section Steps
variable {handles : TagHandles} {fuel : Nat} {allowed : Allowed} {tokens rest : List Token} {node : Node}
  {kind : TokenKind} {kinds : List TokenKind} {start stop : Nat} {style : ScalarStyle} {text : String}
  {items : List Node} {entries : List (Node × Node)} {place : Nat} {first : Bool}

/-- What is read where a token of that kind or a fault comes begins with the token, as a fault is never read. -/
theorem follows_of_read {β : Type} {reader : List Token → Option β} {found : β}
    (hfault : ∀ start stop, reader [⟨.fault, start, stop⟩] = none)
    (h : Follows (tokens.map Token.kind) (kind :: kinds)) (hread : reader tokens = some found) :
    ∃ start stop after, tokens = ⟨kind, start, stop⟩ :: after ∧ Follows (after.map Token.kind) kinds := by
  obtain ⟨start, stop, rfl⟩ | hcons := follows_cons h
  · rw [hfault] at hread
    cases hread
  · exact hcons

theorem read?_fault (start stop : Nat) : read? handles fuel allowed [⟨.fault, start, stop⟩] = none := by
  cases fuel <;> rfl

theorem read?_scalar (h : Follows (tokens.map Token.kind) (.scalar style text :: kinds))
    (hread : read? handles fuel allowed tokens = some (node, rest)) :
    (∃ span, node = .scalar bare style text span) ∧ Follows (rest.map Token.kind) kinds := by
  obtain ⟨start, stop, after, rfl, hafter⟩ := follows_of_read read?_fault h hread
  cases fuel with
  | zero => cases hread
  | succ fuel =>
    cases hread
    exact ⟨⟨_, rfl⟩, hafter⟩

theorem read?_sequence (h : Follows (tokens.map Token.kind) (.flowSequence :: kinds))
    (hread : read? handles fuel allowed tokens = some (node, rest)) :
    ∃ fuel after items stop span, Follows (after.map Token.kind) kinds ∧
      readFlowItems? handles fuel true after = some (items, stop, rest) ∧ node = .sequence bare items span := by
  obtain ⟨start, stop, after, rfl, hafter⟩ := follows_of_read read?_fault h hread
  cases fuel with
  | zero => cases hread
  | succ fuel =>
    obtain ⟨⟨items, place, left⟩, hitems, hall⟩ := Option.bind_eq_some_iff.1 hread
    cases hall
    exact ⟨fuel, after, items, place, _, hafter, hitems, rfl⟩

theorem read?_mapping (h : Follows (tokens.map Token.kind) (.flowMapping :: kinds))
    (hread : read? handles fuel allowed tokens = some (node, rest)) :
    ∃ fuel after entries stop span, Follows (after.map Token.kind) kinds ∧
      readFlowEntries? handles fuel true after = some (entries, stop, rest) ∧ node = .mapping bare entries span := by
  obtain ⟨start, stop, after, rfl, hafter⟩ := follows_of_read read?_fault h hread
  cases fuel with
  | zero => cases hread
  | succ fuel =>
    obtain ⟨⟨entries, place, left⟩, hentries, hall⟩ := Option.bind_eq_some_iff.1 hread
    cases hall
    exact ⟨fuel, after, entries, place, _, hafter, hentries, rfl⟩

/-- What comes before an item or a member: a comma, but for the first. -/
def lead (first : Bool) : List TokenKind := if first then [] else [.flowEntry]

/-- A reader of what a flow collection holds, up to the token that ends it. Its flag tells that nothing has been
read yet, so that no comma is due. -/
structure IsFlowReader {α : Type} (ending : TokenKind)
    (reader : Nat → Bool → List Token → Option (List α × Nat × List Token)) : Prop where
  exhausted : ∀ first tokens, reader 0 first tokens = none
  fault : ∀ fuel first start stop, reader fuel first [⟨.fault, start, stop⟩] = none
  last : ∀ fuel first start stop rest, reader (fuel + 1) first (⟨ending, start, stop⟩ :: rest) = some ([], stop, rest)
  comma : ∀ fuel start stop begun, reader fuel false (⟨.flowEntry, start, stop⟩ :: begun) = reader fuel true begun

namespace IsFlowReader
variable {α : Type} {ending : TokenKind} {reader : Nat → Bool → List Token → Option (List α × Nat × List Token)}
  {found : List α}

theorem of_ending (hreader : IsFlowReader ending reader) (h : Follows (tokens.map Token.kind) (ending :: kinds))
    (hread : reader fuel first tokens = some (found, place, rest)) :
    found = [] ∧ Follows (rest.map Token.kind) kinds := by
  obtain ⟨start, stop, after, rfl, hafter⟩ := follows_of_read (hreader.fault fuel first) h hread
  cases fuel with
  | zero =>
    rw [hreader.exhausted] at hread
    cases hread
  | succ fuel =>
    rw [hreader.last] at hread
    cases hread
    exact ⟨rfl, hafter⟩

/-- What comes after the comma is read as the first. -/
theorem of_lead (hreader : IsFlowReader ending reader) (h : Follows (tokens.map Token.kind) (lead first ++ kinds))
    (hread : reader fuel first tokens = some (found, place, rest)) :
    ∃ begun, Follows (begun.map Token.kind) kinds ∧ reader fuel true begun = some (found, place, rest) := by
  cases first with
  | true => exact ⟨tokens, h, hread⟩
  | false =>
    obtain ⟨start, stop, begun, rfl, hbegun⟩ := follows_of_read (hreader.fault fuel false) h hread
    exact ⟨begun, hbegun, hreader.comma fuel start stop begun ▸ hread⟩

end IsFlowReader

theorem isFlowReader_items : IsFlowReader .flowSequenceEnd (readFlowItems? handles) where
  exhausted _ _ := rfl
  fault fuel first start stop := by
    cases fuel with
    | zero => rfl
    | succ fuel => cases first <;> simp [readFlowItems?, read?_fault]
  last _ _ _ _ _ := rfl
  comma fuel start stop begun := by
    cases fuel with
    | zero => rfl
    | succ fuel =>
      match begun with
      | [] => rfl
      | ⟨kind, _, _⟩ :: begun => cases kind <;> rfl

/-- Where a value begins, it is the next item. -/
theorem readFlowItems?_begins {begun : List Token} (hkind : beginsValue kind = true) :
    readFlowItems? handles (fuel + 1) true (⟨kind, start, stop⟩ :: begun) = (do
      let (item, rest) ← read? handles fuel ⟨false, false⟩ (⟨kind, start, stop⟩ :: begun)
      let (items, stop, rest) ← readFlowItems? handles fuel false rest
      return (item :: items, stop, rest)) := by
  cases kind <;> first | rfl | cases hkind

/-- An item, and the items after it. -/
theorem readFlowItems?_item (h : Follows (tokens.map Token.kind) (lead first ++ kind :: kinds))
    (hkind : beginsValue kind = true)
    (hread : readFlowItems? handles fuel first tokens = some (items, place, rest)) :
    ∃ fuel begun item after others, Follows (begun.map Token.kind) (kind :: kinds) ∧
      read? handles fuel ⟨false, false⟩ begun = some (item, after) ∧
      readFlowItems? handles fuel false after = some (others, place, rest) ∧ items = item :: others := by
  obtain ⟨begun, hfollows, hbegun⟩ := isFlowReader_items.of_lead h hread
  obtain ⟨start, stop, after, rfl, -⟩ := follows_of_read (isFlowReader_items.fault fuel true) hfollows hbegun
  cases fuel with
  | zero => cases hbegun
  | succ fuel =>
    rw [readFlowItems?_begins hkind] at hbegun
    obtain ⟨⟨item, left⟩, hitem, hrest⟩ := Option.bind_eq_some_iff.1 hbegun
    obtain ⟨⟨others, _, _⟩, hothers, hall⟩ := Option.bind_eq_some_iff.1 hrest
    cases hall
    exact ⟨fuel, _, item, left, others, hfollows, hitem, hothers, rfl⟩

theorem isFlowReader_entries : IsFlowReader .flowMappingEnd (readFlowEntries? handles) where
  exhausted _ _ := rfl
  fault fuel first start stop := by
    cases fuel with
    | zero => rfl
    | succ fuel => cases first <;> simp [readFlowEntries?, read?_fault]
  last _ _ _ _ _ := rfl
  comma fuel start stop begun := by
    cases fuel with
    | zero => rfl
    | succ fuel =>
      match begun with
      | [] => rfl
      | ⟨kind, _, _⟩ :: begun => cases kind <;> rfl

/-- A value without the sign of its key is no entry. -/
theorem readFlowEntries?_unmarked
    (h : Follows (tokens.map Token.kind) (lead first ++ .scalar style text :: .value :: kinds))
    (hread : readFlowEntries? handles fuel first tokens = some (entries, place, rest)) : False := by
  obtain ⟨begun, hfollows, hbegun⟩ := isFlowReader_entries.of_lead h hread
  obtain ⟨start, stop, after, rfl, hafter⟩ := follows_of_read (isFlowReader_entries.fault fuel true) hfollows hbegun
  cases fuel with
  | zero => cases hbegun
  | succ fuel =>
    obtain ⟨⟨key, left⟩, hkey, hrest⟩ := Option.bind_eq_some_iff.1 hbegun
    obtain ⟨⟨others, _, _⟩, hothers, -⟩ := Option.bind_eq_some_iff.1 hrest
    have hleft := (read?_scalar hfollows hkey).2
    obtain ⟨start, stop, _, rfl, -⟩ := follows_of_read (isFlowReader_entries.fault fuel false) hleft hothers
    cases fuel with
    | zero => cases hothers
    | succ fuel => cases hothers

/-- The value of a member after its colon. -/
theorem readFlowEntries?_member
    (h : Follows (tokens.map Token.kind) (lead first ++ .key :: .scalar .quoted text :: .value :: kind :: kinds))
    (hkind : beginsValue kind = true)
    (hread : readFlowEntries? handles fuel first tokens = some (entries, place, rest)) :
    ∃ fuel begun span node after others, Follows (begun.map Token.kind) (kind :: kinds) ∧
      read? handles fuel ⟨false, false⟩ begun = some (node, after) ∧
      readFlowEntries? handles fuel false after = some (others, place, rest) ∧
      entries = (.scalar bare .quoted text span, node) :: others := by
  obtain ⟨begun, hfollows, hbegun⟩ := isFlowReader_entries.of_lead h hread
  obtain ⟨start, stop, after, rfl, hafter⟩ := follows_of_read (isFlowReader_entries.fault fuel true) hfollows hbegun
  cases fuel with
  | zero => cases hbegun
  | succ fuel =>
    obtain ⟨start, stop, rfl⟩ | ⟨start, stop, named, rfl, hnamed⟩ := follows_cons hafter
    · simp [readFlowEntries?, comesNext, read?_fault] at hbegun
    obtain ⟨⟨key, left⟩, hkey, hrest⟩ := Option.bind_eq_some_iff.1 hbegun
    obtain ⟨⟨span, rfl⟩, hleft⟩ := read?_scalar hafter hkey
    obtain ⟨start, stop, rfl⟩ | ⟨start, stop, begun, rfl, hvalue⟩ := follows_cons hleft
    · simp [isFlowReader_entries.fault] at hrest
    obtain ⟨start, stop, rfl⟩ | ⟨start, stop, more, rfl, -⟩ := follows_cons hvalue
    · simp [comesNext, read?_fault] at hrest
    have hpresent : comesNext [.flowEntry, .flowMappingEnd] (⟨kind, start, stop⟩ :: more) = false := by
      cases kind <;> first | rfl | cases hkind
    simp only [hpresent, Bool.false_eq_true, if_false] at hrest
    obtain ⟨⟨node, after⟩, hnode, hrest⟩ := Option.bind_eq_some_iff.1 hrest
    obtain ⟨⟨others, _, _⟩, hothers, hall⟩ := Option.bind_eq_some_iff.1 hrest
    cases hall
    exact ⟨fuel, _, span, node, after, others, hvalue, hnode, hothers, rfl⟩

end Steps

/-! ### Reading values -/

/-- The keywords and numerals mean as plain scalars what they mean as JSON. -/
def WordsAgree (lexemes : List Lexeme) : Prop :=
  ∀ chars value, .word chars ∈ lexemes → Json.WordMeans chars value →
    Located.ofDatum (Datum.ofPlain (String.ofList chars)) = value

theorem WordsAgree.mono {lexemes others : List Lexeme} (h : WordsAgree lexemes) (hsub : others ⊆ lexemes) :
    WordsAgree others :=
  fun chars value hmem => h chars value (hsub hmem)

/-- What is read of the tokens of lexemes means what they spell, and all of them are taken. -/
def Reads : Phrase → List Lexeme → Prop
  | .value value, lexemes => ∀ kinds, Marked lexemes kinds →
      (∃ kind others, kinds = kind :: others ∧ beginsValue kind = true) ∧
        ∀ handles fuel allowed tokens node rest more, Follows (tokens.map Token.kind) (kinds ++ more) →
          read? handles fuel allowed tokens = some (node, rest) →
            Means node value ∧ Follows (rest.map Token.kind) more
  | .items values, lexemes => ∀ kinds, Marked lexemes kinds →
      ∀ handles fuel first tokens items place rest more,
        Follows (tokens.map Token.kind) (lead first ++ (kinds ++ more)) →
          readFlowItems? handles fuel first tokens = some (items, place, rest) →
            ItemsMean items values ∧ Follows (rest.map Token.kind) more
  | .members members, lexemes => ∀ kinds, Marked lexemes kinds →
      ∀ handles fuel first tokens entries place rest more,
        Follows (tokens.map Token.kind) (lead first ++ (kinds ++ more)) →
          readFlowEntries? handles fuel first tokens = some (entries, place, rest) →
            EntriesMean entries members ∧ Follows (rest.map Token.kind) more

section Phrases
variable {value : Json} {values : List Json} {members : List (String × Json)} {lexemes first : List Lexeme}
  {name text : String} {chars : List Char}

theorem reads_scalar {lexeme : Lexeme} {style : ScalarStyle} (htoken : tokenOf lexeme = .scalar style text)
    (hmeans : ∀ span, Means (.scalar bare style text span) value) : Reads (.value value) [lexeme] := by
  intro kinds h
  rw [h.of_singleton, htoken]
  refine ⟨⟨_, _, rfl, rfl⟩, fun handles fuel allowed tokens node rest more hfollows hread => ?_⟩
  obtain ⟨⟨span, rfl⟩, hrest⟩ := read?_scalar hfollows hread
  exact ⟨hmeans span, hrest⟩

theorem reads_emptyArray : Reads (.value (.arr [])) [.opening .square, .closing .square] := by
  intro kinds h
  obtain ⟨inner, rfl, hinner⟩ := h.of_opening
  rw [hinner.of_singleton]
  refine ⟨⟨_, _, rfl, rfl⟩, fun handles fuel allowed tokens node rest more hfollows hread => ?_⟩
  obtain ⟨fuel, after, items, stop, span, hafter, hitems, rfl⟩ := read?_sequence hfollows hread
  obtain ⟨rfl, hrest⟩ := isFlowReader_items.of_ending hafter hitems
  exact ⟨means_sequence itemsMean_nil, hrest⟩

theorem reads_array (h : Reads (.items values) lexemes) : Reads (.value (.arr values)) (.opening .square :: lexemes) := by
  intro kinds hmarked
  obtain ⟨inner, rfl, hinner⟩ := hmarked.of_opening
  refine ⟨⟨_, _, rfl, rfl⟩, fun handles fuel allowed tokens node rest more hfollows hread => ?_⟩
  obtain ⟨fuel, after, items, stop, span, hafter, hitems, rfl⟩ := read?_sequence hfollows hread
  obtain ⟨hmeans, hrest⟩ := h inner hinner handles fuel true after items stop rest more hafter hitems
  exact ⟨means_sequence hmeans, hrest⟩

theorem reads_lastItem (h : Reads (.value value) lexemes) : Reads (.items [value]) (lexemes ++ [.closing .square]) := by
  intro kinds hmarked handles fuel first tokens items place rest more hfollows hread
  obtain ⟨inner, after, rfl, hinner, hnone⟩ := hmarked.split (.inr ⟨.square, rfl⟩)
  obtain rfl := hnone.of_nil
  obtain ⟨⟨kind, others, rfl, hkind⟩, hvalue⟩ := h inner hinner
  rw [List.append_assoc] at hfollows
  obtain ⟨fuel, begun, item, left, items, hbegun, hitem, hitems, rfl⟩ := readFlowItems?_item hfollows hkind hread
  obtain ⟨hmeans, hleft⟩ := hvalue _ _ _ _ _ _ (tokenOf (.closing .square) :: more) hbegun hitem
  obtain ⟨rfl, hrest⟩ := isFlowReader_items.of_ending hleft hitems
  exact ⟨itemsMean_cons hmeans itemsMean_nil, hrest⟩

theorem reads_item (hfirst : Reads (.value value) first) (h : Reads (.items values) lexemes) :
    Reads (.items (value :: values)) (first ++ .comma :: lexemes) := by
  intro kinds hmarked handles fuel start tokens items place rest more hfollows hread
  obtain ⟨inner, after, rfl, hinner, hafter⟩ := hmarked.split (.inl rfl)
  obtain ⟨⟨kind, others, rfl, hkind⟩, hvalue⟩ := hfirst inner hinner
  rw [List.append_assoc] at hfollows
  obtain ⟨fuel, begun, item, left, items, hbegun, hitem, hitems, rfl⟩ := readFlowItems?_item hfollows hkind hread
  obtain ⟨hmeans, hleft⟩ := hvalue _ _ _ _ _ _ (tokenOf .comma :: after ++ more) hbegun hitem
  obtain ⟨hothers, hrest⟩ := h after hafter handles fuel false left items place rest more hleft hitems
  exact ⟨itemsMean_cons hmeans hothers, hrest⟩

theorem reads_emptyObject : Reads (.value (Json.ofMembers [])) [.opening .curly, .closing .curly] := by
  intro kinds h
  obtain ⟨inner, rfl, hinner⟩ := h.of_opening
  rw [hinner.of_singleton]
  refine ⟨⟨_, _, rfl, rfl⟩, fun handles fuel allowed tokens node rest more hfollows hread => ?_⟩
  obtain ⟨fuel, after, entries, stop, span, hafter, hentries, rfl⟩ := read?_mapping hfollows hread
  obtain ⟨rfl, hrest⟩ := isFlowReader_entries.of_ending hafter hentries
  exact ⟨means_mapping entriesMean_nil, hrest⟩

theorem reads_object (h : Reads (.members members) lexemes) :
    Reads (.value (Json.ofMembers members)) (.opening .curly :: lexemes) := by
  intro kinds hmarked
  obtain ⟨inner, rfl, hinner⟩ := hmarked.of_opening
  refine ⟨⟨_, _, rfl, rfl⟩, fun handles fuel allowed tokens node rest more hfollows hread => ?_⟩
  obtain ⟨fuel, after, entries, stop, span, hafter, hentries, rfl⟩ := read?_mapping hfollows hread
  obtain ⟨hmeans, hrest⟩ := h inner hinner handles fuel true after entries stop rest more hafter hentries
  exact ⟨means_mapping hmeans, hrest⟩

theorem reads_lastMember (h : Reads (.value value) lexemes) :
    Reads (.members [(name, value)]) (.quoted name :: .colon :: lexemes ++ [.closing .curly]) := by
  intro kinds hmarked handles fuel first tokens entries place rest more hfollows hread
  obtain ⟨named, hnamed, rfl | rfl⟩ := hmarked.of_name
  · exact (readFlowEntries?_unmarked hfollows hread).elim
  obtain ⟨inner, after, rfl, hinner, hnone⟩ := hnamed.split (.inr ⟨.curly, rfl⟩)
  obtain rfl := hnone.of_nil
  obtain ⟨⟨kind, others, rfl, hkind⟩, hvalue⟩ := h inner hinner
  simp only [List.cons_append, List.append_assoc] at hfollows
  obtain ⟨fuel, begun, span, node, left, entries, hbegun, hnode, hentries, rfl⟩ :=
    readFlowEntries?_member hfollows hkind hread
  obtain ⟨hmeans, hleft⟩ := hvalue _ _ _ _ _ _ (tokenOf (.closing .curly) :: more) hbegun hnode
  obtain ⟨rfl, hrest⟩ := isFlowReader_entries.of_ending hleft hentries
  exact ⟨entriesMean_cons hmeans entriesMean_nil, hrest⟩

theorem reads_member (hfirst : Reads (.value value) first) (h : Reads (.members members) lexemes) :
    Reads (.members ((name, value) :: members)) (.quoted name :: .colon :: first ++ .comma :: lexemes) := by
  intro kinds hmarked handles fuel start tokens entries place rest more hfollows hread
  obtain ⟨named, hnamed, rfl | rfl⟩ := hmarked.of_name
  · exact (readFlowEntries?_unmarked hfollows hread).elim
  obtain ⟨inner, after, rfl, hinner, hafter⟩ := hnamed.split (.inl rfl)
  obtain ⟨⟨kind, others, rfl, hkind⟩, hvalue⟩ := hfirst inner hinner
  simp only [List.cons_append, List.append_assoc] at hfollows
  obtain ⟨fuel, begun, span, node, left, entries, hbegun, hnode, hentries, rfl⟩ :=
    readFlowEntries?_member hfollows hkind hread
  obtain ⟨hmeans, hleft⟩ := hvalue _ _ _ _ _ _ (tokenOf .comma :: after ++ more) hbegun hnode
  obtain ⟨hothers, hrest⟩ := h after hafter handles fuel false left entries place rest more hleft hentries
  exact ⟨entriesMean_cons hmeans hothers, hrest⟩

end Phrases

/-- Lexemes are read as what they spell. -/
theorem reads_of_spells {phrase : Phrase} {lexemes : List Lexeme} (h : Spells phrase lexemes)
    (hwords : WordsAgree lexemes) : Reads phrase lexemes := by
  induction h with
  | word h => exact reads_scalar rfl fun _ => means_plain (hwords _ _ List.mem_cons_self h)
  | quoted text => exact reads_scalar rfl fun _ => means_quoted
  | emptyArray => exact reads_emptyArray
  | array _ ih => exact reads_array (ih (hwords.mono (by simp)))
  | lastItem _ ih => exact reads_lastItem (ih (hwords.mono (by simp)))
  | item _ _ ihFirst ih => exact reads_item (ihFirst (hwords.mono (by simp))) (ih (hwords.mono (by simp)))
  | emptyObject => exact reads_emptyObject
  | object _ ih => exact reads_object (ih (hwords.mono (by simp)))
  | lastMember _ ih => exact reads_lastMember (ih (hwords.mono fun _ hmem => by simp [hmem]))
  | member _ _ ihFirst ih =>
    exact reads_member (ihFirst (hwords.mono fun _ hmem => by simp [hmem]))
      (ih (hwords.mono fun _ hmem => by simp [hmem]))

end Node

/-! ### Whole texts -/

/-- Where a document begins with a value, that is read, and then the document may be marked as ended. -/
theorem document_read {start stop : Nat} {after rest : List Token} {root : Option Node} {kind : TokenKind}
    (hkind : Node.beginsValue kind = true)
    (hread : Document.ofTokens? (⟨kind, start, stop⟩ :: after) = some (root, rest)) :
    ∃ fuel left, ∃ node,
      Node.read? standardHandles fuel ⟨true, false⟩ (⟨kind, start, stop⟩ :: after) = some (node, left) ∧
        (match left with
          | ⟨.fault, _, _⟩ :: _ => none
          | ⟨.documentEnd, _, _⟩ :: rest => some (some node, rest)
          | rest => some (some node, rest)) = some (root, rest) := by
  have hbegins : Node.comesNext [.streamEnd] (⟨kind, start, stop⟩ :: after) = false := by
    have hne : kind ≠ .streamEnd := by rintro rfl; cases hkind
    simp [Node.comesNext, hne]
  simp only [Document.ofTokens?, hbegins, Bool.false_eq_true, if_false] at hread
  cases kind <;> cases hkind
  all_goals
    obtain ⟨⟨directives, begun⟩, hdirectives, hread⟩ := Option.bind_eq_some_iff.1 hread
    cases hdirectives
    simp only [Document.ofTokens?.startsDirectives, Bool.false_eq_true, if_false] at hread
    obtain ⟨⟨node, left⟩, hnode, hrest⟩ := Option.bind_eq_some_iff.1 hread
    exact ⟨_, left, node, hnode, hrest⟩

/-- A document that begins with a value is that value. -/
theorem root_of_document {tokens rest : List Token} {root : Option Node} {kind : TokenKind} {kinds : List TokenKind}
    (hfollows : Follows (tokens.map Token.kind) (kind :: kinds)) (hkind : Node.beginsValue kind = true)
    (hread : Document.ofTokens? tokens = some (root, rest)) :
    ∃ handles fuel allowed node left, Node.read? handles fuel allowed tokens = some (node, left) ∧ root = some node := by
  obtain ⟨start, stop, rfl⟩ | ⟨start, stop, after, rfl, -⟩ := Node.follows_cons hfollows
  · simp [Document.ofTokens?, Node.comesNext, readDirectives?, Document.ofTokens?.startsDirectives,
      Node.read?_fault] at hread
  · obtain ⟨fuel, left, node, hnode, hrest⟩ := document_read hkind hread
    refine ⟨_, fuel, _, node, left, hnode, ?_⟩
    split at hrest
    · cases hrest
    · cases hrest
      rfl
    · cases hrest
      rfl

/-- Where a text whose lexemes spell a JSON value is read as YAML, that value is read. -/
theorem means_of_text {text : String} {located : Located} {value : Json} {lexemes : List Lexeme}
    (hspells : Spells (.value value) lexemes) (hahead : Ahead lexemes text.toList)
    (hwords : Node.WordsAgree lexemes) (hread : Located.ofText? text = some located) : located.value = value := by
  obtain ⟨kinds, hmarked, hfollows⟩ := follows_of_text hahead (legal_of_spells hspells)
  obtain ⟨⟨kind, others, rfl, hkind⟩, hvalue⟩ := Node.reads_of_spells hspells hwords kinds hmarked
  obtain ⟨found, hfound, rfl⟩ := Option.map_eq_some_iff.1 hread
  obtain ⟨root, hdocument, hroot⟩ := Option.bind_eq_some_iff.1 hfound
  obtain ⟨⟨root, rest⟩, htokens, rfl⟩ := Option.map_eq_some_iff.1 hdocument
  obtain ⟨handles, fuel, allowed, node, left, hnode, rfl⟩ := root_of_document hfollows hkind htokens
  obtain ⟨hmeans, -⟩ := hvalue _ _ _ _ _ _ _ hfollows hnode
  obtain ⟨⟨measured, anchors⟩, hmeasured, rfl⟩ := Option.map_eq_some_iff.1 hroot
  exact hmeans _ _ _ _ hmeasured []

end AddonConfig.Yaml
