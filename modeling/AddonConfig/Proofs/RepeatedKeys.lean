import AddonConfig.Proofs.Acceptance
import Mathlib.Data.List.Induction
import Mathlib.Data.List.NodupEquivFin
import Mathlib.Logic.Function.Basic

/-!
# Keys that come again

`ListsRepeated` says what the list of the repeated keys of some items is: every key that two items have, once, by
the position of its first item. `findDuplicates` gives it, and so does a table that notes for every key where it
was first seen and how often, in whatever order the table lists its entries (`duplicates_in_first_seen_order`).

Where items have two keys there are two such lists, one behind the other (`Collisions`). A text that repeats as
either key is in them, but twice if it repeats as both, and texts that repeat as the first key stand before all
others, wherever they are first seen (`repeated_texts_listed`).
-/

namespace AddonConfig

section
variable {α κ : Type} [DecidableEq κ] {key : α → κ} {items : List α} {keys : List κ} {k : κ}

/-- Items at two positions have the key. -/
def Repeats (key : α → κ) (items : List α) (k : κ) : Prop :=
  ∃ i j : Fin items.length, i < j ∧ key items[i] = k ∧ key items[j] = k

instance : Decidable (Repeats key items k) :=
  inferInstanceAs (Decidable (∃ i j : Fin items.length, i < j ∧ key items[i] = k ∧ key items[j] = k))

/-- The position of the first item with the key. -/
def firstPosition (key : α → κ) (items : List α) (k : κ) : Nat := items.findIdx fun item => key item = k

/-- The repeated keys of the items, each one once and by its first position. -/
structure ListsRepeated (key : α → κ) (items : List α) (found : List κ) : Prop where
  mem_iff : ∀ k, k ∈ found ↔ Repeats key items k
  nodup : found.Nodup
  ordered : found.Pairwise fun k l => firstPosition key items k < firstPosition key items l

theorem repeats_iff_count : Repeats key items k ↔ 1 < (items.map key).count k := by
  rw [← Nat.succ_le_iff, ← List.duplicate_iff_two_le_count, List.duplicate_iff_exists_distinct_get]
  constructor
  · rintro ⟨i, j, hlt, hi, hj⟩
    refine ⟨i.cast (List.length_map key).symm, j.cast (List.length_map key).symm, hlt, ?_, ?_⟩
    · simpa using hi.symm
    · simpa using hj.symm
  · rintro ⟨i, j, hlt, hi, hj⟩
    refine ⟨i.cast (List.length_map key), j.cast (List.length_map key), hlt, ?_, ?_⟩
    · simpa using hi.symm
    · simpa using hj.symm

theorem Repeats.mem_map (h : Repeats key items k) : k ∈ items.map key := by
  have hcount := repeats_iff_count.1 h
  exact List.count_pos_iff.1 (by omega)

theorem idxOf_map (key : α → κ) (items : List α) (k : κ) : (items.map key).idxOf k = firstPosition key items k := by
  rw [List.idxOf, List.findIdx_map, firstPosition]
  refine congrArg (List.findIdx · items) (funext fun item => ?_)
  rw [Function.comp_apply, beq_eq_decide]

/-! ### The order of first positions -/

theorem firstOccurrences_ordered (keys : List κ) :
    (firstOccurrences keys).Pairwise fun k l => keys.idxOf k < keys.idxOf l := by
  induction keys with
  | nil => exact .nil
  | cons first rest ih =>
    have hne : ∀ {k}, k ∈ (firstOccurrences rest).filter (· ≠ first) → first ≠ k := fun hk =>
      (of_decide_eq_true (List.mem_filter.1 hk).2).symm
    rw [firstOccurrences, List.pairwise_cons]
    constructor
    · intro k hk
      rw [List.idxOf_cons_self, List.idxOf_cons_ne _ (hne hk)]
      exact Nat.succ_pos _
    · refine (ih.filter _).imp_of_mem fun hk hl hlt => ?_
      rw [List.idxOf_cons_ne _ (hne hk), List.idxOf_cons_ne _ (hne hl)]
      exact Nat.succ_lt_succ hlt

theorem findDuplicates_listsRepeated (key : α → κ) (items : List α) :
    ListsRepeated key items (findDuplicates key items) := by
  have hordered : (findDuplicates key items).Pairwise
      fun k l => firstPosition key items k < firstPosition key items l := by
    simp only [← idxOf_map]
    exact (firstOccurrences_ordered _).filter _
  exact ⟨fun k => mem_findDuplicates.trans repeats_iff_count.symm, (firstOccurrences_nodup _).filter _, hordered⟩

/-- There is only one list of the repeated keys. -/
theorem ListsRepeated.unique {found other : List κ} (h : ListsRepeated key items found)
    (hother : ListsRepeated key items other) : found = other := by
  have hperm : found.Perm other :=
    (List.perm_ext_iff_of_nodup h.nodup hother.nodup).2 fun k => (h.mem_iff k).trans (hother.mem_iff k).symm
  exact hperm.eq_of_pairwise (fun _ _ _ _ hlt hgt => absurd hlt hgt.le.not_gt) h.ordered hother.ordered

end

/-! ### A table of keys -/

/-- What is noted of a key: the position where it was first seen and the number of its items. -/
structure Sighting where
  first : Nat
  count : Nat
  deriving DecidableEq, Repr

/-- The sightings of keys. -/
abbrev SightingTable (κ : Type) := κ → Option Sighting

/-- Entries by the positions where their keys were first seen. -/
def byFirst {κ : Type} (entries : List (κ × Sighting)) : List (κ × Sighting) :=
  entries.mergeSort fun entry other => entry.2.first ≤ other.2.first

/-- The keys of entries that were seen more than once, in the order in which they were first seen. -/
def repeatedOf {κ : Type} (entries : List (κ × Sighting)) : List κ :=
  (byFirst (entries.filter fun entry => 1 < entry.2.count)).map (·.1)

section
variable {κ : Type} {entries : List (κ × Sighting)} {k : κ}

theorem byFirst_perm (entries : List (κ × Sighting)) : (byFirst entries).Perm entries := List.mergeSort_perm _ _

theorem byFirst_ordered (entries : List (κ × Sighting)) :
    (byFirst entries).Pairwise fun entry other => entry.2.first ≤ other.2.first := by
  have hsorted : (byFirst entries).Pairwise fun entry other => decide (entry.2.first ≤ other.2.first) = true := by
    refine List.pairwise_mergeSort (fun entry middle other h h' => ?_) (fun entry other => ?_) entries
    · exact decide_eq_true ((of_decide_eq_true h).trans (of_decide_eq_true h'))
    · simpa using Nat.le_total entry.2.first other.2.first
  exact hsorted.imp of_decide_eq_true

theorem mem_repeatedOf : k ∈ repeatedOf entries ↔ ∃ seen, (k, seen) ∈ entries ∧ 1 < seen.count := by
  simp [repeatedOf, (byFirst_perm _).mem_iff]

theorem repeatedOf_nodup (h : (entries.map (·.1)).Nodup) : (repeatedOf entries).Nodup :=
  ((byFirst_perm _).map _).nodup_iff.2 (h.sublist (List.filter_sublist.map _))

end

namespace SightingTable
variable {α κ : Type} [DecidableEq κ] {key : α → κ} {items : List α} {keys : List κ} {k : κ}
  {entries : List (κ × Sighting)}

/-- The table after a key is seen at a position; a key that is new has been seen no times before. -/
def note (table : SightingTable κ) (k : κ) (position : Nat) : SightingTable κ :=
  let seen := (table k).getD ⟨position, 0⟩
  Function.update table k (some { seen with count := seen.count + 1 })

/-- The table of keys that are seen one after the other. -/
def ofKeys (keys : List κ) : SightingTable κ :=
  keys.zipIdx.foldl (fun table entry => table.note entry.1 entry.2) fun _ => none

/-- The entries are those of the table, in some order. -/
structure Listing (table : SightingTable κ) (entries : List (κ × Sighting)) : Prop where
  distinct : (entries.map (·.1)).Nodup
  mem_iff : ∀ k seen, (k, seen) ∈ entries ↔ table k = some seen

theorem note_self (table : SightingTable κ) (k : κ) (position : Nat) :
    table.note k position k = some (match table k with
      | some seen => ⟨seen.first, seen.count + 1⟩
      | none => ⟨position, 1⟩) := by
  rw [note, Function.update_self]
  cases table k <;> rfl

theorem note_of_ne {other : κ} (hne : other ≠ k) (table : SightingTable κ) (position : Nat) :
    table.note k position other = table other := by
  rw [note, Function.update_of_ne hne]

theorem ofKeys_concat (keys : List κ) (k : κ) : ofKeys (keys ++ [k]) = (ofKeys keys).note k keys.length := by
  rw [ofKeys, List.zipIdx_append, List.foldl_append, Nat.zero_add]
  rfl

/-- What the table has of a key when all keys have been seen. -/
theorem ofKeys_apply (keys : List κ) (k : κ) :
    ofKeys keys k = if k ∈ keys then some ⟨keys.idxOf k, keys.count k⟩ else none := by
  -- from the end of the list, where one key more is seen
  induction keys using List.reverseRecOn with
  | nil => rfl
  | append_singleton keys last ih =>
    rw [ofKeys_concat]
    by_cases hk : k = last
    · subst hk
      rw [note_self, ih, if_pos (List.mem_append_right _ (List.mem_singleton_self k)), List.count_append,
        List.count_singleton_self]
      by_cases hmem : k ∈ keys
      · rw [if_pos hmem, List.idxOf_append_of_mem hmem]
      · rw [if_neg hmem, List.idxOf_append_of_notMem hmem, List.idxOf_cons_self, List.count_eq_zero.2 hmem]
        rfl
    · have hzero : [last].count k = 0 := List.count_eq_zero.2 (by simpa using hk)
      rw [note_of_ne hk, ih, List.count_append, hzero, Nat.add_zero]
      by_cases hmem : k ∈ keys
      · rw [if_pos hmem, if_pos (List.mem_append_left _ hmem), List.idxOf_append_of_mem hmem]
      · rw [if_neg hmem, if_neg (by simp [hmem, hk])]

theorem ofKeys_eq_some_iff {seen : Sighting} :
    ofKeys keys k = some seen ↔ k ∈ keys ∧ seen = ⟨keys.idxOf k, keys.count k⟩ := by
  rw [ofKeys_apply]
  split_ifs with hmem
  · simp [hmem, eq_comm]
  · simp [hmem]

/-- Every table of keys has its entries in some order. -/
theorem ofKeys_listing (keys : List κ) :
    (ofKeys keys).Listing ((firstOccurrences keys).map fun k => (k, ⟨keys.idxOf k, keys.count k⟩)) where
  distinct := by
    rw [List.map_map]
    exact (List.map_id _).symm ▸ firstOccurrences_nodup keys
  mem_iff k seen := by
    rw [ofKeys_eq_some_iff, List.mem_map]
    constructor
    · rintro ⟨k, hk, heq⟩
      cases heq
      exact ⟨(mem_firstOccurrences _ _).1 hk, rfl⟩
    · rintro ⟨hk, rfl⟩
      exact ⟨k, (mem_firstOccurrences _ _).2 hk, rfl⟩

omit [DecidableEq κ] in
/-- Any other order of its entries will do. -/
theorem Listing.perm {table : SightingTable κ} {other : List (κ × Sighting)} (h : table.Listing entries)
    (hperm : entries.Perm other) : table.Listing other :=
  ⟨(hperm.map _).nodup_iff.1 h.distinct, fun k seen => hperm.mem_iff.symm.trans (h.mem_iff k seen)⟩

theorem Listing.repeatedOf_ordered (h : (ofKeys keys).Listing entries) :
    (repeatedOf entries).Pairwise fun k l => keys.idxOf k ≤ keys.idxOf l := by
  have hfirst : ∀ entry ∈ byFirst (entries.filter fun entry => 1 < entry.2.count),
      entry.2.first = keys.idxOf entry.1 := by
    intro entry hentry
    have hmem : entry ∈ entries := List.mem_of_mem_filter ((byFirst_perm _).mem_iff.1 hentry)
    rw [(ofKeys_eq_some_iff.1 ((h.mem_iff _ _).1 hmem)).2]
  rw [repeatedOf, List.pairwise_map]
  refine (byFirst_ordered _).imp_of_mem fun hentry hother hle => ?_
  rwa [← hfirst _ hentry, ← hfirst _ hother]

/-- What is read off the table are the repeated keys, whatever the order of its entries. -/
theorem Listing.listsRepeated (h : (ofKeys (items.map key)).Listing entries) :
    ListsRepeated key items (repeatedOf entries) := by
  have hmem : ∀ k, k ∈ repeatedOf entries ↔ Repeats key items k := by
    intro k
    rw [mem_repeatedOf, repeats_iff_count]
    simp only [h.mem_iff, ofKeys_eq_some_iff]
    constructor
    · rintro ⟨seen, ⟨-, rfl⟩, hcount⟩
      exact hcount
    · exact fun hcount => ⟨_, ⟨List.count_pos_iff.1 (by omega), rfl⟩, hcount⟩
  have hnodup : (repeatedOf entries).Nodup := repeatedOf_nodup h.distinct
  refine ⟨hmem, hnodup, (h.repeatedOf_ordered.and hnodup).imp_of_mem fun {k l} hk _ ⟨hle, hne⟩ => ?_⟩
  -- keys with one first position are one key
  rw [← idxOf_map, ← idxOf_map]
  exact Nat.lt_of_le_of_ne hle fun heq => hne ((List.idxOf_inj ((hmem k).1 hk).mem_map).1 heq)

end SightingTable

/-- `findDuplicates` lists the repeated keys, each one once and by its first position; and a table of the keys
gives the same list, whatever the order of its entries. -/
theorem duplicates_in_first_seen_order {α κ : Type} [DecidableEq κ] (key : α → κ) (items : List α) :
    ListsRepeated key items (findDuplicates key items) ∧
      ∀ entries, (SightingTable.ofKeys (items.map key)).Listing entries →
        repeatedOf entries = findDuplicates key items :=
  ⟨findDuplicates_listsRepeated key items,
    fun _ h => h.listsRepeated.unique (findDuplicates_listsRepeated key items)⟩

/-- The entries for seven texts, the one that is seen first at the end. -/
def turnedEntries : List (String × Sighting) := [("d", ⟨6, 1⟩), ("a", ⟨1, 2⟩), ("c", ⟨2, 1⟩), ("b", ⟨0, 3⟩)]

theorem turnedEntries_repeated :
    (SightingTable.ofKeys (["b", "a", "c", "a", "b", "b", "d"].map id)).Listing turnedEntries ∧
      repeatedOf turnedEntries = ["b", "a"] := by
  have hlisting : (SightingTable.ofKeys (["b", "a", "c", "a", "b", "b", "d"].map id)).Listing turnedEntries :=
    (SightingTable.ofKeys_listing _).perm (by decide)
  exact ⟨hlisting, ((duplicates_in_first_seen_order id _).2 _ hlisting).trans (by decide)⟩

/-! ### Items with two keys -/

section
variable {α : Type} {left right : α → String} {items : List α} {keys : List String} {k : String}

/-- The position of the first item in which a key that repeats is the text. -/
def firstCollision (left right : α → String) (items : List α) (k : String) : Nat :=
  items.findIdx fun item =>
    (left item = k ∧ Repeats left items k) ∨ (right item = k ∧ Repeats right items k)

/-- What is found of two keys: the texts that repeat as the first one, and then those that repeat as the second. -/
structure Collisions (left right : α → String) (items : List α) (keys : List String) : Prop where
  parts : ∃ lefts rights, keys = lefts ++ rights ∧ ListsRepeated left items lefts ∧
    ListsRepeated right items rights
  mem_iff : ∀ k, k ∈ keys ↔ Repeats left items k ∨ Repeats right items k
  /-- Each text comes once and in the order of the items exactly if none repeats as both keys and those that repeat
  as the first key are seen no later than those that repeat as the second. -/
  document_order_iff :
    (keys.Nodup ∧ keys.Pairwise fun k l => firstCollision left right items k ≤ firstCollision left right items l) ↔
      ∀ k l, Repeats left items k → Repeats right items l →
        k ≠ l ∧ firstPosition left items k ≤ firstPosition right items l

theorem firstCollision_left (h : Repeats left items k) (hright : ¬ Repeats right items k) :
    firstCollision left right items k = firstPosition left items k := by
  simp only [firstCollision, firstPosition, h, hright, and_true, and_false, or_false]

theorem firstCollision_right (hleft : ¬ Repeats left items k) (h : Repeats right items k) :
    firstCollision left right items k = firstPosition right items k := by
  simp only [firstCollision, firstPosition, h, hleft, and_true, and_false, false_or]

namespace ListsRepeated
variable {lefts rights : List String}

theorem nodup_append_iff (hlefts : ListsRepeated left items lefts) (hrights : ListsRepeated right items rights) :
    (lefts ++ rights).Nodup ↔ ∀ k, Repeats left items k → ¬ Repeats right items k := by
  rw [List.nodup_append]
  constructor
  · rintro ⟨-, -, hapart⟩ k hk hk'
    exact hapart k ((hlefts.mem_iff k).2 hk) k ((hrights.mem_iff k).2 hk') rfl
  · intro hapart
    refine ⟨hlefts.nodup, hrights.nodup, ?_⟩
    rintro k hk _ hk' rfl
    exact hapart k ((hlefts.mem_iff k).1 hk) ((hrights.mem_iff k).1 hk')

/-- If no text repeats as both keys, only the order of the first ones against the second ones is in question. -/
theorem ordered_append_iff (hlefts : ListsRepeated left items lefts) (hrights : ListsRepeated right items rights)
    (hapart : ∀ k, Repeats left items k → ¬ Repeats right items k) :
    (lefts ++ rights).Pairwise (fun k l => firstCollision left right items k ≤ firstCollision left right items l) ↔
      ∀ k l, Repeats left items k → Repeats right items l →
        firstPosition left items k ≤ firstPosition right items l := by
  have hleft : ∀ k ∈ lefts, firstCollision left right items k = firstPosition left items k := by
    intro k hk
    have hrepeats := (hlefts.mem_iff k).1 hk
    exact firstCollision_left hrepeats (hapart k hrepeats)
  have hright : ∀ k ∈ rights, firstCollision left right items k = firstPosition right items k := by
    intro k hk
    have hrepeats := (hrights.mem_iff k).1 hk
    exact firstCollision_right (fun hfirst => hapart k hfirst hrepeats) hrepeats
  rw [List.pairwise_append]
  constructor
  · rintro ⟨-, -, hcross⟩ k l hk hl
    have hmem := (hlefts.mem_iff k).2 hk
    have hmem' := (hrights.mem_iff l).2 hl
    rw [← hleft k hmem, ← hright l hmem']
    exact hcross k hmem l hmem'
  · intro hcross
    refine ⟨?_, ?_, fun k hk l hl => ?_⟩
    · refine hlefts.ordered.imp_of_mem fun hk hl hlt => ?_
      rw [hleft _ hk, hleft _ hl]
      exact hlt.le
    · refine hrights.ordered.imp_of_mem fun hk hl hlt => ?_
      rw [hright _ hk, hright _ hl]
      exact hlt.le
    · rw [hleft k hk, hright l hl]
      exact hcross k l ((hlefts.mem_iff k).1 hk) ((hrights.mem_iff l).1 hl)

theorem collisions (hlefts : ListsRepeated left items lefts) (hrights : ListsRepeated right items rights) :
    Collisions left right items (lefts ++ rights) where
  parts := ⟨lefts, rights, rfl, hlefts, hrights⟩
  mem_iff k := by rw [List.mem_append, hlefts.mem_iff, hrights.mem_iff]
  document_order_iff := by
    constructor
    · rintro ⟨hnodup, hordered⟩ k l hk hl
      have hapart := (hlefts.nodup_append_iff hrights).1 hnodup
      refine ⟨?_, (hlefts.ordered_append_iff hrights hapart).1 hordered k l hk hl⟩
      rintro rfl
      exact hapart k hk hl
    · intro h
      have hapart : ∀ k, Repeats left items k → ¬ Repeats right items k := fun k hk hk' => (h k k hk hk').1 rfl
      exact ⟨(hlefts.nodup_append_iff hrights).2 hapart,
        (hlefts.ordered_append_iff hrights hapart).2 fun k l hk hl => (h k l hk hl).2⟩

end ListsRepeated

theorem collisions_findPairDuplicates (left right : α → String) (items : List α) :
    Collisions left right items (findPairDuplicates left right items) :=
  (findDuplicates_listsRepeated left items).collisions (findDuplicates_listsRepeated right items)

theorem Collisions.of_ensureDistinct {collection : Collection}
    (h : ensureDistinct collection (findPairDuplicates left right items) = .error (.duplicates collection keys)) :
    Collisions left right items keys := by
  obtain ⟨-, heq⟩ := defect?_ensureDistinct.1 (Check.eq_error_iff.1 h)
  cases heq
  exact collisions_findPairDuplicates left right items

end

/-! ### The collections of a configuration -/

/-- Among choices nothing is found but choices or children that are alike. -/
theorem defect?_checkChoices {entity : String} {choices : List Choice} {collection : Collection} {keys : List String}
    (h : (checkChoices entity choices).defect? = some (.duplicates collection keys)) :
    collection = .children entity ∨ collection = .choices entity := by
  have hchildren : ∀ {children}, (checkChildren entity children).defect? = some (.duplicates collection keys) →
      collection = .children entity := by
    intro children hfound
    have heq := (defect?_ensureDistinct.1 hfound).2
    cases heq
    rfl
  unfold checkChoices at h
  split at h
  · exact .inl (hchildren h)
  · rw [Check.defect?_bind, Option.or_eq_some_iff, Check.defect?_forM] at h
    rcases h with h | ⟨-, h⟩
    · obtain ⟨children, -, hfound⟩ := List.exists_of_findSome?_eq_some h
      exact .inl (hchildren hfound)
    · have heq := (defect?_ensureDistinct.1 h).2
      cases heq
      exact .inr rfl

/-- Fields and labels that repeat are found by their own check. -/
theorem checkFieldKeys_of_checkEntityKeys {entities : List Entity} {keys : List String}
    (h : checkEntityKeys entities = .error (.duplicates .fields keys)) :
    checkFieldKeys entities = .error (.duplicates .fields keys) := by
  rw [Check.eq_error_iff] at h ⊢
  rw [checkEntityKeys, Check.defect?_bind, Option.or_eq_some_iff, Check.defect?_forM] at h
  rcases h with h | ⟨-, h⟩
  · exact h
  · obtain ⟨entity, -, hfound⟩ := List.exists_of_findSome?_eq_some h
    cases hchoices : entity.choices with
    | none => simp [hchoices] at hfound
    | some choices =>
      rw [hchoices] at hfound
      rcases defect?_checkChoices hfound with heq | heq <;> cases heq

/-- What the checks of tabs, services, entities and menu groups find are the texts that repeat as names, fields or
group names, and behind them those that repeat as titles or labels. -/
theorem repeated_texts_listed (tabs : List Tab) (services : List Service) (entities : List Entity)
    (groups : List MenuGroup) (keys : List String) :
    (checkTabKeys tabs = .error (.duplicates .tabs keys) → Collisions (·.name) (·.title) tabs keys) ∧
    (checkServiceKeys services = .error (.duplicates .services keys) →
      Collisions (·.name) (·.title) services keys) ∧
    (checkEntityKeys entities = .error (.duplicates .fields keys) →
      Collisions (·.field) (·.label) (entities.flatMap Entity.fields) keys) ∧
    (checkMenuKeys groups = .error (.duplicates .menuGroups keys) →
      Collisions (·.groupName) (·.groupTitle) groups keys) :=
  ⟨.of_ensureDistinct, .of_ensureDistinct, fun h => .of_ensureDistinct (checkFieldKeys_of_checkEntityKeys h),
    .of_ensureDistinct⟩

/-- Names and titles of which a title repeats first. -/
def crossedTexts : List (String × String) := [("a", "X"), ("b", "X"), ("b", "Y")]

def crossedTabs : List Tab := crossedTexts.map fun (name, title) => ⟨name, title, [], none, none⟩

def crossedServices : List Service :=
  crossedTexts.map fun (name, title) => ⟨name, title, [], none, none, none, none⟩

def crossedEntities : List Entity :=
  crossedTexts.map fun (field, label) => ⟨field, label, .text, none, none, none, [], none⟩

def crossedGroups : List MenuGroup := crossedTexts.map fun (name, title) => ⟨name, title, none⟩

theorem crossedTexts_listed :
    (checkTabKeys crossedTabs = .error (.duplicates .tabs ["b", "X"]) ∧
      Collisions (·.name) (·.title) crossedTabs ["b", "X"]) ∧
    (checkServiceKeys crossedServices = .error (.duplicates .services ["b", "X"]) ∧
      Collisions (·.name) (·.title) crossedServices ["b", "X"]) ∧
    (checkEntityKeys crossedEntities = .error (.duplicates .fields ["b", "X"]) ∧
      Collisions (·.field) (·.label) (crossedEntities.flatMap Entity.fields) ["b", "X"]) ∧
    (checkMenuKeys crossedGroups = .error (.duplicates .menuGroups ["b", "X"]) ∧
      Collisions (·.groupName) (·.groupTitle) crossedGroups ["b", "X"]) := by
  obtain ⟨htabs, hservices, hentities, hgroups⟩ :=
    repeated_texts_listed crossedTabs crossedServices crossedEntities crossedGroups ["b", "X"]
  exact ⟨⟨rfl, htabs rfl⟩, ⟨rfl, hservices rfl⟩, ⟨rfl, hentities rfl⟩, ⟨rfl, hgroups rfl⟩⟩

/-- The name that repeats is listed before the title that is seen twice before it. -/
theorem repeated_title_listed_late :
    ¬ ∀ (tabs : List Tab) (keys : List String), checkTabKeys tabs = .error (.duplicates .tabs keys) →
      keys.Nodup ∧ keys.Pairwise fun k l =>
        firstCollision Tab.name Tab.title tabs k ≤ firstCollision Tab.name Tab.title tabs l := by
  intro h
  have hordered := (h crossedTabs ["b", "X"] rfl).2
  revert hordered
  decide

end AddonConfig
