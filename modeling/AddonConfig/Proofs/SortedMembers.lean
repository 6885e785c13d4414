import AddonConfig.Json.Basic
import Mathlib.Data.List.Induction
import Mathlib.Data.List.Nodup
import Mathlib.Data.String.Basic

/-!
# Members in the order of their names

`Members.Ordered` lists have one entry a name and are determined by what they give for each name
(`Ordered.ext`). `Json.sorted` orders the members of every object and changes nothing that is ordered
already (`Sorted.sorted_eq`).
-/

namespace AddonConfig

namespace Members
variable {members others : Members} {name : String} {value : Json}

@[simp] theorem get?_nil (name : String) : get? [] name = none := rfl

theorem get?_cons (entry : String × Json) (rest : Members) (name : String) :
    get? (entry :: rest) name = if name = entry.1 then some entry.2 else get? rest name := by
  unfold get?
  rw [List.lookup_cons]
  split <;> simp_all

theorem get?_append (front back : Members) (name : String) :
    get? (front ++ back) name = (get? front name).or (get? back name) :=
  List.lookup_append

theorem get?_eq_none_iff : get? members name = none ↔ name ∉ members.map (·.1) := by
  induction members with
  | nil => simp
  | cons entry rest ih => by_cases h : name = entry.1 <;> simp [get?_cons, h, ih]

theorem mem_of_get? (h : get? members name = some value) : (name, value) ∈ members := by
  induction members with
  | nil => cases h
  | cons entry rest ih =>
    rw [get?_cons] at h
    split at h
    case isTrue hname =>
      cases h
      subst hname
      exact List.mem_cons_self
    case isFalse => exact List.mem_cons_of_mem _ (ih h)

theorem get?_of_mem (hnodup : (members.map (·.1)).Nodup) (h : (name, value) ∈ members) :
    get? members name = some value := by
  induction members with
  | nil => cases h
  | cons entry rest ih =>
    rw [List.map_cons, List.nodup_cons] at hnodup
    rw [get?_cons]
    rcases List.mem_cons.1 h with rfl | h
    · rw [if_pos rfl]
    · have hne : name ≠ entry.1 := fun heq => hnodup.1 (heq ▸ List.mem_map.2 ⟨_, h, rfl⟩)
      rw [if_neg hne, ih hnodup.2 h]

theorem get?_insert (name : String) (value : Json) (members : Members) (other : String) :
    get? (insert name value members) other = if other = name then some value else get? members other := by
  induction members with
  | nil => rw [insert, get?_cons]
  | cons entry rest ih =>
    obtain ⟨found, old⟩ := entry
    unfold insert
    by_cases hlt : name < found
    · rw [if_pos hlt, get?_cons]
    by_cases heq : name = found
    · subst heq
      rw [if_neg hlt, if_pos rfl, get?_cons, get?_cons]
      by_cases h : other = name <;> simp [h]
    · rw [if_neg hlt, if_neg heq, get?_cons, get?_cons, ih]
      by_cases h : other = found
      · subst h
        simp [Ne.symm heq]
      · simp [h]

/-- Of several entries with one name the last wins. -/
theorem get?_ofList (entries : List (String × Json)) (name : String) :
    get? (ofList entries) name = get? entries.reverse name := by
  induction entries using List.reverseRecOn with
  | nil => rfl
  | append_singleton entries entry ih =>
    have hlast : ofList (entries ++ [entry]) = insert entry.1 entry.2 (ofList entries) := by
      simp [ofList]
    rw [hlast, get?_insert, ih, List.reverse_append, List.reverse_singleton, List.singleton_append,
      get?_cons]

theorem get?_ofList_of_nodup {entries : List (String × Json)} (h : (entries.map (·.1)).Nodup)
    (name : String) : get? (ofList entries) name = get? entries name := by
  rw [get?_ofList]
  have hreverse : (entries.reverse.map (·.1)).Nodup := by
    rw [List.map_reverse]; exact List.nodup_reverse.2 h
  cases hget : get? entries name with
  | none =>
    rw [get?_eq_none_iff] at hget ⊢
    rwa [List.map_reverse, List.mem_reverse]
  | some value => exact get?_of_mem hreverse (List.mem_reverse.2 (mem_of_get? hget))

theorem get?_filter (p : String → Bool) (members : Members) (name : String) :
    get? (members.filter fun entry => p entry.1) name = if p name then get? members name else none := by
  induction members with
  | nil => simp
  | cons entry rest ih =>
    rw [List.filter_cons, get?_cons]
    by_cases hname : name = entry.1
    · subst hname
      by_cases hp : p entry.1 <;> simp [hp, get?_cons, ih]
    · by_cases hp : p entry.1 <;> simp [hp, hname, get?_cons, ih]

theorem get?_erase (erased : String) (members : Members) (name : String) :
    get? (erase erased members) name = if name = erased then none else get? members name := by
  unfold erase
  rw [get?_filter (· != erased)]
  by_cases h : name = erased <;> simp [h]

theorem mem_insert {entry : String × Json} (h : entry ∈ insert name value members) :
    entry = (name, value) ∨ entry ∈ members := by
  induction members with
  | nil => simpa [insert] using h
  | cons found rest ih =>
    obtain ⟨other, old⟩ := found
    unfold insert at h
    split_ifs at h with hlt heq
    · exact List.mem_cons.1 h
    · exact (List.mem_cons.1 h).imp_right (List.mem_cons_of_mem _)
    · rcases List.mem_cons.1 h with h | h
      · exact .inr (h ▸ List.mem_cons_self)
      · exact (ih h).imp_right (List.mem_cons_of_mem _)

/-- The names stand in strictly increasing order. -/
def Ordered (members : Members) : Prop := members.Pairwise (·.1 < ·.1)

namespace Ordered

theorem nodup (h : Ordered members) : (members.map (·.1)).Nodup :=
  List.pairwise_map.2 (h.imp fun hlt => ne_of_lt hlt)

theorem filter (h : Ordered members) (p : String × Json → Bool) : Ordered (members.filter p) :=
  List.Pairwise.filter p h

theorem insert (h : Ordered members) (name : String) (value : Json) :
    Ordered (Members.insert name value members) := by
  induction members with
  | nil => exact List.pairwise_singleton _ _
  | cons found rest ih =>
    obtain ⟨other, old⟩ := found
    obtain ⟨hfound, hrest⟩ := List.pairwise_cons.1 h
    unfold Members.insert
    split_ifs with hlt heq
    · refine List.pairwise_cons.2 ⟨fun entry hentry => ?_, h⟩
      rcases List.mem_cons.1 hentry with rfl | hentry
      · exact hlt
      · exact lt_trans hlt (hfound entry hentry)
    · subst heq
      exact List.pairwise_cons.2 ⟨hfound, hrest⟩
    · have hgt : other < name := lt_of_le_of_ne (not_lt.1 hlt) (Ne.symm heq)
      refine List.pairwise_cons.2 ⟨fun entry hentry => ?_, ih hrest⟩
      rcases mem_insert hentry with rfl | hentry
      · exact hgt
      · exact hfound entry hentry

theorem ofList (entries : List (String × Json)) : Ordered (ofList entries) := by
  induction entries using List.reverseRecOn with
  | nil => exact List.Pairwise.nil
  | append_singleton entries entry ih =>
    have hlast : Members.ofList (entries ++ [entry])
        = Members.insert entry.1 entry.2 (Members.ofList entries) := by
      simp [Members.ofList]
    rw [hlast]
    exact ih.insert _ _

/-- Nothing is found under a name below the first. -/
theorem get?_eq_none_of_lt {entry : String × Json} (h : Ordered (entry :: members))
    (hlt : name < entry.1) : get? (entry :: members) name = none := by
  rw [get?_eq_none_iff, List.map_cons, List.mem_cons]
  rintro (rfl | hmem)
  · exact lt_irrefl _ hlt
  · obtain ⟨other, hother, rfl⟩ := List.mem_map.1 hmem
    exact lt_asymm hlt ((List.pairwise_cons.1 h).1 other hother)

/-- Ordered members are determined by what they give for each name. -/
theorem ext (h : Ordered members) (h' : Ordered others)
    (hget : ∀ name, get? members name = get? others name) : members = others := by
  induction members generalizing others with
  | nil =>
    cases others with
    | nil => rfl
    | cons entry rest => simpa [get?_cons] using hget entry.1
  | cons entry rest ih =>
    cases others with
    | nil => simpa [get?_cons] using hget entry.1
    | cons entry' rest' =>
      have hname : entry.1 = entry'.1 := by
        rcases lt_trichotomy entry.1 entry'.1 with hlt | heq | hgt
        · have hnone := hget entry.1
          rw [get?_eq_none_of_lt h' hlt] at hnone
          simp [get?_cons] at hnone
        · exact heq
        · have hnone := hget entry'.1
          rw [get?_eq_none_of_lt h hgt] at hnone
          simp [get?_cons] at hnone
      have hvalue : entry.2 = entry'.2 := by
        have := hget entry.1
        simpa [get?_cons, hname] using this
      have hentry : entry = entry' := Prod.ext hname hvalue
      subst hentry
      rw [ih (List.pairwise_cons.1 h).2 (List.pairwise_cons.1 h').2 fun name => ?_]
      by_cases heq : name = entry.1
      · have hfresh := (List.nodup_cons.1 h.nodup).1
        have hfresh' := (List.nodup_cons.1 h'.nodup).1
        rw [heq, get?_eq_none_iff.2 hfresh, get?_eq_none_iff.2 hfresh']
      · simpa [get?_cons, heq] using hget name

theorem ofList_eq (h : Ordered members) : Members.ofList members = members :=
  (Ordered.ofList members).ext h fun name => get?_ofList_of_nodup h.nodup name

end Ordered
end Members

namespace Json

theorem sortedItems_eq_map (items : List Json) : sortedItems items = items.map sorted := by
  induction items with
  | nil => rfl
  | cons item rest ih => rw [sortedItems, ih, List.map_cons]

theorem sortedMembers_eq_map (members : Members) :
    sortedMembers members = members.map fun entry => (entry.1, entry.2.sorted) := by
  induction members with
  | nil => rfl
  | cons entry rest ih => obtain ⟨name, value⟩ := entry; rw [sortedMembers, ih, List.map_cons]

theorem sorted_arr (items : List Json) : (Json.arr items).sorted = .arr (items.map sorted) := by
  rw [sorted, sortedItems_eq_map]

/-- A name gives in a sorted object what it gives in the object, sorted. -/
theorem get?_sorted {members : Members} (h : (members.map (·.1)).Nodup) (name : String) :
    Members.get? (Members.ofList (sortedMembers members)) name = (Members.get? members name).map sorted := by
  rw [sortedMembers_eq_map, Members.get?_ofList_of_nodup]
  · induction members with
    | nil => rfl
    | cons entry rest ih =>
      rw [List.map_cons, Members.get?_cons, Members.get?_cons, ih (List.nodup_cons.1 h).2]
      split_ifs <;> rfl
  · simpa [List.map_map, Function.comp_def] using h

mutual

/-- Every object of the value lists its members in the order of their names, one a name. -/
def Sorted : Json → Prop
  | .arr items => SortedItems items
  | .obj members => Members.Ordered members ∧ SortedMembers members
  | _ => True

def SortedItems : List Json → Prop
  | [] => True
  | item :: rest => Sorted item ∧ SortedItems rest

def SortedMembers : List (String × Json) → Prop
  | [] => True
  | (_, value) :: rest => Sorted value ∧ SortedMembers rest

end

theorem sortedItems_iff {items : List Json} : SortedItems items ↔ ∀ item ∈ items, item.Sorted := by
  induction items with
  | nil => simp [SortedItems]
  | cons item rest ih => simp [SortedItems, ih]

theorem sortedMembers_iff {members : Members} :
    SortedMembers members ↔ ∀ entry ∈ members, entry.2.Sorted := by
  induction members with
  | nil => simp [SortedMembers]
  | cons entry rest ih => obtain ⟨name, value⟩ := entry; simp [SortedMembers, ih]

theorem sorted_arr_iff {items : List Json} : (Json.arr items).Sorted ↔ ∀ item ∈ items, item.Sorted := by
  rw [Sorted, sortedItems_iff]

theorem sorted_obj_iff {members : Members} :
    (Json.obj members).Sorted ↔ members.Ordered ∧ ∀ entry ∈ members, entry.2.Sorted := by
  rw [Sorted, sortedMembers_iff]

mutual

/-- What is sorted stays as it is. -/
theorem Sorted.sorted_eq : ∀ {value : Json}, value.Sorted → value.sorted = value
  | .arr items, h => by rw [sorted, SortedItems.sorted_eq h]
  | .obj members, h => by
    rw [sorted, SortedMembers.sorted_eq h.2, ofMembers, h.1.ofList_eq]
  | .null, _ => rfl
  | .bool _, _ => rfl
  | .num _, _ => rfl
  | .str _, _ => rfl

theorem SortedItems.sorted_eq : ∀ {items : List Json}, SortedItems items → sortedItems items = items
  | [], _ => rfl
  | item :: rest, h => by rw [sortedItems, h.1.sorted_eq, SortedItems.sorted_eq h.2]

theorem SortedMembers.sorted_eq :
    ∀ {members : List (String × Json)}, SortedMembers members → sortedMembers members = members
  | [], _ => rfl
  | (name, value) :: rest, h => by rw [sortedMembers, h.1.sorted_eq, SortedMembers.sorted_eq h.2]

end

end Json

end AddonConfig
