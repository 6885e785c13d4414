import AddonConfig.Rules.Config
import Mathlib.Data.List.Nodup

/-!
# What checks answer

A check is read through `Check.defect?`, the defect it ends with. Run one after the other, checks give
the first defect among them (`defect?_bind`, `defect?_forM`), so they pass if each one passes.
`findDuplicates` finds nothing in keys that all differ, and that is all `ensureDistinct` asks.
-/

namespace AddonConfig

namespace Check
variable {α : Type} {a b check : Check} {defect : Defect}

/-- The defect that a check ends with. -/
def defect? : Check → Option Defect
  | .ok _ => none
  | .error defect => some defect

@[simp] theorem defect?_ok (u : Unit) : defect? (.ok u) = none := rfl

@[simp] theorem defect?_error (defect : Defect) : defect? (.error defect) = some defect := rfl

theorem eq_ok_iff : check = .ok () ↔ check.defect? = none := by
  cases check <;> simp

theorem eq_error_iff : check = .error defect ↔ check.defect? = some defect := by
  cases check <;> simp

theorem eq_of_defect? (h : a.defect? = b.defect?) : a = b := by
  cases hb : b.defect? with
  | none => rw [eq_ok_iff.2 (h.trans hb), eq_ok_iff.2 hb]
  | some defect => rw [eq_error_iff.2 (h.trans hb), eq_error_iff.2 hb]

@[simp] theorem defect?_ite_error {p : Prop} [Decidable p] {found : Defect} :
    defect? (if p then .error found else .ok ()) = some defect ↔ p ∧ found = defect := by
  by_cases h : p <;> simp [h]

theorem defect?_bind (a b : Check) : defect? (a >>= fun _ => b) = a.defect?.or b.defect? := by
  cases a <;> rfl

/-- A list of checks ends with the first defect in the list. -/
theorem defect?_forM (f : α → Check) (items : List α) :
    defect? (items.forM f) = items.findSome? fun item => (f item).defect? := by
  induction items with
  | nil => rfl
  | cons item rest ih =>
    rw [List.findSome?_cons, ← ih]
    show defect? (f item >>= fun _ => rest.forM f) = _
    rw [defect?_bind]
    cases (f item).defect? <;> rfl

theorem bind_eq_ok : (a >>= fun _ => b) = .ok () ↔ a = .ok () ∧ b = .ok () := by
  rw [eq_ok_iff, defect?_bind, Option.or_eq_none_iff, ← eq_ok_iff, ← eq_ok_iff]

theorem forM_eq_ok {f : α → Check} {items : List α} :
    items.forM f = .ok () ↔ ∀ item ∈ items, f item = .ok () := by
  rw [eq_ok_iff, defect?_forM, List.findSome?_eq_none_iff]
  simp only [eq_ok_iff]

end Check

/-! ### Repeated keys -/

section
variable {α κ : Type} [DecidableEq κ]

theorem mem_firstOccurrences (k : κ) (keys : List κ) : k ∈ firstOccurrences keys ↔ k ∈ keys := by
  induction keys with
  | nil => simp [firstOccurrences]
  | cons key rest ih =>
    by_cases h : k = key
    · simp [firstOccurrences, h]
    · simp [firstOccurrences, h, ih]

theorem firstOccurrences_nodup (keys : List κ) : (firstOccurrences keys).Nodup := by
  induction keys with
  | nil => exact List.nodup_nil
  | cons key rest ih =>
    rw [firstOccurrences, List.nodup_cons]
    exact ⟨by simp, ih.filter _⟩

/-- A key is found twice exactly if it stands more than once among the keys. -/
theorem mem_findDuplicates {key : α → κ} {items : List α} {k : κ} :
    k ∈ findDuplicates key items ↔ 1 < (items.map key).count k := by
  have hcount : (items.map key).countP (· = k) = (items.map key).count k :=
    List.countP_congr fun _ _ => by simp
  simp only [findDuplicates, List.mem_filter, mem_firstOccurrences, decide_eq_true_eq, hcount]
  refine ⟨fun h => h.2, fun h => ⟨?_, h⟩⟩
  exact List.count_pos_iff.1 (by omega)

theorem findDuplicates_eq_nil_iff {key : α → κ} {items : List α} :
    findDuplicates key items = [] ↔ (items.map key).Nodup := by
  simp only [List.eq_nil_iff_forall_not_mem, mem_findDuplicates, Nat.not_lt,
    List.nodup_iff_count_le_one]

end

theorem defect?_ensureDistinct {collection : Collection} {keys : List String} {defect : Defect} :
    (ensureDistinct collection keys).defect? = some defect ↔
      keys ≠ [] ∧ .duplicates collection keys = defect := by
  cases keys <;> simp [ensureDistinct]

theorem ensureDistinct_eq_ok {collection : Collection} {keys : List String} :
    ensureDistinct collection keys = .ok () ↔ keys = [] := by
  cases keys <;> simp [ensureDistinct]

theorem ensureDistinct_pair_eq_ok {α : Type} {collection : Collection} {left right : α → String}
    {items : List α} :
    ensureDistinct collection (findPairDuplicates left right items) = .ok () ↔
      (items.map left).Nodup ∧ (items.map right).Nodup := by
  rw [ensureDistinct_eq_ok, findPairDuplicates, List.append_eq_nil_iff, findDuplicates_eq_nil_iff,
    findDuplicates_eq_nil_iff]

end AddonConfig
