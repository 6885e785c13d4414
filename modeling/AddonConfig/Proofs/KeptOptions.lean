import AddonConfig.Proofs.ReadBack

/-!
# Options that are kept

The options of a field are an object of which the model knows some members by name; all others are kept as they
are. Reading splits the object by name (`extraOf_eq_untyped`), and writing puts both parts together again, so that the
members of other names come out as they went in, in the order in which options are written and also among sorted
members.
-/

namespace AddonConfig
namespace EntityOptions

/-- The names of the options that have a type of their own. -/
def typedNames : List String :=
  ["autoCompleteFields", "supportedFileTypes", "maxFileSize", "fileSupportMessage", "oauth", "basic", "auth_type"]

theorem known_names : known.names = typedNames := rfl

/-- The members of other names. -/
def untyped (members : Members) : Members := members.filter fun member => member.1 ∉ typedNames

theorem extraOf_eq_untyped (members : Members) : extraOf members = untyped members := by
  simp [extraOf, untyped, known_names]

/-- Among the members of known name nothing is kept. -/
theorem extraOf_knownMembers (options : EntityOptions) : extraOf options.knownMembers = [] := by
  rw [extraOf, List.filter_eq_nil_iff]
  intro member hmember
  have hname : member.1 ∈ known.names := options.knownMembers_names.subset (List.mem_map_of_mem hmember)
  simpa using hname

theorem extraOf_extraOf (members : Members) : extraOf (extraOf members) = extraOf members := by
  unfold extraOf
  rw [List.filter_filter]
  simp only [Bool.and_self]

/-- Options keep the members of an object that have no typed name, all of them and as they are. No typed name is
among those kept, and written again, in the order of the options or sorted, the object has the same members of
other names. -/
theorem unknown_options_kept (members : Members) (options : EntityOptions)
    (read : EntityOptions.decode (.obj members) = .ok options) :
    options.extra = untyped members ∧
      (∀ name ∈ typedNames, name ∉ options.extra.map (·.1)) ∧
      (∃ written, options.encode = .obj written ∧ untyped written = untyped members) ∧
      ((Json.obj members).Sorted →
        ∃ written, options.encode.sorted = .obj written ∧ untyped written = untyped members) := by
  obtain ⟨_, ⟨⟩, hextra⟩ := extra_of_decode read
  simp only [← extraOf_eq_untyped]
  refine ⟨hextra, fun name hname => ?_, ?written, fun hsorted => ?sorted⟩
  · rw [hextra, ← Members.get?_eq_none_iff, get?_extraOf, if_pos (known_names ▸ hname)]
  case written =>
    refine ⟨options.knownMembers ++ extraOf members, by rw [encode_eq, hextra], ?_⟩
    have happend : extraOf (options.knownMembers ++ extraOf members)
        = extraOf options.knownMembers ++ extraOf (extraOf members) := List.filter_append ..
    rw [happend, extraOf_knownMembers, extraOf_extraOf, List.nil_append]
  case sorted =>
    refine ⟨Members.ofList (Json.sortedMembers (options.knownMembers ++ extraOf members)), ?_, ?_⟩
    · rw [encode_eq, hextra, Json.sorted, Json.ofMembers]
    · exact (kept_extraOf hsorted).extraOf_sorted options.knownMembers_names

/-- An object with one typed option and, kept beside it, a `null`, an integer and a floating point number. -/
def mixedMembers : Members :=
  [("endpointUrl", .null), ("limits", .obj [("depth", .arr [.num (.int 1), .num (.float (.ofInt 1)), .null])]),
    ("maxFileSize", .num (.int 10))]

theorem mixedMembers_kept :
    ∃ options, EntityOptions.decode (.obj mixedMembers) = .ok options ∧ options.maxFileSize = some 10 ∧
      options.extra = mixedMembers.take 2 ∧ "maxFileSize" ∉ options.extra.map (·.1) ∧
        ∃ written, options.encode.sorted = .obj written ∧ untyped written = mixedMembers.take 2 := by
  have hread : EntityOptions.decode (.obj mixedMembers)
      = .ok ⟨none, none, some 10, none, none, none, none, mixedMembers.take 2⟩ := rfl
  have hsorted : (Json.obj mixedMembers).Sorted := by
    simp only [mixedMembers, Json.Sorted, Json.SortedMembers, Json.SortedItems, Members.Ordered]
    decide
  obtain ⟨hextra, hnames, -, hwritten⟩ := unknown_options_kept mixedMembers _ hread
  refine ⟨_, hread, rfl, rfl, hnames _ (by decide), ?_⟩
  obtain ⟨written, hencode, hrest⟩ := hwritten hsorted
  exact ⟨written, hencode, hrest⟩

end EntityOptions
end AddonConfig
