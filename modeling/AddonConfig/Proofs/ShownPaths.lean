import AddonConfig.Source.Path
import Mathlib.Data.List.DropRight
import Mathlib.Data.List.Basic

/-!
# Paths in reports

A file is reported by its path from the working directory, if it lies below that. `Path.join` says which file a
path stands for in a directory. Two facts carry the rest: what stands behind a slash adds its named segments to
those before it (`names_append_slash`), and `dropNames` takes names off the front of a path exactly if they stand
there (`dropNames_eq_some`, `dropNames_isSome_iff`). So the path that is shown stands for the same file
(`reported_path_identifies`).
-/

namespace AddonConfig.Path
variable {directory path rest : List Char} {segs left : List (List Char)}

/-- The path that stands for a path in a directory: an absolute path itself, another one behind the directory. -/
def join (directory path : List Char) : List Char :=
  if isAbsolute path then path
  else if directory.getLast?.all (· = '/') then directory ++ path
  else directory ++ '/' :: path

/-- The segments of a path that stand for something. -/
def names (path : List Char) : List (List Char) := (segments path).filter (!isIdle ·)

/-! ### Segments -/

theorem segments_eq_splitOn (path : List Char) : segments path = path.splitOn '/' := by
  induction path with
  | nil => rfl
  | cons c path ih =>
    rw [segments, ih, List.splitOn_cons_eq_if_modifyHead]
    by_cases hslash : c = '/'
    · simp [hslash]
    · cases hsplit : path.splitOn '/' with
      | nil => exact absurd hsplit (by simp)
      | cons first others => simp [hslash]

theorem slash_notMem_segment {segment : List Char} (h : segment ∈ segments path) : '/' ∉ segment := by
  induction path generalizing segment with
  | nil => simp_all [segments]
  | cons c path ih =>
    rw [segments] at h
    split_ifs at h with hslash
    · rcases List.mem_cons.1 h with rfl | h
      · exact List.not_mem_nil
      · exact ih h
    · cases hsegments : segments path with
      | nil =>
        rw [hsegments] at h
        simpa [List.mem_singleton.1 h] using Ne.symm hslash
      | cons first others =>
        rw [hsegments] at h ih
        rcases List.mem_cons.1 h with rfl | h
        · simpa [Ne.symm hslash] using ih List.mem_cons_self
        · exact ih (List.mem_cons_of_mem _ h)

theorem names_append_slash (front path : List Char) : names (front ++ '/' :: path) = names front ++ names path := by
  simp only [names, segments_eq_splitOn, List.splitOn_append_cons_self, List.filter_append]

theorem names_join (h : isAbsolute path = false) : names (join directory path) = names directory ++ names path := by
  rw [join, if_neg (by simp [h])]
  split_ifs with hlast
  · cases hdirectory : directory.getLast? with
    | none =>
      obtain rfl := List.getLast?_eq_none_iff.1 hdirectory
      rfl
    | some c =>
      obtain ⟨front, rfl⟩ := List.getLast?_eq_some_iff.1 hdirectory
      obtain rfl : c = '/' := by simpa using hlast
      rw [List.append_assoc, List.singleton_append, names_append_slash, names_append_slash]
      exact congrArg (· ++ names path) (List.append_nil _).symm
  · exact names_append_slash directory path

theorem names_ofSegments (h : ∀ segment ∈ segs, '/' ∉ segment) :
    names (ofSegments segs) = segs.filter (!isIdle ·) := by
  cases segs with
  | nil => rfl
  | cons first others =>
    rw [names, segments_eq_splitOn, ofSegments, List.splitOn_intercalate _ h (List.cons_ne_nil _ _)]

/-! ### Parts -/

theorem partOf_injective : Function.Injective partOf := by
  intro segment other h
  unfold partOf at h
  split_ifs at h with hparent hother hother
  · rw [hparent, hother]
  · exact PathPart.name.inj h

theorem parts_of_isAbsolute (h : isAbsolute path = true) : parts path = .root :: (names path).map partOf := by
  rw [parts, if_pos h]
  rfl

theorem head?_parts_of_not_isAbsolute (h : isAbsolute path = false) : (parts path).head? ≠ some .root := by
  rw [parts, if_neg (by simp [h])]
  split_ifs
  · simp
  · rw [List.head?_map]
    intro hroot
    obtain ⟨segment, -, hpart⟩ := Option.map_eq_some_iff.1 hroot
    unfold partOf at hpart
    split_ifs at hpart

/-- A path lies below an absolute directory if it is absolute and starts with the names of the directory. -/
theorem parts_prefix_iff (habsolute : isAbsolute directory = true) :
    parts directory <+: parts path ↔ isAbsolute path = true ∧ names directory <+: names path := by
  rw [parts_of_isAbsolute habsolute]
  cases hpath : isAbsolute path with
  | true =>
    rw [parts_of_isAbsolute hpath, List.prefix_cons_inj, List.prefix_map_iff_of_injective partOf_injective]
    simp
  | false =>
    refine iff_of_false (fun h => ?_) (by simp)
    obtain ⟨others, hparts⟩ := h
    exact head?_parts_of_not_isAbsolute hpath (by rw [← hparts]; rfl)

/-! ### The way below a directory -/

theorem filter_dropWhile_idle (segs : List (List Char)) :
    (segs.dropWhile isIdle).filter (!isIdle ·) = segs.filter (!isIdle ·) := by
  induction segs with
  | nil => rfl
  | cons segment segs ih => cases h : isIdle segment <;> simp [h, ih]

theorem dropWhile_idle_eq_cons {segment : List Char} (h : segs.dropWhile isIdle = segment :: left) :
    isIdle segment = false ∧ segs.filter (!isIdle ·) = segment :: left.filter (!isIdle ·) := by
  have hhead := List.head?_dropWhile_not isIdle segs
  rw [h] at hhead
  have hsegment : isIdle segment = false := hhead
  refine ⟨hsegment, ?_⟩
  rw [← filter_dropWhile_idle, h, List.filter_cons_of_pos (by simp [hsegment])]

/-- Names that are taken off the front stood there. -/
theorem dropNames_eq_some {names : List (List Char)} (h : dropNames names segs = some left) :
    left <:+ segs ∧ segs.filter (!isIdle ·) = names ++ left.filter (!isIdle ·) := by
  induction names generalizing segs with
  | nil =>
    cases h
    exact ⟨List.suffix_refl _, rfl⟩
  | cons name names ih =>
    rw [dropNames] at h
    split at h
    · next segment behind hdrop =>
      split_ifs at h with heq
      subst heq
      obtain ⟨hsuffix, hfilter⟩ := ih h
      obtain ⟨-, hnamed⟩ := dropWhile_idle_eq_cons hdrop
      have hbehind : behind <:+ segs := (List.suffix_cons segment behind).trans (hdrop ▸ List.dropWhile_suffix isIdle)
      exact ⟨hsuffix.trans hbehind, by rw [hnamed, hfilter, List.cons_append]⟩
    · cases h

/-- They can be taken off if they stand there. -/
theorem dropNames_isSome_iff {names : List (List Char)} :
    (dropNames names segs).isSome ↔ names <+: segs.filter (!isIdle ·) := by
  constructor
  · intro h
    obtain ⟨left, hleft⟩ := Option.isSome_iff_exists.1 h
    exact ⟨_, (dropNames_eq_some hleft).2.symm⟩
  · intro h
    induction names generalizing segs with
    | nil => rfl
    | cons name names ih =>
      rw [dropNames]
      cases hdrop : segs.dropWhile isIdle with
      | nil =>
        rw [← filter_dropWhile_idle, hdrop] at h
        exact absurd (List.prefix_nil.1 h) (List.cons_ne_nil _ _)
      | cons segment behind =>
        rw [(dropWhile_idle_eq_cons hdrop).2, List.cons_prefix_cons] at h
        simpa [h.1] using ih h.2

theorem filter_trim (segs : List (List Char)) : (trim segs).filter (!isIdle ·) = segs.filter (!isIdle ·) := by
  rw [trim, List.filter_reverse, filter_dropWhile_idle, List.filter_reverse, List.reverse_reverse,
    filter_dropWhile_idle]

theorem trim_sublist (segs : List (List Char)) : (trim segs).Sublist segs :=
  (List.rdropWhile_prefix isIdle _).sublist.trans (List.dropWhile_suffix isIdle).sublist

/-- What is left begins with a segment that stands for something. -/
theorem isIdle_of_trim_eq_cons {segment : List Char} (h : trim segs = segment :: left) : isIdle segment = false := by
  obtain ⟨behind, hbehind⟩ := List.rdropWhile_prefix isIdle (segs.dropWhile isIdle)
  have hcons : segs.dropWhile isIdle = segment :: (left ++ behind) := by
    rw [← hbehind]
    exact congrArg (· ++ behind) h
  exact (dropWhile_idle_eq_cons hcons).1

theorem isAbsolute_ofSegments_trim (h : ∀ segment ∈ segs, '/' ∉ segment) :
    isAbsolute (ofSegments (trim segs)) = false := by
  cases htrim : trim segs with
  | nil => rfl
  | cons segment others =>
    have hmem : segment ∈ segs := (trim_sublist segs).subset (htrim ▸ List.mem_cons_self)
    cases segment with
    | nil => exact absurd (isIdle_of_trim_eq_cons htrim) (by decide)
    | cons c chars =>
      have hslash : c ≠ '/' := fun heq => h _ hmem (heq ▸ List.mem_cons_self)
      cases others <;> simp [ofSegments, isAbsolute, hslash]

/-- What is left of a path below a directory is relative, and its names are those behind the names of the
directory. -/
theorem below?_eq_some (h : below? directory path = some rest) :
    isAbsolute path = true ∧ isAbsolute rest = false ∧ names path = names directory ++ names rest := by
  unfold below? at h
  split_ifs at h with hpath
  obtain ⟨left, hleft, rfl⟩ := Option.map_eq_some_iff.1 h
  obtain ⟨hsuffix, hfilter⟩ := dropNames_eq_some hleft
  have hslash : ∀ segment ∈ left, '/' ∉ segment := fun _ hmem => slash_notMem_segment (hsuffix.subset hmem)
  refine ⟨hpath, isAbsolute_ofSegments_trim hslash, ?_⟩
  rw [Function.comp_apply, names_ofSegments fun _ hmem => hslash _ ((trim_sublist left).subset hmem), filter_trim]
  exact hfilter

theorem below?_isSome_iff (habsolute : isAbsolute directory = true) :
    (below? directory path).isSome ↔ parts directory <+: parts path := by
  rw [parts_prefix_iff habsolute, below?]
  split_ifs with hpath
  · rw [Option.isSome_map, dropNames_isSome_iff]
    exact ⟨fun h => ⟨hpath, h⟩, fun h => h.2⟩
  · simp [hpath]

theorem isAbsolute_join (habsolute : isAbsolute directory = true) : isAbsolute (join directory path) = true := by
  cases directory with
  | nil => cases habsolute
  | cons c chars =>
    unfold join
    split_ifs with hpath
    · exact hpath
    · exact habsolute
    · exact habsolute

theorem parts_join_below? (habsolute : isAbsolute directory = true) (h : below? directory path = some rest) :
    parts (join directory rest) = parts (join directory path) := by
  obtain ⟨hpath, hrest, hnames⟩ := below?_eq_some h
  rw [parts_of_isAbsolute (isAbsolute_join habsolute), names_join hrest, ← hnames, join, if_pos hpath,
    parts_of_isAbsolute hpath]

/-- The path that is shown stands for the same file in the working directory. -/
theorem parts_join_shown {directory : String} (habsolute : isAbsolute directory.toList = true) (path : String) :
    parts (join directory.toList (shown directory path).toList)
      = parts (join directory.toList path.toList) := by
  rw [shown, String.toList_ofList]
  cases h : below? directory.toList path.toList with
  | none => rfl
  | some rest => exact parts_join_below? habsolute h

/-- A path is reported behind a space as another path to the same file: as it is, or relative to the working
directory if that is where it starts. So one report never stands for two files. -/
theorem reported_path_identifies (directory path : String) (habsolute : isAbsolute directory.toList = true) :
    (∃ text, reported directory path = " " ++ text ∧
      parts (join directory.toList text.toList) = parts (join directory.toList path.toList) ∧
      (¬ parts directory.toList <+: parts path.toList → text = path) ∧
      (parts directory.toList <+: parts path.toList → isAbsolute text.toList = false)) ∧
    ∀ other, parts (join directory.toList path.toList) ≠ parts (join directory.toList other.toList) →
      reported directory path ≠ reported directory other := by
  refine ⟨⟨shown directory path, rfl, parts_join_shown habsolute path, fun houtside => ?_, fun hinside => ?_⟩, ?_⟩
  · have hnone : below? directory.toList path.toList = none := by
      rw [← Option.not_isSome_iff_eq_none, below?_isSome_iff habsolute]
      exact houtside
    rw [shown, hnone, Option.getD_none, String.ofList_toList]
  · obtain ⟨rest, hrest⟩ := Option.isSome_iff_exists.1 ((below?_isSome_iff habsolute).2 hinside)
    rw [shown, hrest, Option.getD_some, String.toList_ofList]
    exact (below?_eq_some hrest).2.1
  · intro other hother hreported
    have hshown : shown directory path = shown directory other := (String.append_right_inj " ").1 hreported
    rw [← parts_join_shown habsolute path, ← parts_join_shown habsolute other, hshown] at hother
    exact hother rfl

theorem reported_path_sample :
    isAbsolute "/add/on".toList = true ∧
      (∃ text, reported "/add/on" "//add/./on//a/.//b/." = " " ++ text ∧
        parts (join "/add/on".toList text.toList)
          = parts (join "/add/on".toList "//add/./on//a/.//b/.".toList) ∧
        isAbsolute text.toList = false) ∧
      reported "/add/on" "//add/./on//a/.//b/." = " a/.//b" ∧
      reported "/add/on" "/add/one" ≠ reported "/add/on" "e" := by
  have habsolute : isAbsolute "/add/on".toList = true := by decide
  obtain ⟨⟨text, hreported, hparts, -, hrelative⟩, -⟩ :=
    reported_path_identifies "/add/on" "//add/./on//a/.//b/." habsolute
  exact ⟨habsolute, ⟨text, hreported, hparts, hrelative (by decide)⟩, by decide,
    (reported_path_identifies "/add/on" "/add/one" habsolute).2 "e" (by decide)⟩

end AddonConfig.Path
