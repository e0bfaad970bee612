import PathHeader.FileSystem.Path
import PathHeader.RepoPath

/-! The pieces of a path. Where paths are joined their pieces stand in a row, and the normal form of
a path has all names of the path among its segments. -/
namespace PathHeader

namespace Text

/-- Text is split as lists are. -/
theorem splitOn_eq (sep : Char) (t : Text) : splitOn sep t = List.splitOn sep t := by
  induction t with
  | nil => rfl
  | cons c rest ih =>
    rw [splitOn, List.splitOn_cons_eq_if_modifyHead, ih]
    by_cases same : c = sep
    · simp [same]
    · obtain ⟨piece, pieces, split⟩ := List.exists_cons_of_ne_nil (List.splitOn_ne_nil sep rest)
      simp [same, split]

theorem splitOn_append_cons (sep : Char) (t rest : Text) :
    splitOn sep (t ++ sep :: rest) = splitOn sep t ++ splitOn sep rest := by
  simp only [splitOn_eq, List.splitOn_append_cons_self]

theorem splitOn_eq_singleton {sep : Char} {t : Text} (absent : sep ∉ t) : splitOn sep t = [t] := by
  rw [splitOn_eq, List.splitOn_eq_singleton absent]

theorem joinWith_cons (sep piece : Text) {pieces : List Text} (given : pieces ≠ []) :
    joinWith sep (piece :: pieces) = piece ++ sep ++ joinWith sep pieces := by
  obtain ⟨next, rest, rfl⟩ := List.exists_cons_of_ne_nil given
  rfl

theorem joinWith_append (sep : Text) {pieces more : List Text} (given : pieces ≠ [])
    (follow : more ≠ []) :
    joinWith sep (pieces ++ more) = joinWith sep pieces ++ sep ++ joinWith sep more := by
  induction pieces with
  | nil => exact absurd rfl given
  | cons piece rest ih =>
    by_cases single : rest = []
    · rw [single]
      exact joinWith_cons sep piece follow
    · rw [List.cons_append, joinWith_cons sep piece (List.append_ne_nil_of_left_ne_nil single more),
        ih single, joinWith_cons sep piece single]
      simp only [List.append_assoc]

theorem notMem_of_mem_splitOn {sep : Char} {piece t : Text} (listed : piece ∈ splitOn sep t) :
    sep ∉ piece := by
  induction t generalizing piece with
  | nil =>
    cases List.mem_singleton.mp listed
    exact List.not_mem_nil
  | cons c rest ih =>
    obtain ⟨first, others, split⟩ := List.exists_cons_of_ne_nil (splitOn_ne_nil sep rest)
    rw [split] at ih
    rw [splitOn, split] at listed
    split at listed
    · rcases List.mem_cons.mp listed with rfl | later
      · exact List.not_mem_nil
      · exact ih later
    · next differs =>
      rcases List.mem_cons.mp listed with rfl | later
      · rw [List.mem_cons, not_or]
        exact ⟨Ne.symm differs, ih List.mem_cons_self⟩
      · exact ih (List.mem_cons_of_mem _ later)

/-- Pieces without the separator come back from the text that they are joined to. -/
theorem splitOn_joinWith {sep : Char} {pieces : List Text} (given : pieces ≠ [])
    (plain : ∀ piece ∈ pieces, sep ∉ piece) : splitOn sep (joinWith [sep] pieces) = pieces := by
  induction pieces with
  | nil => exact absurd rfl given
  | cons piece rest ih =>
    obtain ⟨first, others⟩ := List.forall_mem_cons.mp plain
    by_cases single : rest = []
    · subst single
      exact splitOn_eq_singleton first
    · rw [joinWith_cons _ _ single, List.append_assoc, List.singleton_append, splitOn_append_cons,
        splitOn_eq_singleton first, ih single others]
      rfl

end Text

namespace RepoPath

theorem forwardSlashes_append (raw rest : Text) :
    forwardSlashes (raw ++ rest) = forwardSlashes raw ++ forwardSlashes rest := List.map_append

theorem forwardSlashes_eq_self {t : Text} (plain : '\\' ∉ t) : forwardSlashes t = t := by
  have kept : ∀ c ∈ t, (if c = '\\' then '/' else c) = c := by
    intro c inside
    rw [if_neg]
    rintro rfl
    exact plain inside
  rw [forwardSlashes, List.map_congr_left kept, List.map_id']

theorem not_prefix_dropCurrent (t : Text) : ¬ ['.', '/'] <+: dropCurrent t := by
  fun_induction dropCurrent t with
  | case1 rest ih => exact ih
  | case2 t settled =>
    rintro ⟨rest, rfl⟩
    exact settled rest rfl

theorem dropCurrent_eq_self {t : Text} (settled : ¬ ['.', '/'] <+: t) : dropCurrent t = t := by
  unfold dropCurrent
  split
  · exact absurd ⟨_, rfl⟩ settled
  · rfl

/-- A backslash separates what slashes leave together. -/
theorem splitOn_forwardSlashes (raw : Text) :
    Text.splitOn '/' (forwardSlashes raw) =
      (Text.splitOn '/' raw).flatMap (Text.splitOn '\\') := by
  induction raw with
  | nil => rfl
  | cons c rest ih =>
    rw [forwardSlashes, List.map_cons, ← forwardSlashes]
    by_cases slash : c = '/'
    · simp [Text.splitOn, slash, ih]
    · obtain ⟨piece, pieces, split⟩ := List.exists_cons_of_ne_nil (Text.splitOn_ne_nil '/' rest)
      rw [split, List.flatMap_cons] at ih
      by_cases backslash : c = '\\'
      · simp [Text.splitOn, backslash, split, ih]
      · obtain ⟨part, parts, cut⟩ := List.exists_cons_of_ne_nil (Text.splitOn_ne_nil '\\' piece)
        simp [Text.splitOn, slash, backslash, split, ih, cut]

theorem mem_splitOn_dropCurrent {name t : Text} (listed : name ∈ Text.splitOn '/' t)
    (stays : name ≠ ['.']) : name ∈ Text.splitOn '/' (dropCurrent t) := by
  fun_induction dropCurrent t with
  | case1 rest ih => exact ih (by simpa [Text.splitOn, stays] using listed)
  | case2 => exact listed

/-- The normal form keeps every name on the path that holds no backslash. -/
theorem mem_segments_normalize {name raw : Text} (listed : name ∈ Text.splitOn '/' raw)
    (plain : '\\' ∉ name) (stays : name ≠ ['.']) : name ∈ (normalize raw).segments := by
  refine mem_splitOn_dropCurrent ?_ stays
  rw [splitOn_forwardSlashes, List.mem_flatMap]
  exact ⟨name, listed, by rw [Text.splitOn_eq_singleton plain]; exact List.mem_singleton_self name⟩

end RepoPath

namespace Path

variable {root raw : Text}

/-- The components of a path, without the slash that may close it. -/
def steps (path : Text) : List Component :=
  ((Text.splitOn '/' path).filter (· ≠ [])).map component

theorem slash_suffix_iff (path : Text) : ['/'] <:+ path ↔ path.getLast? = some '/' := by
  rw [List.getLast?_eq_some_iff]
  exact exists_congr fun _ => eq_comm

theorem components_eq (path : Text) : components path =
    if path.getLast? = some '/' ∧ steps path ≠ [] then steps path ++ [.slash] else steps path := by
  simp [components, steps, List.isSuffixOf_iff_suffix, slash_suffix_iff]

theorem components_name {t : Text} (plain : '/' ∉ t) (given : t ≠ [])
    (named : component t = .name t) : components t = [.name t] := by
  have opens : ¬ (t.getLast? = some '/' ∧ steps t ≠ []) :=
    fun closes => plain (List.mem_of_getLast? closes.1)
  rw [components_eq, if_neg opens, steps, Text.splitOn_eq_singleton plain]
  simp [given, named]

theorem steps_nil : steps [] = [] := rfl

theorem steps_append_slash (path rest : Text) :
    steps (path ++ '/' :: rest) = steps path ++ steps rest := by
  simp [steps, Text.splitOn_append_cons]

theorem mem_splitOn_of_name {name path : Text} (listed : .name name ∈ components path) :
    name ∈ Text.splitOn '/' path ∧ name ≠ ['.'] := by
  have stepped : .name name ∈ steps path := by
    rw [components_eq] at listed
    split at listed
    · simpa using listed
    · exact listed
  obtain ⟨piece, kept, same⟩ := List.mem_map.mp stepped
  rw [component] at same
  split at same
  · cases same
  · split at same
    · cases same
    · next notHere _ =>
      cases same
      exact ⟨(List.mem_filter.mp kept).1, notHere⟩

theorem steps_ne_nil (relative : isAbsolute raw = false) (given : raw ≠ []) : steps raw ≠ [] := by
  obtain ⟨c, rest, rfl⟩ := List.exists_cons_of_ne_nil given
  have first : c ≠ '/' := by
    rintro rfl
    simp [isAbsolute] at relative
  obtain ⟨piece, pieces, split⟩ := List.exists_cons_of_ne_nil (Text.splitOn_ne_nil '/' rest)
  simp [steps, Text.splitOn, first, split]

/-- A slash comes between the two, whichever of them brings it. -/
theorem exists_join (given : root ≠ []) :
    ∃ front, steps front = steps root ∧
      ∀ raw, isAbsolute raw = false → join root raw = front ++ '/' :: raw := by
  by_cases closed : ['/'] <:+ root
  · obtain ⟨front, rfl⟩ := closed
    refine ⟨front, ?_, fun raw relative => ?_⟩
    · rw [steps_append_slash, steps_nil, List.append_nil]
    · simp [join, relative]
  · refine ⟨root, rfl, fun raw relative => ?_⟩
    have open_ : ['/'].isSuffixOf root = false := by
      rw [Bool.eq_false_iff, ne_eq, List.isSuffixOf_iff_suffix]
      exact closed
    simp [join, relative, given, open_]

theorem components_join (relative : isAbsolute raw = false) (given : raw ≠ [])
    (rooted : root ≠ []) : components (join root raw) = steps root ++ components raw := by
  obtain ⟨front, same, joins⟩ := exists_join rooted
  have closes : (front ++ '/' :: raw).getLast? = raw.getLast? := by
    obtain ⟨c, rest, rfl⟩ := List.exists_cons_of_ne_nil given
    simp [List.getLast?_append, List.getLast?_cons]
  have named := steps_ne_nil relative given
  simp only [joins raw relative, components_eq, steps_append_slash, closes, same]
  simp only [named, List.append_ne_nil_of_right_ne_nil _ named, ne_eq, not_false_eq_true, and_true]
  split
  · rw [List.append_assoc]
  · rfl

end Path

end PathHeader
