import PathHeader.Proofs.Segments
import PathHeader.Proofs.Walks

/-! Where the normal form of a path leads. It has the steps of the path, and in every tree it is
found where the path is found, except that a slash which dropping uncovers sends it to the root. -/
namespace PathHeader

namespace RepoPath

variable {raw : Text}

/-- So many steps into the current directory. -/
def currents (count : Nat) : Text := (List.replicate count ['.', '/']).flatten

theorem currents_succ (count : Nat) : currents (count + 1) = '.' :: '/' :: currents count := by
  rw [currents, List.replicate_succ, List.flatten_cons]
  rfl

/-- Steps into the current directory, at least one, and behind them a slash too many. -/
def Uncovers (raw : Text) : Prop := ∃ count rest, raw = currents (count + 1) ++ '/' :: rest

theorem uncovers_cons_iff (rest : Text) :
    Uncovers ('.' :: '/' :: rest) ↔ Path.isAbsolute rest = true ∨ Uncovers rest := by
  have absolute : Path.isAbsolute rest = true ↔ ∃ more, rest = '/' :: more := by
    rw [Path.isAbsolute, List.isPrefixOf_iff_prefix]
    exact exists_congr fun more => eq_comm
  rw [absolute]
  constructor
  · rintro ⟨count, more, same⟩
    cases count with
    | zero => exact .inl ⟨more, by simpa [currents] using same⟩
    | succ count =>
      exact .inr ⟨count, more, by simpa [currents, List.replicate_succ] using same⟩
  · rintro (⟨more, rfl⟩ | ⟨count, more, rfl⟩)
    · exact ⟨0, more, rfl⟩
    · exact ⟨count + 1, more, by simp [currents, List.replicate_succ]⟩

theorem Uncovers.relative (uncovers : Uncovers raw) : Path.isAbsolute raw = false := by
  obtain ⟨count, more, rfl⟩ := uncovers
  rfl

/-- Dropping steps makes a path absolute only by uncovering a slash. -/
theorem isAbsolute_dropCurrent_iff (t : Text) : Path.isAbsolute (dropCurrent t) = true ↔
    Path.isAbsolute t = true ∨ Uncovers t := by
  fun_induction dropCurrent t with
  | case1 rest ih =>
    rw [ih, uncovers_cons_iff]
    simp [Path.isAbsolute]
  | case2 t settled =>
    refine (or_iff_left ?_).symm
    rintro ⟨count, more, rfl⟩
    exact settled _ rfl

theorem isAbsolute_dropCurrent (covered : ¬ Uncovers raw) :
    Path.isAbsolute (dropCurrent raw) = Path.isAbsolute raw := by
  rw [Bool.eq_iff_iff, isAbsolute_dropCurrent_iff, or_iff_left covered]

end RepoPath

namespace Path
open RepoPath

theorem steps_here (rest : Text) : steps ('.' :: '/' :: rest) = .here :: steps rest :=
  steps_append_slash ['.'] rest

/-- Whether a path starts at the root, and its steps without those that stay where they are. -/
def route (path : Text) : Bool × List Component :=
  (isAbsolute path, (steps path).filter (· ≠ .here))

theorem route_join (root raw : Text) : route (join root raw) =
    if isAbsolute raw then route raw else (isAbsolute root, (route root).2 ++ (route raw).2) := by
  cases absolute : isAbsolute raw with
  | true => simp [join, absolute]
  | false =>
    by_cases given : root = []
    · subst given
      have same : join [] raw = raw := by simp [join]
      rw [same, if_neg Bool.false_ne_true, route, absolute]
      rfl
    · obtain ⟨front, same, joins⟩ := exists_join given
      have start : isAbsolute (join root raw) = isAbsolute root := by
        obtain ⟨c, rest, rfl⟩ := List.exists_cons_of_ne_nil given
        simp only [join, absolute, Bool.false_eq_true, if_false]
        split <;> rfl
      rw [route, start, joins raw absolute, steps_append_slash, same, List.filter_append]
      rfl

theorem route_dropCurrent (t : Text) : (route (dropCurrent t)).2 = (route t).2 := by
  fun_induction dropCurrent t with
  | case1 rest ih =>
    rw [ih, route, route, steps_here]
    rfl
  | case2 => rfl

end Path

namespace FileSystem

variable {fs : FileSystem} {links : Nat} {place : Place} {more less : List Component}

/-- Paths whose ends lead alike from everywhere do so behind any beginning. By induction on the
beginning: a link puts what it stands for in front of it. -/
theorem walk_append_congr
    (alike : ∀ links place, fs.walk false links place more = fs.walk false links place less)
    (both : more = [] ↔ less = []) (links : Nat) (place : Place) (front : List Component) :
    fs.walk false links place (front ++ more) = fs.walk false links place (front ++ less) := by
  fun_induction walk fs false links place front with
  | case1 links place => exact alike links place
  | case2 links place component rest outside =>
    cases component <;> simp only [List.cons_append, walk, if_pos outside]
  | case3 links place rest inside ih | case4 links place rest inside ih
  | case5 links place rest inside ih =>
    simp only [List.cons_append, walk, if_neg inside]
    exact ih
  | case6 links place rest inside text closing => cases closing
  | case7 links place rest inside text _ long => simp [walk, inside, long]
  | case8 links place inside text fits missing => simp [walk, inside, missing, both]
  | case9 links place rest inside text _ fits missing filled =>
    simp [walk, inside, missing, filled]
  | case10 place rest inside text _ fits target found => simp [walk, inside, found]
  | case11 place rest inside text _ fits target found links ih =>
    rw [List.append_assoc, List.append_assoc] at ih
    simp only [List.cons_append, walk, if_neg inside, Bool.false_and, if_neg fits, found]
    exact ih
  | case12 links place rest inside text _ fits entry noLink found ih =>
    simp only [List.cons_append, walk, if_neg inside, Bool.false_and, if_neg fits, found]
    cases entry with
    | link target => exact (noLink target rfl).elim
    | file | directory => exact ih

theorem walk_here (given : more ≠ []) (links : Nat) (place : Place) :
    fs.walk false links place (.here :: more) = fs.walk false links place more := by
  obtain ⟨component, rest, rfl⟩ := List.exists_cons_of_ne_nil given
  by_cases inside : fs.get? place = some .directory
  · rw [walk, if_neg (not_not_intro inside)]
  · cases component <;> simp only [walk, if_pos (show fs.get? place ≠ _ from inside)]

/-- A step into the current directory that stands behind a slash leads no further. What comes behind
it, be it the closing slash alone, asks for a directory as well. -/
theorem walk_components_here (fs : FileSystem) (front : Text) {rest : Text}
    (relative : Path.isAbsolute rest = false) :
    fs.walk false maxLinks [] (Path.components (front ++ '/' :: '.' :: '/' :: rest)) =
      fs.walk false maxLinks [] (Path.components (front ++ '/' :: rest)) := by
  have closes :
      (front ++ '/' :: '.' :: '/' :: rest).getLast? = (front ++ '/' :: rest).getLast? := by
    simp [List.getLast?_append, List.getLast?_cons]
  have dropped : ∀ {more : List Component}, more ≠ [] →
      fs.walk false maxLinks [] (Path.steps front ++ .here :: more) =
        fs.walk false maxLinks [] (Path.steps front ++ more) := fun given =>
    walk_append_congr (walk_here given) (by simp [given]) maxLinks [] (Path.steps front)
  rw [Path.components_eq, Path.components_eq, closes, Path.steps_append_slash,
    Path.steps_append_slash, Path.steps_here]
  by_cases empty : rest = []
  · subst empty
    by_cases none : Path.steps front = []
    · simp [none, Path.steps_nil, walk, get?]
    · simpa [none, Path.steps_nil] using dropped (List.cons_ne_nil .slash [])
  · have named := Path.steps_ne_nil relative empty
    simp only [List.append_ne_nil_of_right_ne_nil _ named, ne_eq, reduceCtorEq, not_false_eq_true,
      List.append_eq_nil_iff, and_false, and_true]
    split
    · simpa using dropped (List.append_ne_nil_of_left_ne_nil named [.slash])
    · exact dropped named

theorem size_le_here (front rest : Text) :
    Utf8.size (front ++ '/' :: rest) ≤ Utf8.size (front ++ '/' :: '.' :: '/' :: rest) := by
  simp only [Utf8.size, Utf8.encode, List.flatMap_append, List.flatMap_cons, List.length_append]
  omega

theorem resolve_here (fs : FileSystem) (front : Text) {rest : Text}
    (relative : Path.isAbsolute rest = false)
    (short : Utf8.size (front ++ '/' :: '.' :: '/' :: rest) < maxPath) :
    fs.resolve (front ++ '/' :: '.' :: '/' :: rest) = fs.resolve (front ++ '/' :: rest) := by
  have shorter := Nat.lt_of_le_of_lt (size_le_here front rest) short
  have nul : Path.holdsNul (front ++ '/' :: '.' :: '/' :: rest) =
      Path.holdsNul (front ++ '/' :: rest) := by
    simp [Path.holdsNul]
  simp [resolve, walkPath, nul, walk_components_here fs front relative, Nat.not_le.mpr short,
    Nat.not_le.mpr shorter]

theorem resolve_dropCurrent (fs : FileSystem) (front : Text) {t : Text}
    (relative : Path.isAbsolute (RepoPath.dropCurrent t) = false)
    (short : Utf8.size (front ++ '/' :: t) < maxPath) :
    fs.resolve (front ++ '/' :: RepoPath.dropCurrent t) = fs.resolve (front ++ '/' :: t) := by
  fun_induction RepoPath.dropCurrent t with
  | case1 rest ih =>
    have inside : Path.isAbsolute rest = false := by
      rw [Bool.eq_false_iff] at relative ⊢
      intro absolute
      exact relative ((RepoPath.isAbsolute_dropCurrent_iff rest).mpr (.inl absolute))
    have shorter := Nat.lt_of_le_of_lt (size_le_here front rest) short
    rw [ih relative shorter, resolve_here fs front inside short]
  | case2 => rfl

end FileSystem

namespace RepoPath

variable {root raw : Text}

theorem normalize_text (plain : '\\' ∉ raw) : (normalize raw).text = dropCurrent raw :=
  congrArg dropCurrent (forwardSlashes_eq_self plain)

theorem route_normalize_iff (plain : '\\' ∉ raw) :
    Path.route (Path.join root (normalize raw).text) = Path.route (Path.join root raw) ↔
      (Uncovers raw → Path.route root = (true, [])) := by
  have steps := Path.route_dropCurrent raw
  rw [normalize_text plain, Path.route_join, Path.route_join]
  by_cases uncovers : Uncovers raw
  · have absolute := (isAbsolute_dropCurrent_iff raw).mpr (.inr uncovers)
    rw [if_pos absolute, uncovers.relative, if_neg Bool.false_ne_true, Prod.ext_iff, Prod.ext_iff,
      steps, forall_prop_of_true uncovers]
    refine and_congr ?_ List.self_eq_append_left
    rw [show (Path.route (dropCurrent raw)).1 = true from absolute]
    exact eq_comm
  · have absolute := isAbsolute_dropCurrent uncovers
    have same : Path.route (dropCurrent raw) = Path.route raw := Prod.ext absolute steps
    simp [absolute, same, uncovers]

theorem resolve_normalize (fs : FileSystem) (plain : '\\' ∉ raw) (covered : ¬ Uncovers raw)
    (given : root ≠ []) (short : Utf8.size (Path.join root raw) < FileSystem.maxPath) :
    fs.resolve (Path.join root (normalize raw).text) = fs.resolve (Path.join root raw) := by
  have absolute := isAbsolute_dropCurrent covered
  rw [normalize_text plain]
  cases relative : Path.isAbsolute raw with
  | true =>
    have settled : ¬ ['.', '/'] <+: raw := by
      rintro ⟨rest, rfl⟩
      cases relative
    rw [dropCurrent_eq_self settled]
  | false =>
    obtain ⟨front, _, joins⟩ := Path.exists_join given
    rw [joins raw relative] at short ⊢
    rw [joins _ (absolute.trans relative)]
    exact FileSystem.resolve_dropCurrent fs front (absolute.trans relative) short

/-- The normal form of a path without backslashes starts at the root exactly if the path does or
uncovers a slash. It leads where the path leads from every directory, unless it uncovers a slash:
then it does so from the root only. -/
theorem leads_alike_iff (root : Text) {raw : Text} (plain : '\\' ∉ raw) :
    (Path.isAbsolute (normalize raw).text = true ↔
      Path.isAbsolute raw = true ∨ Uncovers raw) ∧
    (Path.route (Path.join root (normalize raw).text) = Path.route (Path.join root raw) ↔
      (Uncovers raw → Path.route root = (true, []))) ∧
    (¬ Uncovers raw → root ≠ [] → Utf8.size (Path.join root raw) < FileSystem.maxPath →
      ∀ fs : FileSystem,
        fs.resolve (Path.join root (normalize raw).text) = fs.resolve (Path.join root raw)) := by
  refine ⟨?_, route_normalize_iff plain, ?_⟩
  · rw [normalize_text plain]
    exact isAbsolute_dropCurrent_iff raw
  · intro covered given short fs
    exact resolve_normalize fs plain covered given short

/-- Steps that stay inside the path are kept, and do no harm. -/
theorem repo_found_alike :
    '\\' ∉ "././src/.//a.js".toList ∧ ¬ Uncovers "././src/.//a.js".toList ∧
    (normalize "././src/.//a.js".toList).text = "src/.//a.js".toList ∧
    Path.route (Path.join "/repo".toList "src/.//a.js".toList) =
      Path.route (Path.join "/repo".toList "././src/.//a.js".toList) ∧
    ∀ fs : FileSystem, fs.resolve (Path.join "/repo".toList "src/.//a.js".toList) =
      fs.resolve (Path.join "/repo".toList "././src/.//a.js".toList) := by
  have plain : '\\' ∉ "././src/.//a.js".toList := by decide
  obtain ⟨start, alike, found⟩ := leads_alike_iff "/repo".toList plain
  have covered : ¬ Uncovers "././src/.//a.js".toList := by
    intro uncovers
    exact absurd (start.mpr (.inr uncovers)) (by decide)
  exact ⟨plain, covered, rfl, alike.mpr fun uncovers => absurd uncovers covered,
    found covered (by decide) (by decide)⟩

/-- With a slash too many the header of a file in the repository names another file. -/
theorem uncovered_slash :
    '\\' ∉ ".//a.js".toList ∧ Path.isAbsolute ".//a.js".toList = false ∧
    (normalize ".//a.js".toList).text = "/a.js".toList ∧
    Path.isAbsolute (normalize ".//a.js".toList).text = true ∧
    Path.route (Path.join "/repo".toList (normalize ".//a.js".toList).text) ≠
      Path.route (Path.join "/repo".toList ".//a.js".toList) := by
  decide

end RepoPath

end PathHeader
