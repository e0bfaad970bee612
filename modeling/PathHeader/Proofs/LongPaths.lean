import PathHeader.FileSystem.Canonical
import PathHeader.Proofs.Segments
import PathHeader.Proofs.Walks

/-! The paths that are looked up while a path is cleared of links. A path that can be walked is not
cleared exactly if one of them is too long. In a shaft of directories with long names they grow too
long, however short the way down is. -/
namespace PathHeader.FileSystem

/-- Something on the way is looked up by a path of this many bytes, which names it in full from the
root: whatever a name stands for, links included, and with a slash at the end a directory that has
to be there. -/
inductive LooksUp (fs : FileSystem) : Nat → Place → List Component → Nat → Prop where
  | name {links : Nat} {place : Place} {text : Text} {rest : List Component} :
      LooksUp fs links place (.name text :: rest) (pathSize (text :: place))
  | directory {links : Nat} {place : Place} {text : Text} {rest : List Component} {entry : Entry} :
      fs.get? (text :: place) = some entry → (∀ target, entry ≠ .link target) →
      asksDirectory rest = true →
      LooksUp fs links place (.name text :: rest) (pathSize (text :: place) + 1)
  | here {links : Nat} {place : Place} {rest : List Component} {size : Nat} :
      LooksUp fs links place rest size → LooksUp fs links place (.here :: rest) size
  | slash {links : Nat} {place : Place} {rest : List Component} {size : Nat} :
      LooksUp fs links place rest size → LooksUp fs links place (.slash :: rest) size
  | up {links : Nat} {place : Place} {rest : List Component} {size : Nat} :
      LooksUp fs links place.tail rest size → LooksUp fs links place (.up :: rest) size
  | link {links : Nat} {place : Place} {text target : Text} {rest : List Component} {size : Nat} :
      fs.get? (text :: place) = some (.link target) →
      LooksUp fs links (if Path.isAbsolute target then [] else place)
        (Path.components target ++ rest) size →
      LooksUp fs (links + 1) place (.name text :: rest) size
  | enter {links : Nat} {place : Place} {text : Text} {rest : List Component} {entry : Entry}
      {size : Nat} :
      fs.get? (text :: place) = some entry → (∀ target, entry ≠ .link target) →
      LooksUp fs links (text :: place) rest size →
      LooksUp fs links place (.name text :: rest) size

variable {fs : FileSystem} {links size : Nat} {place : Place} {components : List Component}
  {path : Text}

theorem exists_looksUp_of_straysFrom (strays : fs.straysFrom links place components = true) :
    ∃ size, fs.LooksUp links place components size ∧ maxPath ≤ size := by
  fun_induction straysFrom fs links place components with
  | case1 | case6 | case7 => cases strays
  | case2 _ _ _ ih =>
    obtain ⟨size, looksUp, long⟩ := ih strays
    exact ⟨size, .here looksUp, long⟩
  | case3 _ _ _ ih =>
    obtain ⟨size, looksUp, long⟩ := ih strays
    exact ⟨size, .slash looksUp, long⟩
  | case4 _ _ _ ih =>
    obtain ⟨size, looksUp, long⟩ := ih strays
    exact ⟨size, .up looksUp, long⟩
  | case5 _ _ _ _ long => exact ⟨_, .name, long⟩
  | case8 _ _ _ _ _ found _ ih =>
    obtain ⟨size, looksUp, long⟩ := ih strays
    exact ⟨size, .link found looksUp, long⟩
  | case9 _ _ _ _ _ _ noLink found asked =>
    obtain ⟨asks, long⟩ := Bool.and_eq_true_iff.mp asked
    exact ⟨_, .directory found noLink asks, of_decide_eq_true long⟩
  | case10 _ _ _ _ _ _ noLink found _ ih =>
    obtain ⟨size, looksUp, long⟩ := ih strays
    exact ⟨size, .enter found noLink looksUp, long⟩

theorem LooksUp.straysFrom (looksUp : fs.LooksUp links place components size)
    (long : maxPath ≤ size) : fs.straysFrom links place components = true := by
  induction looksUp with
  | name => rw [FileSystem.straysFrom, if_pos long]
  | here _ ih | slash _ ih | up _ ih =>
    rw [FileSystem.straysFrom]
    exact ih long
  | link found _ ih =>
    rw [FileSystem.straysFrom]
    simp only [found, ih long, ite_self]
  | @directory _ _ _ _ entry found noLink asks =>
    rw [FileSystem.straysFrom]
    cases entry with
    | link target => exact absurd rfl (noLink target)
    | file | directory => simp [found, asks, long]
  | @enter _ _ _ _ entry _ found noLink _ ih =>
    rw [FileSystem.straysFrom]
    cases entry with
    | link target => exact absurd rfl (noLink target)
    | file | directory => simp only [found, ih long, ite_self]

/-- A path that is looked up when `path` is cleared of links is too long. -/
def Overlong (fs : FileSystem) (path : Text) : Prop :=
  ∃ size, fs.LooksUp maxLinks [] (Path.components path) size ∧ maxPath ≤ size

theorem strays_iff : fs.strays path = true ↔ fs.Overlong path :=
  ⟨exists_looksUp_of_straysFrom, fun ⟨_, looksUp, long⟩ => looksUp.straysFrom long⟩

theorem not_overlong (short : fs.strays path = false) : ¬ fs.Overlong path := by
  rw [← strays_iff, short]
  exact Bool.false_ne_true

theorem canonicalize_eq_ok_iff :
    fs.canonicalize path = .ok place ↔ fs.resolve path = .ok place ∧ ¬ fs.Overlong path := by
  rw [← strays_iff]
  unfold canonicalize
  cases fs.resolve path with
  | error cause => simp
  | ok found => cases fs.strays path <;> simp

/-- A path that can be walked is not cleared of links for one reason only. -/
theorem canonicalize_eq_error_iff {cause : Cause} (resolved : fs.resolve path = .ok place) :
    fs.canonicalize path = .error cause ↔ fs.Overlong path ∧ cause = .nameTooLong := by
  rw [← strays_iff, canonicalize, resolved]
  cases fs.strays path <;> simp [eq_comm]

/-- A name of the greatest length. -/
def longName : Text := List.replicate maxName 'n'

/-- A file, and beside it so many directories one in another. Each of them has a long name, and a
link with a short one stands next to it. -/
def shaft : Nat → FileSystem
  | 0 => { entries := [(["a.js".toList], .file (Utf8.encode "x\n".toList) 0o644)] }
  | depth + 1 =>
    let above := List.replicate depth longName
    ((shaft depth).set (longName :: above) .directory).set (['d'] :: above) (.link longName)

theorem size_longName : Utf8.size longName = maxName := by
  have single : 'n'.utf8Size = 1 := rfl
  simp [Utf8.size, Utf8.encode, longName, List.length_flatMap, List.map_replicate, single]

theorem pathSize_replicate (depth : Nat) :
    pathSize (List.replicate depth longName) = depth * 256 := by
  induction depth with
  | zero => rfl
  | succ depth ih =>
    have size : pathSize (longName :: List.replicate depth longName) =
        Utf8.size longName + 1 + pathSize (List.replicate depth longName) := rfl
    rw [List.replicate_succ, size, ih, size_longName, maxName]
    omega

theorem components_longName : Path.components longName = [.name longName] :=
  Path.components_name (fun listed => absurd (List.eq_of_mem_replicate listed) (by decide))
    (by decide) (by rw [Path.component, if_neg (by decide), if_neg (by decide)])

theorem relative_longName : Path.isAbsolute longName = false := by decide

theorem short_ne_longName : ['d'] ≠ longName := by decide

variable {depth level count : Nat} {rest : List Component} {reached : Reached}

theorem get?_shaft_directory (within : level ≤ depth) :
    (shaft depth).get? (List.replicate level longName) = some .directory := by
  induction depth with
  | zero =>
    cases Nat.le_zero.mp within
    rfl
  | succ depth ih =>
    have noLink : List.replicate level longName ≠ ['d'] :: List.replicate depth longName := by
      intro same
      have listed : ['d'] ∈ List.replicate level longName := same ▸ List.mem_cons_self
      exact short_ne_longName (List.eq_of_mem_replicate listed)
    rw [shaft, get?_set _ (List.cons_ne_nil _ _), if_neg noLink, get?_set _ (List.cons_ne_nil _ _)]
    rcases Nat.lt_or_eq_of_le within with higher | rfl
    · split
      · rfl
      · exact ih (Nat.le_of_lt_succ higher)
    · exact if_pos List.replicate_succ

theorem get?_shaft_link (within : level < depth) :
    (shaft depth).get? (['d'] :: List.replicate level longName) = some (.link longName) := by
  induction depth with
  | zero => cases within
  | succ depth ih =>
    have noDirectory : ['d'] :: List.replicate level longName ≠
        longName :: List.replicate depth longName :=
      fun same => short_ne_longName (List.head_eq_of_cons_eq same)
    rw [shaft, get?_set _ (List.cons_ne_nil _ _), get?_set _ (List.cons_ne_nil _ _),
      if_neg noDirectory]
    rcases Nat.lt_or_eq_of_le (Nat.le_of_lt_succ within) with higher | rfl
    · split
      · rfl
      · exact ih higher
    · exact if_pos rfl

theorem get?_shaft_name {name : Text} (notLong : name ≠ longName) (notShort : name ≠ ['d']) :
    (shaft depth).get? [name] = (shaft 0).get? [name] := by
  induction depth with
  | zero => rfl
  | succ depth ih =>
    have noLink : [name] ≠ ['d'] :: List.replicate depth longName :=
      fun same => notShort (List.head_eq_of_cons_eq same)
    have noDirectory : [name] ≠ longName :: List.replicate depth longName :=
      fun same => notLong (List.head_eq_of_cons_eq same)
    rw [← ih, shaft, get?_set _ (List.cons_ne_nil _ _), if_neg noLink,
      get?_set _ (List.cons_ne_nil _ _), if_neg noDirectory]

/-- Down the links. -/
theorem Walks.descend (within : level + count ≤ depth)
    (walks : (shaft depth).Walks false links (List.replicate (level + count) longName) rest
      reached) :
    (shaft depth).Walks false (links + count) (List.replicate level longName)
      (List.replicate count (.name ['d']) ++ rest) reached := by
  induction count generalizing level with
  | zero => exact walks
  | succ count ih =>
    have next : level + 1 + count = level + (count + 1) := by omega
    have inside : (shaft depth).get? (List.replicate level longName) = some .directory :=
      get?_shaft_directory (by omega)
    have entered : (shaft depth).get? (List.replicate (level + 1) longName) = some .directory :=
      get?_shaft_directory (by omega)
    refine .link inside (by simp) (by decide) (get?_shaft_link (by omega)) ?_
    rw [components_longName, relative_longName, if_neg Bool.false_ne_true]
    exact .enter inside (by simp) (Nat.le_of_eq size_longName) entered nofun
      (@ih (level + 1) (by omega) (next ▸ walks))

theorem Walks.climb (within : count ≤ depth)
    (walks : (shaft depth).Walks false links [] rest reached) :
    (shaft depth).Walks false links (List.replicate count longName)
      (List.replicate count .up ++ rest) reached := by
  induction count with
  | zero => exact walks
  | succ count ih => exact .up (get?_shaft_directory within) (ih (by omega))

/-- What a link leads to is looked up by its own path, which is as long as the shaft is deep. -/
theorem LooksUp.shaft (within : level + count < depth) :
    (shaft depth).LooksUp (links + (count + 1)) (List.replicate level longName)
      (List.replicate (count + 1) (.name ['d']) ++ rest)
      (pathSize (List.replicate (level + (count + 1)) longName)) := by
  induction count generalizing level with
  | zero =>
    refine .link (get?_shaft_link within) ?_
    rw [components_longName, relative_longName, if_neg Bool.false_ne_true]
    exact .name
  | succ count ih =>
    have next : level + (count + 1 + 1) = level + 1 + (count + 1) := by omega
    have entered : (shaft depth).get? (List.replicate (level + 1) longName) = some .directory :=
      get?_shaft_directory (by omega)
    refine .link (get?_shaft_link (by omega)) ?_
    rw [components_longName, relative_longName, if_neg Bool.false_ne_true, next]
    exact .enter entered nofun (@ih (level + 1) (by omega))

end PathHeader.FileSystem
