import PathHeader.Proofs.Segments
import PathHeader.Proofs.Walks

/-! Walks from the root of a repository. A walk along joined paths comes by the end of the first,
and one that meets no link enters only what its path names. -/
namespace PathHeader.FileSystem

variable {fs : FileSystem} {creating : Bool} {links : Nat} {start base middle place : Place}
  {components more : List Component} {root raw path : Text}

namespace Walks

theorem unique (walks : fs.Walks creating links start components (.entry place))
    (again : fs.Walks creating links start components (.entry middle)) : place = middle := by
  cases walks.walk.symm.trans again.walk
  rfl

/-- By induction on the walk: a link that stands in the first part is followed there. -/
theorem of_append (walks : fs.Walks false links start (components ++ more) (.entry place)) :
    ∃ middle left, fs.Walks false links start components (.entry middle) ∧
      fs.Walks false left middle more (.entry place) := by
  generalize whole : components ++ more = all at walks
  generalize ended : Reached.entry place = reached at walks
  induction walks generalizing components with
  | @done links =>
    cases ended
    obtain ⟨rfl, rfl⟩ := List.append_eq_nil_iff.mp whole
    exact ⟨place, links, .done, .done⟩
  | vacant => cases ended
  | here inside walks ih =>
    subst ended
    rcases List.append_eq_cons_iff.mp whole with ⟨rfl, rfl⟩ | ⟨rest, rfl, split⟩
    · exact ⟨_, _, .done, .here inside walks⟩
    · obtain ⟨middle, left, first, second⟩ := ih split.symm rfl
      exact ⟨middle, left, .here inside first, second⟩
  | slash inside walks ih =>
    subst ended
    rcases List.append_eq_cons_iff.mp whole with ⟨rfl, rfl⟩ | ⟨rest, rfl, split⟩
    · exact ⟨_, _, .done, .slash inside walks⟩
    · obtain ⟨middle, left, first, second⟩ := ih split.symm rfl
      exact ⟨middle, left, .slash inside first, second⟩
  | up inside walks ih =>
    subst ended
    rcases List.append_eq_cons_iff.mp whole with ⟨rfl, rfl⟩ | ⟨rest, rfl, split⟩
    · exact ⟨_, _, .done, .up inside walks⟩
    · obtain ⟨middle, left, first, second⟩ := ih split.symm rfl
      exact ⟨middle, left, .up inside first, second⟩
  | link inside opens fits found walks ih =>
    subst ended
    rcases List.append_eq_cons_iff.mp whole with ⟨rfl, rfl⟩ | ⟨rest, rfl, rfl⟩
    · exact ⟨_, _, .done, .link inside opens fits found walks⟩
    · obtain ⟨middle, left, first, second⟩ := ih (List.append_assoc _ _ _) rfl
      exact ⟨middle, left, .link inside nofun fits found first, second⟩
  | enter inside opens fits found noLink walks ih =>
    subst ended
    rcases List.append_eq_cons_iff.mp whole with ⟨rfl, rfl⟩ | ⟨rest, rfl, split⟩
    · exact ⟨_, _, .done, .enter inside opens fits found noLink walks⟩
    · obtain ⟨middle, left, first, second⟩ := ih split.symm rfl
      exact ⟨middle, left, .enter inside nofun fits found noLink first, second⟩

/-- Without a link on the way a walk enters only what its path names. -/
theorem entered (walks : fs.Walks creating 0 start components (.entry place)) :
    ∃ entered above, place = entered ++ above ∧ above <:+ start ∧
      ∀ name ∈ entered, .name name ∈ components := by
  generalize ended : Reached.entry place = reached at walks
  generalize none : 0 = links at walks
  induction walks with
  | done =>
    cases ended
    exact ⟨[], _, rfl, List.suffix_refl _, nofun⟩
  | vacant => cases ended
  | link => cases none
  | here _ _ ih | slash _ _ ih =>
    obtain ⟨entered, above, same, suffix, named⟩ := ih ended none
    exact ⟨entered, above, same, suffix,
      fun name listed => List.mem_cons_of_mem _ (named name listed)⟩
  | up _ _ ih =>
    obtain ⟨entered, above, same, suffix, named⟩ := ih ended none
    exact ⟨entered, above, same, suffix.trans (List.tail_suffix _),
      fun name listed => List.mem_cons_of_mem _ (named name listed)⟩
  | @enter _ start text rest _ _ _ _ _ _ _ _ ih =>
    obtain ⟨entered, above, same, suffix, named⟩ := ih ended none
    have named : ∀ name ∈ entered, .name name ∈ Component.name text :: rest :=
      fun name listed => List.mem_cons_of_mem _ (named name listed)
    rcases List.suffix_cons_iff.mp suffix with rfl | within
    · refine ⟨entered ++ [text], start, by simp [same], List.suffix_refl _, ?_⟩
      intro name listed
      rcases List.mem_append.mp listed with listed | last
      · exact named name listed
      · cases List.mem_singleton.mp last
        exact List.mem_cons_self
    · exact ⟨entered, above, same, within, named⟩

/-- A walk that may follow no link comes to the same place, or stops at one. -/
theorem linkless (walks : fs.Walks false links start components (.entry place)) :
    fs.walk false 0 start components = .ok (.entry place) ∨
      fs.walk false 0 start components = .error .tooManyLinks := by
  generalize ended : Reached.entry place = reached at walks
  induction walks with
  | done =>
    cases ended
    exact .inl (by rw [FileSystem.walk])
  | vacant => cases ended
  | here inside _ ih | slash inside _ ih | up inside _ ih =>
    rw [FileSystem.walk, if_neg (not_not_intro inside)]
    exact ih ended
  | link inside _ fits found =>
    right
    rw [FileSystem.walk, if_neg (not_not_intro inside)]
    simp [Nat.not_lt.mpr fits, found]
  | @enter _ _ _ _ entry _ inside _ fits found noLink _ ih =>
    rw [FileSystem.walk, if_neg (not_not_intro inside)]
    simp only [Bool.false_and, Bool.false_eq_true, if_false, if_neg (Nat.not_lt.mpr fits), found]
    cases entry with
    | link target => exact absurd rfl (noLink target)
    | file | directory => exact ih ended

/-- A slash at the end asks for a directory and leads no further. -/
theorem steps (walks : fs.Walks false links start (Path.components path) (.entry place)) :
    fs.Walks false links start (Path.steps path) (.entry place) := by
  rw [Path.components_eq] at walks
  split at walks
  · obtain ⟨middle, _, first, last⟩ := walks.of_append
    cases last with
    | slash _ last =>
      cases last
      exact first
  · exact walks

end Walks

/-- Where a path below a root leads can be walked from the root. -/
theorem walks_of_resolve (rooted : fs.resolve root = .ok base)
    (relative : Path.isAbsolute raw = false)
    (resolved : fs.resolve (Path.join root raw) = .ok place) :
    ∃ left, fs.Walks false left base (Path.components raw) (.entry place) := by
  obtain ⟨_, given, _, toBase⟩ := resolve_eq_ok_iff.mp rooted
  obtain ⟨_, _, _, toPlace⟩ := resolve_eq_ok_iff.mp resolved
  by_cases empty : raw = []
  · subst empty
    obtain ⟨front, same, joins⟩ := Path.exists_join given
    have along := toPlace.steps
    rw [joins [] relative, Path.steps_append_slash, same, Path.steps_nil, List.append_nil] at along
    rw [along.unique toBase.steps]
    exact ⟨0, .done⟩
  · rw [Path.components_join relative empty given] at toPlace
    obtain ⟨middle, left, first, second⟩ := toPlace.of_append
    rw [first.unique toBase.steps] at second
    exact ⟨left, second⟩

end PathHeader.FileSystem
