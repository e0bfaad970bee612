import PathHeader.Proofs.Drafts

/-! Why the system refuses to walk, to read and to create. Every cause but one is a number of the
system, and where a walk ends at a file only the file's mode keeps it from being opened. -/
namespace PathHeader.FileSystem

variable {fs : FileSystem} {creating : Bool} {links : Nat} {start place directory : Place}
  {components : List Component} {path name : Text} {reached : Reached} {cause : Cause}

/-- A walk is refused with one of the system's numbers. -/
theorem walk_refused (refused : fs.walk creating links start components = .error cause) :
    ∃ code, cause = .os code := by
  fun_induction walk fs creating links start components with
  | case1 | case8 => cases refused
  | case2 | case6 | case7 | case9 | case10 =>
    cases refused
    exact ⟨_, rfl⟩
  | case3 _ _ _ _ ih | case4 _ _ _ _ ih | case5 _ _ _ _ ih => exact ih refused
  | case11 _ _ _ _ _ _ _ _ _ ih | case12 _ _ _ _ _ _ _ _ _ _ ih => exact ih refused

theorem walkPath_refused (refused : fs.walkPath creating start path = .error cause) :
    cause = .nulInPath ∨ ∃ code, cause = .os code := by
  unfold walkPath at refused
  split_ifs at refused
  · cases refused
    exact .inl rfl
  · cases refused
    exact .inr ⟨_, rfl⟩
  · cases refused
    exact .inr ⟨_, rfl⟩
  · exact .inr (walk_refused refused)
  · exact .inr (walk_refused refused)

theorem read_refused (refused : fs.read path = .error cause) :
    cause = .nulInPath ∨ ∃ code, cause = .os code := by
  unfold FileSystem.read resolve at refused
  split at refused
  · next failed =>
    cases refused
    split at failed
    · cases failed
    · cases failed
      exact .inr ⟨_, rfl⟩
    · next walked =>
      cases failed
      exact walkPath_refused walked
  · right
    split at refused
    · split_ifs at refused
      cases refused
      exact ⟨_, rfl⟩
    · cases refused
      exact ⟨_, rfl⟩

theorem create_refused (refused : fs.create directory name = .error cause) :
    ∃ code, cause = .os code := by
  unfold create walkName openReached at refused
  split at refused
  · next walked =>
    cases refused
    split_ifs at walked
    · cases walked
      exact ⟨_, rfl⟩
    · exact walk_refused walked
  · split at refused
    · cases refused
    · split at refused
      · split_ifs at refused
        cases refused
        exact ⟨_, rfl⟩
      · cases refused
        exact ⟨_, rfl⟩

/-- A path with a slash at its end leads to a directory. -/
theorem Walks.directory_of_slash (walks : fs.Walks creating links start components (.entry place))
    (closes : components.getLast? = some .slash) : fs.get? place = some .directory := by
  generalize ended : Reached.entry place = reached at walks
  have within : ∀ {component : Component} {rest : List Component},
      (component :: rest).getLast? = some .slash → component ≠ .slash →
      rest.getLast? = some .slash := by
    intro component rest closes other
    cases rest with
    | nil => cases closes; contradiction
    | cons next more => simpa using closes
  induction walks with
  | done => cases closes
  | here _ _ ih | up _ _ ih => exact ih (within closes nofun) ended
  | @slash _ _ rest _ inside walks ih =>
    cases rest with
    | nil =>
      cases ended
      cases walks
      exact inside
    | cons next more => exact ih (by simpa using closes) ended
  | vacant => cases ended
  | link _ _ _ _ _ ih =>
    refine ih ?_ ended
    rw [List.getLast?_append, within closes nofun]
    rfl
  | enter _ _ _ _ _ _ ih => exact ih (within closes nofun) ended

/-- A walk that ends at a file may also create: it closes no name with a slash. -/
theorem Walks.toCreating (walks : fs.Walks false links start components (.entry place))
    (file : fs.FileAt place) : fs.Walks true links start components (.entry place) := by
  obtain ⟨bytes, mode, file⟩ := file
  generalize ended : Reached.entry place = reached at walks
  induction walks with
  | done => exact .done
  | here inside _ ih => exact .here inside (ih ended)
  | slash inside _ ih => exact .slash inside (ih ended)
  | up inside _ ih => exact .up inside (ih ended)
  | vacant inside fits missing => exact .vacant inside fits missing
  | @link _ _ _ target rest _ inside _ fits found walks ih =>
    have opens : ¬ (true = true ∧ rest = [.slash]) := by
      rintro ⟨_, rfl⟩
      cases ended
      have closes : (Path.components target ++ [Component.slash]).getLast? = some .slash := by simp
      cases file.symm.trans (walks.directory_of_slash closes)
    exact .link inside opens fits found (ih ended)
  | @enter _ _ _ rest _ _ inside _ fits found noLink walks ih =>
    have opens : ¬ (true = true ∧ rest = [.slash]) := by
      rintro ⟨_, rfl⟩
      cases ended
      cases file.symm.trans (walks.directory_of_slash rfl)
    exact .enter inside opens fits found noLink (ih ended)

/-- Where a name leads to a file, only the file's mode can forbid to open it. -/
theorem create_of_leadsToFile (leads : fs.leadsToFile directory name = true) :
    (∃ opened, fs.create directory name = .ok opened) ∨
      fs.create directory name = .error .permissionDenied := by
  obtain ⟨place, walked, file⟩ := leadsToFile_eq_true_iff.mp leads
  obtain ⟨short, walks⟩ := walkName_eq_ok_iff.mp walked
  have reached : fs.walkName true directory name = .ok (.entry place) :=
    walkName_eq_ok_iff.mpr ⟨short, walks.toCreating file⟩
  obtain ⟨bytes, mode, file⟩ := file
  have opened : fs.create directory name =
      if mayWrite mode then .ok (place, fs.set place (.file [] mode))
      else .error .permissionDenied := by
    simp only [create, reached, openReached, file, Bool.false_eq_true, if_false]
  rw [opened]
  split_ifs
  · exact .inl ⟨_, rfl⟩
  · exact .inr rfl

end PathHeader.FileSystem
