import PathHeader.Proofs.Walks
import PathHeader.Replacement

/-! Opening a draft, and removing one that was left behind. The name of a draft may be taken: by a
file, which is emptied, or by a link, which is followed to wherever it leads. -/
namespace PathHeader.FileSystem

variable {fs after : FileSystem} {creating keep : Bool} {directory place : Place} {name : Text}
  {reached : Reached}

theorem walkName_eq_ok_iff : fs.walkName creating directory name = .ok reached ↔
    pathSize (name :: directory) < maxPath ∧
      fs.Walks creating maxLinks directory [.name name] reached := by
  unfold walkName
  rw [← walk_eq_ok_iff]
  split_ifs with long
  · simp [Nat.not_lt.mpr long]
  · simp [Nat.lt_of_not_le long]

/-- A path to the name in a directory can be handed to the system. -/
structure Nameable (directory : Place) (name : Text) : Prop where
  fits : Utf8.size name ≤ maxName
  short : pathSize (name :: directory) < maxPath

theorem walkName_nameable (walked : fs.walkName creating directory name = .ok reached) :
    Nameable directory name := by
  obtain ⟨short, walks⟩ := walkName_eq_ok_iff.mp walked
  cases walks with
  | vacant _ fits | link _ _ fits | enter _ _ fits => exact ⟨fits, short⟩

/-- Without a link under it, a name leads to its own place. -/
theorem walkName_place (walked : fs.walkName creating directory name = .ok reached)
    (plain : ∀ target, fs.get? (name :: directory) ≠ some (.link target)) :
    fs.get? (name :: directory) = none ∧ reached = .vacant (name :: directory) ∨
      fs.get? (name :: directory) ≠ none ∧ reached = .entry (name :: directory) := by
  obtain ⟨_, walks⟩ := walkName_eq_ok_iff.mp walked
  cases walks with
  | vacant _ _ missing => exact .inl ⟨missing, rfl⟩
  | link _ _ _ found => exact absurd found (plain _)
  | enter _ _ _ found _ rest =>
    cases rest
    exact .inr ⟨by simp [found], rfl⟩

theorem walkName_entry (inside : fs.get? directory = some .directory)
    (nameable : Nameable directory name) (file : fs.FileAt (name :: directory)) :
    fs.walkName creating directory name = .ok (.entry (name :: directory)) := by
  obtain ⟨bytes, mode, file⟩ := file
  exact walkName_eq_ok_iff.mpr
    ⟨nameable.short, .enter inside (by simp) nameable.fits file nofun .done⟩

theorem ne_nil_of_get? (fs : FileSystem) {place : Place}
    (notDirectory : fs.get? place ≠ some .directory) : place ≠ [] := by
  rintro rfl
  exact notDirectory rfl

/-- Only the file at a place is other than before, and it is empty now. -/
structure Emptied (fs after : FileSystem) (place : Place) : Prop where
  before : fs.get? place = none ∨ fs.FileAt place
  now : ∃ mode, after.get? place = some (.file [] mode)
  others : ∀ other, other ≠ place → after.get? other = fs.get? other

theorem Emptied.ne_nil (emptied : Emptied fs after place) : place ≠ [] := by
  apply ne_nil_of_get? fs
  rcases emptied.before with missing | ⟨_, _, file⟩ <;> simp [*]

theorem emptied_set (before : fs.get? place = none ∨ fs.FileAt place) (mode : Nat) :
    Emptied fs (fs.set place (.file [] mode)) place := by
  have inside : place ≠ [] := by
    apply ne_nil_of_get? fs
    rcases before with missing | ⟨_, _, file⟩ <;> simp [*]
  refine ⟨before, ⟨mode, by rw [get?_set fs inside, if_pos rfl]⟩, fun other differs => ?_⟩
  rw [get?_set fs inside, if_neg differs]

theorem create_eq_ok_iff : fs.create directory name = .ok (place, after) ↔
    ∃ reached, fs.walkName true directory name = .ok reached ∧
      fs.openReached false reached = .ok (place, after) := by
  unfold create
  split <;> simp_all

theorem openReached_entry {entry : Place}
    (opened : fs.openReached false (.entry entry) = .ok (place, after)) :
    place = entry ∧ ∃ bytes mode, fs.get? entry = some (.file bytes mode) ∧
      after = fs.set entry (.file [] mode) := by
  simp only [openReached, Bool.false_eq_true, if_false] at opened
  split at opened
  · next bytes mode file =>
    split_ifs at opened
    cases opened
    exact ⟨rfl, bytes, mode, file, rfl⟩
  · cases opened

theorem create_emptied (created : fs.create directory name = .ok (place, after)) :
    Emptied fs after place := by
  obtain ⟨reached, walked, opened⟩ := create_eq_ok_iff.mp created
  cases reached with
  | vacant vacant =>
    cases opened
    exact emptied_set (.inl (walkName_eq_ok_iff.mp walked).2.get?_vacant) _
  | entry entry =>
    obtain ⟨rfl, bytes, mode, file, rfl⟩ := openReached_entry opened
    exact emptied_set (.inr ⟨bytes, mode, file⟩) mode

/-- A draft is made under its own name, unless a link stands there. -/
theorem create_place (created : fs.create directory name = .ok (place, after)) :
    place = name :: directory ∨ ∃ target, fs.get? (name :: directory) = some (.link target) := by
  by_cases linked : ∃ target, fs.get? (name :: directory) = some (.link target)
  · exact .inr linked
  · obtain ⟨reached, walked, opened⟩ := create_eq_ok_iff.mp created
    rw [not_exists] at linked
    left
    rcases walkName_place walked linked with ⟨_, rfl⟩ | ⟨_, rfl⟩
    · cases opened
      rfl
    · exact (openReached_entry opened).1

theorem create_nameable (created : fs.create directory name = .ok (place, after)) :
    Nameable directory name := by
  obtain ⟨_, walked, _⟩ := create_eq_ok_iff.mp created
  exact walkName_nameable walked

theorem leadsToFile_eq_true_iff : fs.leadsToFile directory name = true ↔
    ∃ place, fs.walkName false directory name = .ok (.entry place) ∧ fs.FileAt place := by
  unfold leadsToFile FileAt
  constructor
  · intro leads
    split at leads
    · next place walked =>
      split at leads
      · next bytes mode file => exact ⟨place, walked, bytes, mode, file⟩
      · cases leads
    · cases leads
  · rintro ⟨place, walked, bytes, mode, file⟩
    simp [walked, file]

/-- What leads to a file is there. -/
theorem get?_ne_none_of_leadsToFile (leads : fs.leadsToFile directory name = true) :
    fs.get? (name :: directory) ≠ none := by
  obtain ⟨place, walked, file⟩ := leadsToFile_eq_true_iff.mp leads
  obtain ⟨_, walks⟩ := walkName_eq_ok_iff.mp walked
  cases walks with
  | link _ _ _ found | enter _ _ _ found => simp [found]

end PathHeader.FileSystem

namespace PathHeader.Replacement
open FileSystem

theorem draftName_ne (name : Text) : draftName name ≠ name := by
  intro same
  have lengths := congrArg List.length same
  simp only [draftName, List.length_append, List.length_cons] at lengths
  omega

theorem target_ne_nil (r : Replacement) : r.target ≠ [] := List.cons_ne_nil _ _

theorem draft_ne_nil (r : Replacement) : r.draft ≠ [] := List.cons_ne_nil _ _

theorem draft_ne_target (r : Replacement) : r.draft ≠ r.target :=
  fun same => draftName_ne r.name (List.head_eq_of_cons_eq same)

theorem get?_cleanUp (r : Replacement) (fs : FileSystem) (other : Place) :
    (r.cleanUp fs).get? other =
      if fs.leadsToFile r.directory (draftName r.name) = true ∧ other = r.draft then none
      else fs.get? other := by
  unfold cleanUp
  by_cases leads : fs.leadsToFile r.directory (draftName r.name) = true
  · simp [leads, get?_remove fs r.draft_ne_nil]
  · simp [leads]

end PathHeader.Replacement
