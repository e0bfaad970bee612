import PathHeader.Proofs.Drafts
import PathHeader.Proofs.LongPaths

/-! Trees that differ in nothing but the bytes of their files. No walk tells such trees apart, and a
draft can be made in all of them or is refused in all of them for the same cause. -/
namespace PathHeader.FileSystem

/-- At every place stands the same, or there are files of one mode. -/
def Alike (fs other : FileSystem) : Prop :=
  ∀ place, other.get? place = fs.get? place ∨
    ∃ before now mode, fs.get? place = some (.file before mode) ∧
      other.get? place = some (.file now mode)

variable {fs other third : FileSystem} {place directory : Place} {path name : Text}

namespace Alike

theorem refl (fs : FileSystem) : fs.Alike fs := fun _ => .inl rfl

theorem symm (alike : fs.Alike other) : other.Alike fs := by
  intro place
  rcases alike place with same | ⟨before, now, mode, file, fileNow⟩
  · exact .inl same.symm
  · exact .inr ⟨now, before, mode, fileNow, file⟩

theorem trans (alike : fs.Alike other) (more : other.Alike third) : fs.Alike third := by
  intro place
  rcases alike place with same | ⟨before, now, mode, file, fileNow⟩
  · rw [← same]
    exact more place
  · rcases more place with same | ⟨_, last, _, found, fileLast⟩
    · exact .inr ⟨before, now, mode, file, same.trans fileNow⟩
    · cases fileNow.symm.trans found
      exact .inr ⟨before, last, mode, file, fileLast⟩

theorem get?_eq_none (alike : fs.Alike other) (missing : fs.get? place = none) :
    other.get? place = none := by
  rcases alike place with same | ⟨_, _, _, file, _⟩
  · exact same.trans missing
  · cases missing.symm.trans file

theorem get?_other (alike : fs.Alike other) {entry : Entry} (found : fs.get? place = some entry)
    (noFile : ∀ bytes mode, entry ≠ .file bytes mode) : other.get? place = some entry := by
  rcases alike place with same | ⟨before, _, mode, file, _⟩
  · exact same.trans found
  · cases found.symm.trans file
    exact absurd rfl (noFile before mode)

theorem get?_directory_iff (alike : fs.Alike other) (place : Place) :
    other.get? place = some .directory ↔ fs.get? place = some .directory :=
  ⟨fun found => alike.symm.get?_other found nofun, fun found => alike.get?_other found nofun⟩

theorem get?_link (alike : fs.Alike other) {target : Text}
    (found : fs.get? place = some (.link target)) : other.get? place = some (.link target) :=
  alike.get?_other found nofun

theorem get?_noLink (alike : fs.Alike other) {entry : Entry} (found : fs.get? place = some entry)
    (noLink : ∀ target, entry ≠ .link target) :
    ∃ now, other.get? place = some now ∧ ∀ target, now ≠ .link target := by
  rcases alike place with same | ⟨_, now, mode, _, fileNow⟩
  · exact ⟨entry, same.trans found, noLink⟩
  · exact ⟨.file now mode, fileNow, nofun⟩

theorem walk (alike : fs.Alike other) (creating : Bool) (links : Nat) (start : Place)
    (components : List Component) :
    other.walk creating links start components = fs.walk creating links start components := by
  have still : ∀ {place}, ¬ fs.get? place ≠ some .directory →
      ¬ other.get? place ≠ some .directory := by
    intro place
    exact mt (mt (alike.get?_directory_iff place).mpr)
  fun_induction FileSystem.walk fs creating links start components with
  | case1 => rw [FileSystem.walk]
  | case2 _ place component _ outside =>
    have outside : other.get? place ≠ some .directory :=
      mt (alike.get?_directory_iff place).mp outside
    cases component <;> rw [FileSystem.walk, if_pos outside]
  | case3 _ _ _ inside ih | case4 _ _ _ inside ih | case5 _ _ _ inside ih =>
    rw [FileSystem.walk, if_neg (still inside)]
    exact ih
  | case6 _ _ _ inside _ closes => rw [FileSystem.walk, if_neg (still inside), if_pos closes]
  | case7 _ _ _ inside _ opens long =>
    rw [FileSystem.walk, if_neg (still inside), if_neg opens, if_pos long]
  | case8 _ _ inside _ fits missing =>
    have missing := alike.get?_eq_none missing
    rw [FileSystem.walk, if_neg (still inside)]
    simp [missing, fits]
  | case9 _ _ _ inside _ opens fits missing more =>
    have missing := alike.get?_eq_none missing
    rw [FileSystem.walk, if_neg (still inside), if_neg opens, if_neg fits]
    simp only [missing, if_neg more]
  | case10 _ _ inside _ opens fits target found =>
    have found := alike.get?_link found
    rw [FileSystem.walk, if_neg (still inside), if_neg opens, if_neg fits]
    simp only [found]
  | case11 _ _ inside _ opens fits target found _ ih =>
    have found := alike.get?_link found
    rw [FileSystem.walk, if_neg (still inside), if_neg opens, if_neg fits]
    simp only [found]
    exact ih
  | case12 _ _ _ inside _ opens fits entry noLink found ih =>
    obtain ⟨now, found, noLink⟩ := alike.get?_noLink found noLink
    rw [FileSystem.walk, if_neg (still inside), if_neg opens, if_neg fits]
    cases now with
    | file | directory => simp only [found, ih]
    | link target => exact absurd rfl (noLink target)

theorem walkPath (alike : fs.Alike other) (creating : Bool) (start : Place) (path : Text) :
    other.walkPath creating start path = fs.walkPath creating start path := by
  simp only [FileSystem.walkPath, alike.walk]

theorem resolve (alike : fs.Alike other) (path : Text) : other.resolve path = fs.resolve path := by
  simp only [FileSystem.resolve, alike.walkPath]

theorem straysFrom (alike : fs.Alike other) (links : Nat) (place : Place)
    (components : List Component) :
    other.straysFrom links place components = fs.straysFrom links place components := by
  fun_induction FileSystem.straysFrom fs links place components with
  | case1 => rw [FileSystem.straysFrom]
  | case2 _ _ _ ih | case3 _ _ _ ih | case4 _ _ _ ih =>
    rw [FileSystem.straysFrom]
    exact ih
  | case5 _ _ _ _ long => rw [FileSystem.straysFrom, if_pos long]
  | case6 _ _ _ _ short missing =>
    have missing := alike.get?_eq_none missing
    rw [FileSystem.straysFrom, if_neg short]
    simp only [missing]
  | case7 _ _ _ short target found =>
    have found := alike.get?_link found
    rw [FileSystem.straysFrom, if_neg short]
    simp only [found]
  | case8 _ _ _ short target found _ ih =>
    have found := alike.get?_link found
    rw [FileSystem.straysFrom, if_neg short]
    simp only [found]
    exact ih
  | case9 _ _ _ _ short entry noLink found asked =>
    obtain ⟨now, found, noLink⟩ := alike.get?_noLink found noLink
    rw [FileSystem.straysFrom, if_neg short]
    cases now with
    | file | directory => simp only [found, if_pos asked]
    | link target => exact absurd rfl (noLink target)
  | case10 _ _ _ _ short entry noLink found unasked ih =>
    obtain ⟨now, found, noLink⟩ := alike.get?_noLink found noLink
    rw [FileSystem.straysFrom, if_neg short]
    cases now with
    | file | directory => simp only [found, if_neg unasked, ih]
    | link target => exact absurd rfl (noLink target)

theorem canonicalize (alike : fs.Alike other) (path : Text) :
    other.canonicalize path = fs.canonicalize path := by
  unfold FileSystem.canonicalize FileSystem.strays
  rw [alike.resolve, alike.straysFrom]

theorem mode (alike : fs.Alike other) (place : Place) : other.mode place = fs.mode place := by
  unfold FileSystem.mode
  rcases alike place with same | ⟨_, _, _, file, fileNow⟩
  · rw [same]
  · rw [file, fileNow]

theorem openReached (alike : fs.Alike other) (reached : Reached) :
    (other.openReached false reached).map Prod.fst =
      (fs.openReached false reached).map Prod.fst := by
  cases reached with
  | vacant place => rfl
  | entry place =>
    simp only [FileSystem.openReached]
    rcases alike place with same | ⟨_, _, _, file, fileNow⟩
    · rw [same]
      cases fs.get? place with
      | none => rfl
      | some entry =>
        cases entry with
        | file _ mode =>
          dsimp only
          split_ifs <;> rfl
        | directory | link => rfl
    · rw [file, fileNow]
      dsimp only
      split_ifs <;> rfl

/-- Where a draft is made, or why it is not, is the same. -/
theorem create (alike : fs.Alike other) (directory : Place) (name : Text) :
    (other.create directory name).map Prod.fst = (fs.create directory name).map Prod.fst := by
  simp only [FileSystem.create, walkName, alike.walk]
  split
  · rfl
  · exact alike.openReached _

theorem create_eq_error_iff (alike : fs.Alike other) {cause : Cause} :
    other.create directory name = .error cause ↔ fs.create directory name = .error cause := by
  have same := alike.create directory name
  cases now : other.create directory name <;> cases before : fs.create directory name <;>
    simp_all [Except.map]

theorem create_eq_ok_iff (alike : fs.Alike other) :
    (∃ opened, other.create directory name = .ok opened) ↔
      ∃ opened, fs.create directory name = .ok opened := by
  have same := alike.create directory name
  cases now : other.create directory name <;> cases before : fs.create directory name <;>
    simp_all [Except.map]

/-- A file is read alike if its own bytes are the same. -/
theorem read (alike : fs.Alike other)
    (same : ∀ place, fs.resolve path = .ok place → other.get? place = fs.get? place) :
    other.read path = fs.read path := by
  simp only [FileSystem.read, alike.resolve]
  cases resolved : fs.resolve path with
  | error cause => rfl
  | ok place => simp only [same place resolved]

end Alike

end PathHeader.FileSystem
