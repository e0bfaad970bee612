import Mathlib.Tactic.SplitIfs
import PathHeader.FileSystem.Operations

/-! Walks as derivations: every way to get on is a rule, and a walk succeeds exactly along the
rules. What a walk meets, and what it does not look at, is then read off its rules. -/
namespace PathHeader.FileSystem

def FileAt (fs : FileSystem) (place : Place) : Prop :=
  ∃ bytes mode, fs.get? place = some (.file bytes mode)

inductive Walks (fs : FileSystem) (creating : Bool) :
    Nat → Place → List Component → Reached → Prop where
  | done {links : Nat} {place : Place} : Walks fs creating links place [] (.entry place)
  | here {links : Nat} {place : Place} {rest : List Component} {reached : Reached} :
      fs.get? place = some .directory → Walks fs creating links place rest reached →
      Walks fs creating links place (.here :: rest) reached
  | slash {links : Nat} {place : Place} {rest : List Component} {reached : Reached} :
      fs.get? place = some .directory → Walks fs creating links place rest reached →
      Walks fs creating links place (.slash :: rest) reached
  | up {links : Nat} {place : Place} {rest : List Component} {reached : Reached} :
      fs.get? place = some .directory → Walks fs creating links place.tail rest reached →
      Walks fs creating links place (.up :: rest) reached
  | vacant {links : Nat} {place : Place} {text : Text} :
      fs.get? place = some .directory → Utf8.size text ≤ maxName →
      fs.get? (text :: place) = none →
      Walks fs creating links place [.name text] (.vacant (text :: place))
  | link {links : Nat} {place : Place} {text target : Text} {rest : List Component}
      {reached : Reached} :
      fs.get? place = some .directory → ¬ (creating ∧ rest = [.slash]) →
      Utf8.size text ≤ maxName → fs.get? (text :: place) = some (.link target) →
      Walks fs creating links (if Path.isAbsolute target then [] else place)
        (Path.components target ++ rest) reached →
      Walks fs creating (links + 1) place (.name text :: rest) reached
  | enter {links : Nat} {place : Place} {text : Text} {rest : List Component} {entry : Entry}
      {reached : Reached} :
      fs.get? place = some .directory → ¬ (creating ∧ rest = [.slash]) →
      Utf8.size text ≤ maxName → fs.get? (text :: place) = some entry →
      (∀ target, entry ≠ .link target) → Walks fs creating links (text :: place) rest reached →
      Walks fs creating links place (.name text :: rest) reached

variable {fs after : FileSystem} {creating : Bool} {links : Nat} {start place hole : Place}
  {components : List Component} {reached : Reached}

theorem walks_of_walk (walked : fs.walk creating links start components = .ok reached) :
    fs.Walks creating links start components reached := by
  fun_induction walk fs creating links start components with
  | case1 => cases walked; exact .done
  | case3 _ _ _ inside ih => exact .here (Classical.not_not.mp inside) (ih walked)
  | case4 _ _ _ inside ih => exact .slash (Classical.not_not.mp inside) (ih walked)
  | case5 _ _ _ inside ih => exact .up (Classical.not_not.mp inside) (ih walked)
  | case8 _ _ inside _ fits missing =>
    cases walked
    exact .vacant (Classical.not_not.mp inside) (Nat.le_of_not_lt fits) missing
  | case11 _ _ inside _ opens fits _ found _ ih =>
    exact .link (Classical.not_not.mp inside) (by simpa using opens) (Nat.le_of_not_lt fits) found
      (ih walked)
  | case12 _ _ _ inside _ opens fits _ noLink found ih =>
    exact .enter (Classical.not_not.mp inside) (by simpa using opens) (Nat.le_of_not_lt fits) found
      noLink (ih walked)
  | case2 | case6 | case7 | case9 | case10 => cases walked

theorem Walks.walk (walks : fs.Walks creating links start components reached) :
    fs.walk creating links start components = .ok reached := by
  induction walks with
  | done => rw [FileSystem.walk]
  | here inside _ ih | slash inside _ ih | up inside _ ih =>
    rw [FileSystem.walk, if_neg (not_not_intro inside)]
    exact ih
  | vacant inside fits missing =>
    rw [FileSystem.walk, if_neg (not_not_intro inside)]
    simp [missing, Nat.not_lt.mpr fits]
  | link inside opens fits found _ ih =>
    rw [FileSystem.walk, if_neg (not_not_intro inside)]
    simp only [Bool.and_eq_true, decide_eq_true_eq, if_neg opens, if_neg (Nat.not_lt.mpr fits),
      found]
    exact ih
  | @enter _ _ _ _ entry _ inside opens fits found noLink _ ih =>
    rw [FileSystem.walk, if_neg (not_not_intro inside)]
    simp only [Bool.and_eq_true, decide_eq_true_eq, if_neg opens, if_neg (Nat.not_lt.mpr fits),
      found]
    cases entry with
    | link target => exact absurd rfl (noLink target)
    | file | directory => exact ih

theorem walk_eq_ok_iff : fs.walk creating links start components = .ok reached ↔
    fs.Walks creating links start components reached :=
  ⟨walks_of_walk, Walks.walk⟩

namespace Walks

theorem get?_vacant (walks : fs.Walks creating links start components (.vacant place)) :
    fs.get? place = none := by
  generalize ended : Reached.vacant place = reached at walks
  induction walks with
  | done => cases ended
  | vacant _ _ missing => cases ended; exact missing
  | here _ _ ih | slash _ _ ih | up _ _ ih | link _ _ _ _ _ ih | enter _ _ _ _ _ _ ih =>
    exact ih ended

/-- Only from a directory does a walk get on. -/
theorem eq_start (walks : fs.Walks creating links start components reached)
    (outside : fs.get? start ≠ some .directory) : reached = .entry start := by
  cases walks with
  | done => rfl
  | here inside | slash inside | up inside | vacant inside | link inside | enter inside =>
    exact absurd inside outside

/-- A walk goes along directories and links, and looks at a file only where it ends. -/
theorem mono (walks : fs.Walks creating links start components (.entry place))
    (kept : ∀ {other : Place} {entry : Entry}, fs.get? other = some entry →
      (∀ bytes mode, entry ≠ .file bytes mode) → after.get? other = some entry)
    (file : fs.FileAt place → after.FileAt place) :
    after.Walks creating links start components (.entry place) := by
  generalize ended : Reached.entry place = reached at walks
  induction walks with
  | done => exact .done
  | here inside _ ih => exact .here (kept inside nofun) (ih ended)
  | slash inside _ ih => exact .slash (kept inside nofun) (ih ended)
  | up inside _ ih => exact .up (kept inside nofun) (ih ended)
  | vacant => cases ended
  | link inside opens fits found _ ih =>
    exact .link (kept inside nofun) opens fits (kept found nofun) (ih ended)
  | @enter _ _ _ _ entry _ inside opens fits found noLink rest ih =>
    cases entry with
    | file bytes mode =>
      cases ended.trans (rest.eq_start (by simp [found]))
      obtain ⟨_, _, now⟩ := file ⟨bytes, mode, found⟩
      exact .enter (kept inside nofun) opens fits now nofun (ih ended)
    | directory => exact .enter (kept inside nofun) opens fits (kept found nofun) nofun (ih ended)
    | link target => exact absurd rfl (noLink target)

/-- A walk to an entry does not notice that files hold other bytes, nor what becomes of a place that
leads nowhere. -/
theorem transfer (walks : fs.Walks creating links start components (.entry place))
    (alike : ∀ other, other ≠ hole →
      after.get? other = fs.get? other ∨ fs.FileAt other ∧ after.FileAt other)
    (closed : fs.get? hole = none ∨ fs.FileAt hole) (elsewhere : place ≠ hole) :
    after.Walks creating links start components (.entry place) := by
  refine walks.mono ?_ ?_
  · intro other entry found noFile
    have notFile : ¬ fs.FileAt other := by
      rintro ⟨bytes, mode, file⟩
      exact noFile bytes mode (Option.some.inj (found.symm.trans file))
    have notHole : other ≠ hole := by
      rintro rfl
      rcases closed with missing | file
      · exact Option.some_ne_none entry (found.symm.trans missing)
      · exact notFile file
    rcases alike other notHole with same | ⟨file, _⟩
    · exact same.trans found
    · exact absurd file notFile
  · rintro ⟨bytes, mode, file⟩
    rcases alike place elsewhere with same | ⟨_, now⟩
    · exact ⟨bytes, mode, same.trans file⟩
    · exact now

/-- All places above one are directories. -/
def Rooted (fs : FileSystem) (place : Place) : Prop :=
  ∀ name above, name :: above <:+ place → fs.get? above = some .directory

theorem rooted (walks : fs.Walks creating links start components (.entry place))
    (begun : Rooted fs start) : Rooted fs place := by
  generalize ended : Reached.entry place = reached at walks
  induction walks with
  | done => cases ended; exact begun
  | here _ _ ih | slash _ _ ih => exact ih begun ended
  | up _ _ ih =>
    exact ih (fun name above suffix => begun name above (suffix.trans (List.tail_suffix _))) ended
  | vacant => cases ended
  | link _ _ _ _ _ ih =>
    refine ih ?_ ended
    split
    · intro name above suffix
      simp at suffix
    · exact begun
  | enter inside _ _ _ _ _ ih =>
    refine ih ?_ ended
    intro name above suffix
    rcases List.suffix_cons_iff.mp suffix with same | within
    · cases same
      exact inside
    · exact begun name above within

end Walks

variable {path name : Text} {directory : Place} {bytes : Bytes}

theorem resolve_eq_ok_iff : fs.resolve path = .ok place ↔
    Path.holdsNul path = false ∧ path ≠ [] ∧ Utf8.size path < maxPath ∧
      fs.Walks false maxLinks [] (Path.components path) (.entry place) := by
  unfold resolve walkPath
  rw [ite_self, ← walk_eq_ok_iff]
  split_ifs with nul empty long
  · simp [nul]
  · simp [empty]
  · simp [Nat.not_lt.mpr long]
  · simp only [nul, empty, Nat.lt_of_not_le long, ne_eq, not_false_eq_true, true_and]
    split <;> simp [*]

/-- What a path leads to lies in a directory. -/
theorem resolve_parent (resolved : fs.resolve path = .ok (name :: directory)) :
    fs.get? directory = some .directory := by
  obtain ⟨_, _, _, walks⟩ := resolve_eq_ok_iff.mp resolved
  have begun : Walks.Rooted fs [] := by
    intro name above suffix
    simp at suffix
  exact walks.rooted begun name directory (List.suffix_refl _)

theorem resolve_transfer (resolved : fs.resolve path = .ok place)
    (alike : ∀ other, other ≠ hole →
      after.get? other = fs.get? other ∨ fs.FileAt other ∧ after.FileAt other)
    (closed : fs.get? hole = none ∨ fs.FileAt hole) (elsewhere : place ≠ hole) :
    after.resolve path = .ok place := by
  obtain ⟨nul, empty, short, walks⟩ := resolve_eq_ok_iff.mp resolved
  exact resolve_eq_ok_iff.mpr ⟨nul, empty, short, walks.transfer alike closed elsewhere⟩

theorem read_eq_ok_iff : fs.read path = .ok bytes ↔
    ∃ place mode, fs.resolve path = .ok place ∧ fs.get? place = some (.file bytes mode) ∧
      mayRead mode = true := by
  constructor
  · intro got
    unfold read at got
    split at got
    · cases got
    · next place resolved =>
      split at got
      · next old mode file =>
        split at got
        · next readable =>
          cases got
          exact ⟨place, mode, resolved, file, readable⟩
        · cases got
      · cases got
  · rintro ⟨place, mode, resolved, file, readable⟩
    simp [read, resolved, file, readable]

end PathHeader.FileSystem
