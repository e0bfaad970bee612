import PathHeader.Proofs.Footprint
import PathHeader.Proofs.Room
import PathHeader.Proofs.Routes

/-! Directories that are excluded. A path is judged by its text and followed through links, so that
nothing in such a directory changes unless a link leads there. -/
namespace PathHeader

/-- A directory below the base that has one of the names, or lies in one that has. -/
def OffLimits (names : List Text) (base directory : Place) : Prop :=
  ∃ below, directory = below ++ base ∧ ∃ name ∈ below, name ∈ names

namespace FileSystem

/-- Directories and links are as before and no file is new, but files may hold other bytes or be
gone. -/
def Thinned (fs after : FileSystem) : Prop :=
  ∀ place, after.get? place = fs.get? place ∨
    fs.FileAt place ∧ (after.get? place = none ∨ after.FileAt place)

variable {fs after last : FileSystem} {creating : Bool} {links : Nat} {start base place : Place}
  {directory : Place} {file : Text} {components : List Component} {root raw path : Text}
  {names : List Text}

namespace Thinned

theorem refl (fs : FileSystem) : fs.Thinned fs := fun _ => .inl rfl

theorem fileAt (thinned : fs.Thinned after) (file : after.FileAt place) : fs.FileAt place := by
  rcases thinned place with same | ⟨before, _⟩
  · obtain ⟨bytes, mode, file⟩ := file
    exact ⟨bytes, mode, same.symm.trans file⟩
  · exact before

theorem trans (thinned : fs.Thinned after) (more : after.Thinned last) : fs.Thinned last := by
  intro place
  rcases more place with same | ⟨file, left⟩
  · rw [same]
    rcases thinned place with same | ⟨before, now⟩
    · exact .inl same
    · exact .inr ⟨before, now.imp_right fun ⟨bytes, mode, file⟩ => ⟨bytes, mode, same.trans file⟩⟩
  · exact .inr ⟨thinned.fileAt file, left⟩

theorem get?_other (thinned : fs.Thinned after) {entry : Entry}
    (found : after.get? place = some entry) (noFile : ∀ bytes mode, entry ≠ .file bytes mode) :
    fs.get? place = some entry := by
  rcases thinned place with same | ⟨_, missing | ⟨bytes, mode, file⟩⟩
  · exact same.symm.trans found
  · cases missing.symm.trans found
  · cases found.symm.trans file
    exact absurd rfl (noFile bytes mode)

/-- What can be walked to could be walked to before. -/
theorem walks (thinned : fs.Thinned after)
    (walks : after.Walks creating links start components (.entry place)) :
    fs.Walks creating links start components (.entry place) :=
  walks.mono thinned.get?_other thinned.fileAt

theorem resolve (thinned : fs.Thinned after) (resolved : after.resolve path = .ok place) :
    fs.resolve path = .ok place := by
  obtain ⟨nul, given, short, walks⟩ := resolve_eq_ok_iff.mp resolved
  exact resolve_eq_ok_iff.mpr ⟨nul, given, short, thinned.walks walks⟩

end Thinned

/-- The text of a path tells whether it is off limits, as long as no link is met on the way. -/
theorem isExcluded_of_walks (plain : ∀ name ∈ names, '\\' ∉ name)
    (offLimits : OffLimits names base directory)
    (walks : fs.Walks creating 0 base (Path.components raw) (.entry (file :: directory))) :
    (RepoPath.normalize raw).isExcluded names = true := by
  obtain ⟨below, rfl, name, inside, listed⟩ := offLimits
  obtain ⟨entered, above, same, ⟨front, rfl⟩, named⟩ := walks.entered
  have whole : entered = file :: below ++ front :=
    List.append_cancel_right (by simpa using same.symm)
  have component : .name name ∈ Path.components raw :=
    named name (by simp [whole, inside])
  obtain ⟨piece, stays⟩ := Path.mem_splitOn_of_name component
  have segment := RepoPath.mem_segments_normalize piece (plain name listed) stays
  exact List.any_eq_true.mpr ⟨name, segment, List.contains_iff_mem.mpr listed⟩

/-- So a path that is let through gets there by a link only. -/
theorem stops_of_offLimits (plain : ∀ name ∈ names, '\\' ∉ name)
    (rooted : fs.resolve root = .ok base) (relative : Path.isAbsolute raw = false)
    (included : (RepoPath.normalize raw).isExcluded names = false)
    (resolved : fs.resolve (Path.join root raw) = .ok (file :: directory))
    (offLimits : OffLimits names base directory) :
    fs.walk false 0 base (Path.components raw) = .error .tooManyLinks := by
  obtain ⟨_, walks⟩ := walks_of_resolve rooted relative resolved
  rcases walks.linkless with arrived | stopped
  · have excluded := isExcluded_of_walks plain offLimits (walk_eq_ok_iff.mp arrived)
    cases included.symm.trans excluded
  · exact stopped

end FileSystem

namespace Replacement
open FileSystem

variable {r : Replacement} {fs : FileSystem}

/-- A replacement touches the file and its draft. -/
theorem touched_run (file : fs.FileAt r.target)
    (plain : ∀ target, fs.get? r.draft ≠ some (.link target)) (other : Place) :
    let after := (r.run (fun _ => .carriedOut) fs).2
    after.get? other = fs.get? other ∨ (other = r.target ∨ other = r.draft) ∧
      fs.FileAt other ∧ (after.get? other = none ∨ after.FileAt other) := by
  intro after
  rcases created : fs.create r.directory (draftName r.name) with cause | ⟨place, emptied⟩
  · have after_eq : after = r.cleanUp fs := congrArg Prod.snd (run_of_create_error created)
    rw [after_eq, get?_cleanUp]
    split_ifs with gone
    · obtain ⟨leads, rfl⟩ := gone
      obtain ⟨place, walked, led⟩ := leadsToFile_eq_true_iff.mp leads
      rcases walkName_place walked plain with ⟨_, vacant⟩ | ⟨_, own⟩
      · cases vacant
      · cases own
        exact .inr ⟨.inr rfl, led, .inl rfl⟩
    · exact .inl rfl
  · obtain ⟨s, ran, stage⟩ := run_of_create_ok created file
    have after_eq : after = s.fs := congrArg Prod.snd ran
    have replaced := stage.replaced plain
    rw [after_eq]
    by_cases isTarget : other = r.target
    · subst isTarget
      exact .inr ⟨.inl rfl, file, .inr ⟨_, _, replaced.target⟩⟩
    by_cases isDraft : other = r.draft
    · subst isDraft
      have own : place = r.draft :=
        (create_place created).resolve_right fun ⟨_, linked⟩ => plain _ linked
      rcases (create_emptied created).before with missing | before
      · exact .inl (replaced.draft.trans (own ▸ missing).symm)
      · exact .inr ⟨.inr rfl, own ▸ before, .inl replaced.draft⟩
    · exact .inl (replaced.others other isTarget isDraft)

end Replacement

namespace Checker
open FileSystem Replacement

variable {c : Checker} {fs now : FileSystem} {raw file : Text} {raws : List Text}
  {directory : Place}

/-- No link stands where the draft would go. -/
def Unlinked (c : Checker) (fs : FileSystem) (raw : Text) : Prop :=
  ∀ r, c.SetsOut fs raw r → ∀ target, fs.get? r.draft ≠ some (.link target)

theorem thinned_process (unlinked : c.Unlinked fs raw) : fs.Thinned (c.process fs raw).2 := by
  by_cases idle : ∀ r, ¬ c.SetsOut fs raw r
  · rw [process_of_not_setsOut idle]
    exact .refl fs
  · obtain ⟨r, setsOut⟩ := not_forall_not.mp idle
    rw [setsOut.process]
    intro place
    exact (touched_run setsOut.file (unlinked r setsOut) place).imp_right And.right

theorem setsOut_of_changed (unlinked : c.Unlinked fs raw)
    (changed : (c.process fs raw).2.get? (file :: directory) ≠ fs.get? (file :: directory)) :
    ∃ r, c.SetsOut fs raw r ∧ r.directory = directory := by
  by_cases idle : ∀ r, ¬ c.SetsOut fs raw r
  · rw [process_of_not_setsOut idle] at changed
    exact absurd rfl changed
  · obtain ⟨r, setsOut⟩ := not_forall_not.mp idle
    rw [setsOut.process] at changed
    rcases touched_run setsOut.file (unlinked r setsOut) (file :: directory) with
      same | ⟨own | own, _⟩
    · exact absurd same changed
    · exact ⟨r, setsOut, (List.tail_eq_of_cons_eq own).symm⟩
    · exact ⟨r, setsOut, (List.tail_eq_of_cons_eq own).symm⟩

/-- Files are changed in those directories only that paths lead into, until a link stands where a
draft would go. By induction on the files: the tree they find is a thinned one. -/
theorem leads_of_changed (thinned : fs.Thinned now)
    (changed : (c.processAll now raws).2.get? (file :: directory) ≠ now.get? (file :: directory)) :
    ∃ raw ∈ raws, c.excludes raw = false ∧ ∃ name above,
      fs.resolve (c.path raw) = .ok (name :: above) ∧
      (above = directory ∨ ∃ target, fs.get? (draftName name :: above) = some (.link target)) := by
  induction raws generalizing now with
  | nil => exact absurd rfl changed
  | cons raw rest ih =>
    have led : ∀ {r}, c.SetsOut now raw r → c.excludes raw = false ∧
        fs.resolve (c.path raw) = .ok (r.name :: r.directory) := by
      rintro r ⟨included, begun, _⟩
      exact ⟨included, thinned.resolve (resolve_of_ofPath begun)⟩
    by_cases unlinked : c.Unlinked now raw
    · by_cases stepped :
          (c.process now raw).2.get? (file :: directory) = now.get? (file :: directory)
      · obtain ⟨later, listed, leads⟩ :=
          ih (thinned.trans (thinned_process unlinked)) (stepped ▸ changed)
        exact ⟨later, List.mem_cons_of_mem _ listed, leads⟩
      · obtain ⟨r, setsOut, same⟩ := setsOut_of_changed unlinked stepped
        obtain ⟨included, resolved⟩ := led setsOut
        exact ⟨raw, List.mem_cons_self, included, r.name, r.directory, resolved, .inl same⟩
    · simp only [Unlinked, not_forall, not_not] at unlinked
      obtain ⟨r, setsOut, target, linked⟩ := unlinked
      obtain ⟨included, resolved⟩ := led setsOut
      exact ⟨raw, List.mem_cons_self, included, r.name, r.directory, resolved,
        .inr ⟨target, thinned.get?_other linked nofun⟩⟩

end Checker

namespace Run
open FileSystem Checker Replacement

variable {config : Config} {fs : FileSystem} {root file : Text} {raws : List Text} {w : Writer}
  {base directory : Place}

/-- A run changes something in an excluded directory only by a link: one that a path follows, though
its text is not excluded, or one that stands where a draft would go. -/
theorem exists_link_of_changed (valid : config.Valid) (rooted : fs.resolve root = .ok base)
    (relative : ∀ raw ∈ raws, Path.isAbsolute raw = false)
    (offLimits : OffLimits config.excludedDirs base directory)
    (changed : (ofFiles (.ofConfig root config) raws fs w).fs.get? (file :: directory) ≠
      fs.get? (file :: directory)) :
    ∃ raw ∈ raws, (RepoPath.normalize raw).isExcluded config.excludedDirs = false ∧
      ∃ name above, fs.resolve (Path.join root raw) = .ok (name :: above) ∧
        (above = directory ∧ fs.walk false 0 base (Path.components raw) = .error .tooManyLinks ∨
          ∃ target, fs.get? (draftName name :: above) = some (.link target)) := by
  obtain ⟨count, tree⟩ := exists_take_ofFiles (.ofConfig root config) raws fs w
  rw [tree] at changed
  obtain ⟨raw, listed, included, name, above, resolved, leads⟩ :=
    leads_of_changed (.refl fs) changed
  have listed := List.mem_of_mem_take listed
  refine ⟨raw, listed, included, name, above, resolved, leads.imp_left fun same => ⟨same, ?_⟩⟩
  have plain : ∀ name ∈ config.excludedDirs, '\\' ∉ name :=
    fun name listed => (valid.excludedDirs name listed).2.2
  exact stops_of_offLimits plain rooted (relative raw listed) included resolved (same ▸ offLimits)

/-- A link to a file in an excluded directory. -/
def vendored : FileSystem where
  entries := [(["node_modules".toList], .directory),
    (["a.js".toList, "node_modules".toList], .file (Utf8.encode "x\n".toList) 0o644),
    (["l.js".toList], .link "node_modules/a.js".toList)]

theorem vendored_offLimits :
    OffLimits Config.default.excludedDirs [] ["node_modules".toList] :=
  ⟨["node_modules".toList], rfl, _, List.mem_cons_self, List.mem_cons_self⟩

theorem get?_vendored :
    vendored.get? ["a.js".toList, "node_modules".toList] =
      some (.file (Utf8.encode "x\n".toList) 0o644) ∧
    (ofFiles (.ofConfig "/".toList .default) ["l.js".toList] vendored .plain).fs.get?
      ["a.js".toList, "node_modules".toList] =
      some (.file (Utf8.encode "// l.js\n\nx\n".toList) 0o644) := by
  have tree := ofFiles_fs (.ofConfig "/".toList .default) ["l.js".toList] vendored false []
  rw [Writer.plain, tree]
  constructor <;> cbv

/-- The path stops at its link when it may follow none. -/
theorem vendored_by_link :
    Config.default.Valid ∧ vendored.resolve "/".toList = .ok [] ∧
    (∀ raw ∈ ["l.js".toList], Path.isAbsolute raw = false) ∧
    OffLimits Config.default.excludedDirs [] ["node_modules".toList] ∧
    (ofFiles (.ofConfig "/".toList .default) ["l.js".toList] vendored .plain).fs.get?
      ["a.js".toList, "node_modules".toList] ≠
        vendored.get? ["a.js".toList, "node_modules".toList] ∧
    vendored.walk false 0 [] (Path.components "l.js".toList) = .error .tooManyLinks := by
  have valid : Config.default.Valid := (Config.problem?_eq_none_iff _).mp (by cbv)
  have rooted : vendored.resolve "/".toList = .ok [] := by cbv
  have relative : ∀ raw ∈ ["l.js".toList], Path.isAbsolute raw = false :=
    List.forall_mem_singleton.mpr rfl
  obtain ⟨before, after⟩ := get?_vendored
  have changed : (ofFiles (.ofConfig "/".toList .default) ["l.js".toList] vendored .plain).fs.get?
      ["a.js".toList, "node_modules".toList] ≠
        vendored.get? ["a.js".toList, "node_modules".toList] := by
    rw [before, after]
    decide
  refine ⟨valid, rooted, relative, vendored_offLimits, changed, ?_⟩
  obtain ⟨raw, listed, _, name, above, resolved, leads⟩ :=
    exists_link_of_changed valid rooted relative vendored_offLimits changed
  cases List.mem_singleton.mp listed
  rcases leads with ⟨_, stopped⟩ | ⟨target, linked⟩
  · exact stopped
  · have led : vendored.resolve (Path.join "/".toList "l.js".toList) =
        .ok ["a.js".toList, "node_modules".toList] := by cbv
    cases led.symm.trans resolved
    have free : vendored.get? [draftName "a.js".toList, "node_modules".toList] = none := by cbv
    cases free.symm.trans linked

/-- The settings are the default ones, and the file in the excluded directory is rewritten. -/
theorem rewritten_off_limits :
    ∃ directory, OffLimits Config.default.excludedDirs [] directory ∧ Config.default.Valid ∧
      vendored.get? ("a.js".toList :: directory) = some (.file (Utf8.encode "x\n".toList) 0o644) ∧
      (ofFiles (.ofConfig "/".toList .default) ["l.js".toList] vendored .plain).fs.get?
        ("a.js".toList :: directory) = some (.file (Utf8.encode "// l.js\n\nx\n".toList) 0o644) :=
  ⟨["node_modules".toList], vendored_offLimits, (Config.problem?_eq_none_iff _).mp (by cbv),
    get?_vendored⟩

end Run

end PathHeader
