import PathHeader.Proofs.Footprint
import PathHeader.Proofs.Refusals

/-! What decides the outcome of a file. Each is reached under a condition of its own on what can be
read, looked up and opened, and unless the file is fixed the tree stays as it was. -/
namespace PathHeader

namespace Replacement
open FileSystem

variable {fs emptied : FileSystem} {path name : Text} {directory place : Place} {bytes : Bytes}
  {cause : Cause} {respond : Step → Response}

theorem atPath_of_canonicalize_error (lost : fs.canonicalize path = .error cause) (bytes : Bytes) :
    atPath respond fs path bytes = (some cause, fs) := by
  simp only [atPath, ofPath, lost]

theorem ofPath_of_canonicalize (led : fs.canonicalize path = .ok (name :: directory))
    (bytes : Bytes) :
    ofPath fs path bytes = .ok ⟨directory, name, bytes, fs.mode (name :: directory)⟩ :=
  ofPath_eq_ok_iff.mpr ⟨led, rfl, rfl⟩

/-- A draft that cannot be made is the failure of the whole. -/
theorem atPath_of_create_error (led : fs.canonicalize path = .ok (name :: directory))
    (refused : fs.create directory (draftName name) = .error cause) (bytes : Bytes) :
    ∃ after, atPath (fun _ => .carriedOut) fs path bytes = (some cause, after) ∧
      (fs.leadsToFile directory (draftName name) = false → after = fs) := by
  let r : Replacement := ⟨directory, name, bytes, fs.mode (name :: directory)⟩
  have ran : r.run (fun _ => .carriedOut) fs = (some cause, r.cleanUp fs) :=
    run_of_create_error refused
  refine ⟨r.cleanUp fs, by rw [atPath, ofPath_of_canonicalize led]; exact ran, fun quiet => ?_⟩
  have quiet : fs.leadsToFile r.directory (draftName r.name) = false := quiet
  rw [cleanUp, quiet]
  rfl

/-- Once a draft is made, nothing fails any more. -/
theorem atPath_of_create_ok (led : fs.canonicalize path = .ok (name :: directory))
    (file : fs.FileAt (name :: directory))
    (created : fs.create directory (draftName name) = .ok (place, emptied)) (bytes : Bytes) :
    ∃ s, atPath (fun _ => .carriedOut) fs path bytes = (none, s.fs) ∧
      Stage ⟨directory, name, bytes, fs.mode (name :: directory)⟩ fs [] s := by
  let r : Replacement := ⟨directory, name, bytes, fs.mode (name :: directory)⟩
  obtain ⟨s, ran, stage⟩ := run_of_create_ok (r := r) created file
  exact ⟨s, by rw [atPath, ofPath_of_canonicalize led]; exact ran, stage⟩

/-- No draft can be opened for the file that a path leads to: the path cannot be cleared of links,
or the draft cannot be created. -/
inductive Undraftable (fs : FileSystem) (path : Text) : Cause → Prop where
  | lost {cause : Cause} : fs.canonicalize path = .error cause → Undraftable fs path cause
  | refused {name : Text} {directory : Place} {cause : Cause} :
      fs.canonicalize path = .ok (name :: directory) →
      fs.create directory (draftName name) = .error cause → Undraftable fs path cause

/-- The cause, where the path can be walked. -/
theorem undraftable_iff (resolved : fs.resolve path = .ok (name :: directory)) :
    Undraftable fs path cause ↔ fs.Overlong path ∧ cause = .nameTooLong ∨
      ¬ fs.Overlong path ∧ fs.create directory (draftName name) = .error cause := by
  constructor
  · rintro (lost | ⟨led, refused⟩)
    · exact .inl ((canonicalize_eq_error_iff resolved).mp lost)
    · obtain ⟨resolvedToo, short⟩ := canonicalize_eq_ok_iff.mp led
      cases resolved.symm.trans resolvedToo
      exact .inr ⟨short, refused⟩
  · rintro (lost | ⟨short, refused⟩)
    · exact .lost ((canonicalize_eq_error_iff resolved).mpr lost)
    · exact .refused (canonicalize_eq_ok_iff.mpr ⟨resolved, short⟩) refused

end Replacement

namespace Checker
open FileSystem Replacement

variable {c : Checker} {raw : Text} {fs emptied : FileSystem} {name : Text}
  {directory place : Place} {fixes : List Fix} {repaired : Bytes} {cause : Cause}

section
variable (included : c.excludes raw = false)
  (judged : c.judge raw (fs.read (c.path raw)) = .faulty fixes repaired)
include included judged

theorem process_of_canonicalize_error (lost : fs.canonicalize (c.path raw) = .error cause) :
    c.process fs raw = (.writeError fixes (.io cause), fs) := by
  simp only [process, processWith, included, judged, atPath_of_canonicalize_error lost,
    Bool.false_eq_true, if_false]

variable (led : fs.canonicalize (c.path raw) = .ok (name :: directory))
include led

theorem process_of_create_error
    (refused : fs.create directory (draftName name) = .error cause) :
    ∃ after, c.process fs raw = (.writeError fixes (.io cause), after) ∧
      (fs.leadsToFile directory (draftName name) = false → after = fs) := by
  obtain ⟨after, replaced, kept⟩ := atPath_of_create_error led refused repaired
  refine ⟨after, ?_, kept⟩
  simp only [process, processWith, included, judged, replaced, Bool.false_eq_true, if_false]

theorem process_of_create_ok
    (created : fs.create directory (draftName name) = .ok (place, emptied)) :
    ∃ s, c.process fs raw = (.fixed fixes, s.fs) ∧
      Stage ⟨directory, name, repaired, fs.mode (name :: directory)⟩ fs [] s := by
  obtain ⟨content, lines, got, _⟩ := judge_eq_faulty_iff.mp judged
  obtain ⟨found, mode, resolved, file, _⟩ := read_eq_ok_iff.mp got
  cases resolved.symm.trans (canonicalize_eq_ok_iff.mp led).1
  obtain ⟨s, replaced, stage⟩ := atPath_of_create_ok led ⟨_, mode, file⟩ created repaired
  refine ⟨s, ?_, stage⟩
  simp only [process, processWith, included, judged, replaced, Bool.false_eq_true, if_false]

end

theorem resolve_of_judged (judged : c.judge raw (fs.read (c.path raw)) = .faulty fixes repaired) :
    ∃ name directory, fs.resolve (c.path raw) = .ok (name :: directory) := by
  obtain ⟨content, lines, got, _⟩ := judge_eq_faulty_iff.mp judged
  obtain ⟨place, mode, resolved, file, _⟩ := read_eq_ok_iff.mp got
  cases place with
  | nil => cases file
  | cons name directory => exact ⟨name, directory, resolved⟩

/-- For a file that is to be repaired a draft can be opened, or there is a cause that forbids it. -/
theorem draft_cases (judged : c.judge raw (fs.read (c.path raw)) = .faulty fixes repaired) :
    (∃ cause, Undraftable fs (c.path raw) cause) ∨ ∃ name directory opened,
      fs.canonicalize (c.path raw) = .ok (name :: directory) ∧
        fs.create directory (draftName name) = .ok opened := by
  obtain ⟨name, directory, resolved⟩ := resolve_of_judged judged
  rcases led : fs.canonicalize (c.path raw) with cause | place
  · exact .inl ⟨cause, .lost led⟩
  · cases resolved.symm.trans (canonicalize_eq_ok_iff.mp led).1
    rcases created : fs.create directory (draftName name) with cause | opened
    · exact .inl ⟨cause, .refused led created⟩
    · exact .inr ⟨name, directory, opened, rfl, created⟩

theorem process_of_undraftable (included : c.excludes raw = false)
    (judged : c.judge raw (fs.read (c.path raw)) = .faulty fixes repaired)
    (undraftable : Undraftable fs (c.path raw) cause) :
    ∃ after, c.process fs raw = (.writeError fixes (.io cause), after) := by
  cases undraftable with
  | lost lost => exact ⟨fs, process_of_canonicalize_error included judged lost⟩
  | refused led refused =>
    obtain ⟨after, failed, _⟩ := process_of_create_error included judged led refused
    exact ⟨after, failed⟩

theorem process_fst_eq_writeError_iff {failure : Failure} :
    (c.process fs raw).1 = .writeError fixes failure ↔
      c.excludes raw = false ∧
      (∃ repaired, c.judge raw (fs.read (c.path raw)) = .faulty fixes repaired) ∧
      ∃ cause, Undraftable fs (c.path raw) cause ∧ failure = .io cause := by
  constructor
  · intro failed
    have processed := c.processed_process fs raw
    generalize outcome : c.process fs raw = result at processed failed
    cases processed with
    | skipped | readError | unchanged | fixed => cases failed
    | @writeError _ _ cause _ included judged =>
      cases failed
      refine ⟨included, ⟨_, judged⟩, cause, ?_, rfl⟩
      rcases draft_cases judged with ⟨other, undraftable⟩ | ⟨_, _, ⟨_, _⟩, led, created⟩
      · obtain ⟨_, failed⟩ := process_of_undraftable included judged undraftable
        cases outcome.symm.trans failed
        exact undraftable
      · obtain ⟨_, fixed, _⟩ := process_of_create_ok included judged led created
        cases outcome.symm.trans fixed
  · rintro ⟨included, ⟨repaired, judged⟩, cause, undraftable, rfl⟩
    obtain ⟨_, failed⟩ := process_of_undraftable included judged undraftable
    rw [failed]

theorem process_fst_eq_fixed_iff : (c.process fs raw).1 = .fixed fixes ↔
    c.excludes raw = false ∧
    (∃ repaired, c.judge raw (fs.read (c.path raw)) = .faulty fixes repaired) ∧
    ∃ name directory opened, fs.canonicalize (c.path raw) = .ok (name :: directory) ∧
      fs.create directory (draftName name) = .ok opened := by
  constructor
  · intro fixed
    have processed := c.processed_process fs raw
    generalize outcome : c.process fs raw = result at processed fixed
    cases processed with
    | skipped | readError | unchanged | writeError => cases fixed
    | fixed included judged =>
      cases fixed
      rcases draft_cases judged with ⟨_, undraftable⟩ | draftable
      · obtain ⟨_, failed⟩ := process_of_undraftable included judged undraftable
        cases outcome.symm.trans failed
      · exact ⟨included, ⟨_, judged⟩, draftable⟩
  · rintro ⟨included, ⟨repaired, judged⟩, name, directory, ⟨place, emptied⟩, led, created⟩
    obtain ⟨_, fixed, _⟩ := process_of_create_ok included judged led created
    rw [fixed]

/-- Where the clean-up finds no file, the tree stays as it was. -/
theorem process_snd_of_unfixed
    (quiet : ∀ fixes failure, (c.process fs raw).1 = .writeError fixes failure →
      ∀ name directory cause, fs.canonicalize (c.path raw) = .ok (name :: directory) →
        fs.create directory (draftName name) = .error cause →
        fs.leadsToFile directory (draftName name) = false)
    (unfixed : (c.process fs raw).1.isFixed = false) : (c.process fs raw).2 = fs := by
  have processed := c.processed_process fs raw
  generalize outcome : c.process fs raw = result at processed unfixed
  cases processed with
  | skipped | readError | unchanged => rfl
  | fixed => cases unfixed
  | writeError =>
    have failed := congrArg Prod.fst outcome
    obtain ⟨included, ⟨_, judged⟩, cause, undraftable, _⟩ :=
      process_fst_eq_writeError_iff.mp failed
    cases undraftable with
    | lost lost =>
      cases outcome.symm.trans (process_of_canonicalize_error included judged lost)
      rfl
    | refused led refused =>
      have quiet := quiet _ _ failed _ _ _ led refused
      obtain ⟨after, failedToo, kept⟩ := process_of_create_error included judged led refused
      cases outcome.symm.trans failedToo
      exact kept quiet

theorem process_fst_ne_noFileName :
    (c.process fs raw).1 ≠ .readError (.io .noFileName) ∧
      ∀ fixes, (c.process fs raw).1 ≠ .writeError fixes (.io .noFileName) := by
  constructor
  · intro failed
    obtain ⟨_, judged⟩ := process_fst_eq_readError_iff.mp failed
    have refused : fs.read (c.path raw) = .error .noFileName := by
      cases got : fs.read (c.path raw) with
      | error cause =>
        rw [got] at judged
        cases judged
        rfl
      | ok bytes =>
        rw [got, judge] at judged
        split at judged
        · cases judged
        · next content decoded =>
          have text := (c.judge_encode raw content).trans judged
          exact absurd rfl (judge_eq_unreadable_iff.mp ⟨_, text⟩ content)
    rcases read_refused refused with nul | ⟨_, number⟩
    · cases nul
    · cases number
  · intro fixes failed
    obtain ⟨_, ⟨_, judged⟩, cause, undraftable, same⟩ := process_fst_eq_writeError_iff.mp failed
    obtain ⟨name, directory, resolved⟩ := resolve_of_judged judged
    rcases (undraftable_iff resolved).mp undraftable with ⟨_, rfl⟩ | ⟨_, refused⟩
    · cases same
    · obtain ⟨code, rfl⟩ := create_refused refused
      cases same

/-- The outcome of every file, by what it takes to come to it: the path is excluded; or no text can
be read; or its lines need no repair; or something on the way to the file is looked up by a path
that is too long; or the draft beside the file cannot be opened; or none of these, and the file is
fixed. If it is not fixed, the tree is as before. Only a mode that forbids to open what stands in
the draft's place is left out. -/
theorem outcome_partition
    (permitted : ∀ name directory, fs.resolve (c.path raw) = .ok (name :: directory) →
      fs.create directory (draftName name) ≠ .error .permissionDenied) :
    ((c.process fs raw).1 = .skipped ↔
      (RepoPath.normalize raw).isExcluded c.excludedDirs = true) ∧
    ((RepoPath.normalize raw).isExcluded c.excludedDirs = false →
      ((∃ failure, (c.process fs raw).1 = .readError failure) ↔
        ∀ content, fs.read (c.path raw) ≠ .ok (Utf8.encode content)) ∧
      ∀ content, fs.read (c.path raw) = .ok (Utf8.encode content) →
        ∃ name directory, fs.resolve (c.path raw) = .ok (name :: directory) ∧
        ∃ lines fixes, Header.repair c.marker ((RepoPath.normalize raw).header c.marker)
          (Lines.split content) = (lines, fixes) ∧
        ((c.process fs raw).1 = .unchanged ↔ fixes = []) ∧
        (∀ found failure, (c.process fs raw).1 = .writeError found failure ↔
          fixes ≠ [] ∧ found = fixes ∧ ∃ cause, failure = .io cause ∧
            (fs.Overlong (c.path raw) ∧ cause = .nameTooLong ∨
              ¬ fs.Overlong (c.path raw) ∧ fs.create directory (draftName name) = .error cause)) ∧
        (∀ found, (c.process fs raw).1 = .fixed found ↔
          fixes ≠ [] ∧ found = fixes ∧ ¬ fs.Overlong (c.path raw) ∧
            ∃ opened, fs.create directory (draftName name) = .ok opened)) ∧
    ((c.process fs raw).1.isFixed = false → (c.process fs raw).2 = fs) ∧
    (c.process fs raw).1 ≠ .readError (.io .noFileName) ∧
    ∀ fixes, (c.process fs raw).1 ≠ .writeError fixes (.io .noFileName) := by
  refine ⟨process_fst_eq_skipped_iff, fun included => ⟨?_, ?_⟩, ?_, process_fst_ne_noFileName⟩
  · have unread : (∃ failure, c.judge raw (fs.read (c.path raw)) = .unreadable failure) ↔
        ∀ content, fs.read (c.path raw) ≠ .ok (Utf8.encode content) := judge_eq_unreadable_iff
    simp only [process_fst_eq_readError_iff, excludes, included, true_and, unread]
  · intro content got
    obtain ⟨place, mode, resolved, file, _⟩ := read_eq_ok_iff.mp got
    cases place with
    | nil => cases file
    | cons name directory =>
      have toValid : c.judge raw (fs.read (c.path raw)) = .valid ↔
          (Header.repair c.marker (c.header raw) (Lines.split content)).2 = [] := by
        rw [got, judge_encode, judgeText_eq_valid_iff,
          Header.repair_snd_eq_nil_iff (c.marker_prefix_header raw)]
      have toFaulty : ∀ found, (∃ repaired, c.judge raw (fs.read (c.path raw)) =
          .faulty found repaired) ↔
          found ≠ [] ∧ (Header.repair c.marker (c.header raw) (Lines.split content)).2 = found := by
        intro found
        rw [got, judge_encode, exists_judgeText_eq_faulty_iff]
      refine ⟨name, directory, resolved, _, _, rfl, ?_, fun found failure => ?_, fun found => ?_⟩
      · rw [process_fst_eq_unchanged_iff, toValid]
        exact and_iff_right included
      · rw [process_fst_eq_writeError_iff, toFaulty]
        constructor
        · rintro ⟨_, ⟨some, rfl⟩, cause, undraftable, same⟩
          exact ⟨some, rfl, cause, same, (undraftable_iff resolved).mp undraftable⟩
        · rintro ⟨some, rfl, cause, same, refused⟩
          exact ⟨included, ⟨some, rfl⟩, cause, (undraftable_iff resolved).mpr refused, same⟩
      · rw [process_fst_eq_fixed_iff, toFaulty]
        constructor
        · rintro ⟨_, ⟨some, rfl⟩, _, _, opened, led, created⟩
          obtain ⟨resolvedToo, short⟩ := canonicalize_eq_ok_iff.mp led
          cases resolved.symm.trans resolvedToo
          exact ⟨some, rfl, short, opened, created⟩
        · rintro ⟨some, rfl, short, opened, created⟩
          have led := canonicalize_eq_ok_iff.mpr ⟨resolved, short⟩
          exact ⟨included, ⟨some, rfl⟩, name, directory, opened, led, created⟩
  · refine process_snd_of_unfixed fun _ _ _ name directory _ led refused => ?_
    rw [Bool.eq_false_iff]
    intro leads
    rcases create_of_leadsToFile leads with ⟨opened, created⟩ | forbidden
    · cases created.symm.trans refused
    · exact permitted name directory (canonicalize_eq_ok_iff.mp led).1 forbidden

/-- A directory in the draft's place. -/
def blocked : FileSystem where
  entries := [(["a.js".toList], .file (Utf8.encode "x\n".toList) 0o644),
    ([".a.js.headerfix.tmp".toList], .directory)]

theorem blocked_by_directory :
    let c : Checker := ⟨"/".toList, "//".toList, []⟩
    (∀ name directory, blocked.resolve (c.path "a.js".toList) = .ok (name :: directory) →
      blocked.create directory (draftName name) ≠ .error .permissionDenied) ∧
    c.process blocked "a.js".toList =
      (.writeError [.missingHeader] (.io .isDirectory), blocked) := by
  intro c
  have led : blocked.resolve (c.path "a.js".toList) = .ok ["a.js".toList] := by cbv
  have refused : blocked.create [] (draftName "a.js".toList) = .error .isDirectory := by cbv
  have permitted : ∀ name directory,
      blocked.resolve (c.path "a.js".toList) = .ok (name :: directory) →
      blocked.create directory (draftName name) ≠ .error .permissionDenied := by
    intro name directory resolved forbidden
    cases led.symm.trans resolved
    cases refused.symm.trans forbidden
  have got : blocked.read (c.path "a.js".toList) = .ok (Utf8.encode "x\n".toList) := by cbv
  have lacking : (Header.repair c.marker ((RepoPath.normalize "a.js".toList).header c.marker)
      (Lines.split "x\n".toList)).2 = [.missingHeader] := by cbv
  obtain ⟨_, read, kept, _⟩ := outcome_partition permitted
  obtain ⟨name, directory, resolved, lines, fixes, repaired, _, failed, _⟩ :=
    (read (by cbv)).2 _ got
  cases led.symm.trans resolved
  cases lacking.symm.trans (congrArg Prod.snd repaired)
  have short : ¬ blocked.Overlong (c.path "a.js".toList) := not_overlong (by cbv)
  have outcome := (failed _ _).mpr
    ⟨List.cons_ne_nil _ _, rfl, .isDirectory, rfl, .inr ⟨short, refused⟩⟩
  exact ⟨permitted, Prod.ext outcome (kept (by rw [outcome]; rfl))⟩

/-- Down sixteen links and back up again. -/
def winding : Text :=
  (List.replicate 16 "d/".toList).flatten ++ (List.replicate 16 "../".toList).flatten ++
    "a.js".toList

theorem unfixed_beside_free_draft :
    let c : Checker := ⟨"/".toList, "//".toList, []⟩
    (shaft 16).read (c.path winding) = .ok (Utf8.encode "x\n".toList) ∧
    (shaft 16).resolve (c.path winding) = .ok ["a.js".toList] ∧
    (∃ opened, (shaft 16).create [] (draftName "a.js".toList) = .ok opened) ∧
    c.process (shaft 16) winding = (.writeError [.missingHeader] (.io .nameTooLong), shaft 16) := by
  intro c
  have components : Path.components (c.path winding) =
      List.replicate 16 (.name ['d']) ++ (List.replicate 16 .up ++ [.name "a.js".toList]) := by cbv
  have file : (shaft 16).get? ["a.js".toList] =
      some (.file (Utf8.encode "x\n".toList) 0o644) := get?_shaft_name (by decide) (by decide)
  have free : (shaft 16).get? [draftName "a.js".toList] = none :=
    get?_shaft_name (by decide) (by decide)
  have back : (shaft 16).Walks false 24 (List.replicate (0 + 16) longName)
      (List.replicate 16 .up ++ [.name "a.js".toList]) (.entry ["a.js".toList]) :=
    .climb le_rfl (.enter rfl (by simp) (by decide) file (by simp) .done)
  have walks : (shaft 16).Walks false maxLinks [] (Path.components (c.path winding))
      (.entry ["a.js".toList]) := by
    have within : 0 + 16 ≤ 16 := le_rfl
    rw [components]
    exact .descend within back
  have led : (shaft 16).resolve (c.path winding) = .ok ["a.js".toList] :=
    resolve_eq_ok_iff.mpr ⟨by cbv, List.cons_ne_nil _ _, by cbv, walks⟩
  have got : (shaft 16).read (c.path winding) = .ok (Utf8.encode "x\n".toList) :=
    read_eq_ok_iff.mpr ⟨_, _, led, file, by decide⟩
  have long : (shaft 16).Overlong (c.path winding) := by
    have last : 0 + 15 < 16 := by decide
    refine ⟨pathSize (List.replicate (0 + (15 + 1)) longName), ?_, (pathSize_replicate 16).ge⟩
    rw [components]
    exact LooksUp.shaft last
  have lacking : ∃ repaired, c.judge winding ((shaft 16).read (c.path winding)) =
      .faulty [.missingHeader] repaired := by
    rw [got, judge_encode, exists_judgeText_eq_faulty_iff]
    exact ⟨List.cons_ne_nil _ _, by cbv⟩
  obtain ⟨repaired, judged⟩ := lacking
  refine ⟨got, led, ?_, ?_⟩
  · have reached : (shaft 16).walkName true [] (draftName "a.js".toList) =
        .ok (.vacant [draftName "a.js".toList]) :=
      walkName_eq_ok_iff.mpr ⟨by decide, .vacant rfl (by decide) free⟩
    exact ⟨_, by rw [create, reached]; rfl⟩
  · have lost := (canonicalize_eq_error_iff led).mpr ⟨long, rfl⟩
    exact process_of_canonicalize_error (by cbv) judged lost

end Checker

end PathHeader
