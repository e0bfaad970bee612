import Mathlib
import PathHeader.Checker
import PathHeader.Proofs.Stages

/-! Replacing a file is all or nothing. Wherever the steps stop, because one of them fails or the
program does, the file holds its old bytes or all of the new ones. -/
namespace PathHeader.Replacement
open FileSystem

variable {r : Replacement} {fs : FileSystem} {s : State} {step : Step} {rest : List Step}
  {respond : Step → Response} {cause : Cause} {path : Text} {bytes : Bytes}

/-- The tree is left like this when the steps are stopped: after some of them, the last of which may
have failed with a part of the bytes written. -/
def Interrupted (r : Replacement) (respond : Step → Response) (fs now : FileSystem) : Prop :=
  ∃ done rest, steps = done ++ rest ∧ (r.perform respond done ⟨fs, r.draft⟩).1.fs = now

/-- The step fails, and all before it were carried out. -/
def FailsAt (r : Replacement) (respond : Step → Response) (fs : FileSystem) (step : Step)
    (cause : Cause) : Prop :=
  ∃ done rest s, steps = done ++ step :: rest ∧
    r.perform respond done ⟨fs, r.draft⟩ = (s, none) ∧
    (r.attempt s step (respond step)).2 = some cause

/-- The file is as before or replaced as a whole, and only a draft may lie beside it. -/
structure Whole (r : Replacement) (fs now : FileSystem) : Prop where
  file : now.get? r.target = fs.get? r.target ∨
    now.get? r.target = some (.file r.bytes r.mode)
  others : ∀ other, other ≠ r.target → other ≠ r.draft → now.get? other = fs.get? other

/-- Nothing but the draft's place is other than before. No file is left there, unless it is an old
one with a path that the system refuses, so that it can be neither opened nor removed. -/
structure Undone (r : Replacement) (fs after : FileSystem) : Prop where
  file : after.get? r.target = fs.get? r.target
  others : ∀ other, other ≠ r.target → other ≠ r.draft → after.get? other = fs.get? other
  draft : after.FileAt r.draft →
    fs.FileAt r.draft ∧ ¬ Nameable r.directory (draftName r.name)

theorem FailsAt.performed (fails : r.FailsAt respond fs step cause) :
    ∃ s, r.perform respond steps ⟨fs, r.draft⟩ = (s, some cause) := by
  obtain ⟨done, rest, s, split, carriedOut, failed⟩ := fails
  rcases attempted : r.attempt s step (respond step) with ⟨after, result⟩
  rw [attempted] at failed
  cases failed
  refine ⟨after, ?_⟩
  rw [split, perform_append carriedOut, perform, attempted]

section
variable (plain : ∀ target, fs.get? r.draft ≠ some (.link target))
include plain

theorem Unmoved.whole (unmoved : r.Unmoved fs s) : r.Whole fs s.fs where
  file := .inl (unmoved.others plain r.draft_ne_target.symm)
  others _ _ notDraft := unmoved.others plain notDraft

theorem Stage.whole (stage : r.Stage fs rest s) : r.Whole fs s.fs := by
  cases rest with
  | nil =>
    have replaced := stage.replaced plain
    exact ⟨.inr replaced.target, replaced.others⟩
  | cons step rest => exact stage.unmoved.whole plain

/-- The invariant: wherever the steps stop, the file is whole. -/
theorem Interrupted.whole {now : FileSystem} (stopped : r.Interrupted respond fs now) :
    r.Whole fs now := by
  obtain ⟨done, rest, split, rfl⟩ := stopped
  have begun : r.Stage fs (done ++ rest) ⟨fs, r.draft⟩ := split ▸ .start
  rcases begun.perform respond with ⟨s, performed, stage⟩ | ⟨s, _, performed, unmoved⟩
  · rw [performed]
    exact stage.whole plain
  · rw [performed]
    exact unmoved.whole plain

theorem Unmoved.undone (inside : fs.get? r.directory = some .directory)
    (unmoved : r.Unmoved fs s) : r.Undone fs (r.cleanUp s.fs) := by
  have kept : ∀ other, other ≠ r.draft → (r.cleanUp s.fs).get? other = fs.get? other := by
    intro other notDraft
    rw [get?_cleanUp, if_neg fun removed => notDraft removed.2]
    exact unmoved.others plain notDraft
  refine ⟨kept _ r.draft_ne_target.symm, fun other _ => kept other, ?_⟩
  rintro ⟨bytes, mode, left⟩
  rw [get?_cleanUp] at left
  split_ifs at left with removed
  have refused : ¬ Nameable r.directory (draftName r.name) := by
    intro nameable
    have within : r.directory ≠ r.draft := (List.cons_ne_self _ _).symm
    have inside : s.fs.get? r.directory = some .directory :=
      (unmoved.others plain within).trans inside
    -- the clean-up would have seen the file
    have still : s.fs.FileAt r.draft := ⟨bytes, mode, left⟩
    have leads := leadsToFile_eq_true_iff.mpr ⟨_, walkName_entry inside nameable still, still⟩
    exact removed ⟨leads, rfl⟩
  refine ⟨?_, refused⟩
  rcases unmoved with same | ⟨_, _, drafted⟩
  · rw [← same]
    exact ⟨bytes, mode, left⟩
  · obtain ⟨_, created⟩ := drafted.created
    exact absurd (create_nameable created) refused

/-- Wherever the replacement is stopped, the file holds its old bytes or all of the new ones and no
other file has changed. A step that fails is reported, with the file as it was and no draft left
behind; if none fails, the file is replaced. -/
theorem all_or_nothing (begun : ofPath fs path bytes = .ok r) :
    (∀ now, r.Interrupted respond fs now →
      (now.get? r.target = fs.get? r.target ∨
        now.get? r.target = some (.file bytes (fs.mode r.target))) ∧
      ∀ other, other ≠ r.target → other ≠ r.draft → now.get? other = fs.get? other) ∧
    (∀ step cause, r.FailsAt respond fs step cause →
      ∃ after, atPath respond fs path bytes = (some cause, after) ∧ r.Undone fs after ∧
        ∀ c raw fixes, Checker.path c raw = path → c.excludes raw = false →
          c.judge raw (fs.read path) = .faulty fixes bytes →
          c.processWith respond fs raw = (.writeError fixes (.io cause), after)) ∧
    ((∀ step cause, ¬ r.FailsAt respond fs step cause) →
      ∃ after, atPath respond fs path bytes = (none, after) ∧ r.Replaced fs after) := by
  obtain ⟨_, rfl, sameMode⟩ := ofPath_eq_ok_iff.mp begun
  have inside := resolve_parent (resolve_of_ofPath begun)
  have atPath_eq : atPath respond fs path r.bytes = r.run respond fs := by rw [atPath, begun]
  refine ⟨?_, ?_, ?_⟩
  · intro now stopped
    have whole := stopped.whole plain
    rw [← sameMode]
    exact ⟨whole.file, whole.others⟩
  · intro step cause fails
    obtain ⟨s, failed⟩ := fails.performed
    rcases r.run_cases respond fs with ⟨_, performed, _⟩ | ⟨_, _, performed, ran, unmoved⟩
    · cases failed.symm.trans performed
    · cases failed.symm.trans performed
      have replaced := atPath_eq.trans ran
      refine ⟨_, replaced, unmoved.undone plain inside, ?_⟩
      rintro c raw fixes rfl included judged
      simp only [Checker.processWith, included, judged, replaced, Bool.false_eq_true, if_false]
  · intro noneFails
    rcases r.run_cases respond fs with ⟨s, _, ran, stage⟩ | ⟨_, cause, performed, _⟩
    · exact ⟨s.fs, atPath_eq.trans ran, stage.replaced plain⟩
    · obtain ⟨done, step, rest, middle, split, carriedOut, failed⟩ := perform_failed performed
      exact absurd ⟨done, rest, middle, split, carriedOut, by rw [failed]⟩ (noneFails step cause)

end

/-- A file without a header, and beside it the draft of an earlier run that was cut off. -/
def leftOver : FileSystem where
  entries := [(["a.js".toList], .file (Utf8.encode "x\n".toList) 0o600),
    ([".a.js.headerfix.tmp".toList], .file [47, 47] 0o644)]

def heading : Replacement :=
  ⟨[], "a.js".toList, Utf8.encode "// a.js\n\nx\n".toList, 0o600⟩

/-- Three bytes are written, then the disk is full. -/
def fullDisk : Step → Response
  | .write => .refused (.os 28) 3
  | _ => .carriedOut

theorem full_disk_undone :
    ofPath leftOver "/a.js".toList heading.bytes = .ok heading ∧
      (∀ target, leftOver.get? heading.draft ≠ some (.link target)) ∧
      heading.FailsAt fullDisk leftOver .write (.os 28) ∧
      ∃ after, heading.Undone leftOver after ∧
        Checker.processWith ⟨"/".toList, "//".toList, []⟩ fullDisk leftOver "a.js".toList =
          (.writeError [.missingHeader] (.io (.os 28)), after) := by
  have begun : ofPath leftOver "/a.js".toList heading.bytes = .ok heading := by cbv
  have stale : leftOver.get? heading.draft = some (.file [47, 47] 0o644) := by cbv
  have plain : ∀ target, leftOver.get? heading.draft ≠ some (.link target) := by
    simp only [stale, ne_eq, Option.some.injEq, reduceCtorEq, not_false_eq_true, implies_true]
  have fails : heading.FailsAt fullDisk leftOver .write (.os 28) := by
    refine ⟨[.create], [.setMode, .sync, .rename],
      (heading.perform fullDisk [.create] ⟨leftOver, heading.draft⟩).1, rfl, ?_, ?_⟩ <;> cbv
  obtain ⟨after, _, undone, processed⟩ := (all_or_nothing plain begun).2.1 .write (.os 28) fails
  refine ⟨begun, plain, fails, after, undone, ?_⟩
  exact processed _ _ [.missingHeader] (by cbv) (by cbv) (by cbv)

end PathHeader.Replacement
