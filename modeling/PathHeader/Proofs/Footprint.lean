import Mathlib
import PathHeader.Proofs.Judging
import PathHeader.Proofs.Stages

/-! What a replacement touches besides its file. The draft has a name that can be foretold and is
opened without a look at what stands there, so the footprint depends on that. -/
namespace PathHeader

namespace Replacement
open FileSystem

variable {r : Replacement} {fs after emptied : FileSystem} {s : State} {step : Step}
  {rest : List Step} {place : Place} {cause : Cause}

/-- Once a draft could be made, the files themselves refuse no step. -/
theorem Stage.progress (stage : r.Stage fs (step :: rest) s)
    (created : fs.create r.directory (draftName r.name) = .ok (place, emptied))
    (file : fs.FileAt r.target) : ∃ next, r.take s step = .ok next := by
  generalize left : step :: rest = todo at stage
  cases stage with
  | start =>
    cases left
    exact ⟨⟨emptied, place⟩, by simp [Replacement.take, created, Except.map]⟩
  | created | written | modeSet => cases left; exact ⟨_, rfl⟩
  | synced drafted =>
    cases left
    obtain ⟨after, moved⟩ := drafted.rename file
    exact ⟨⟨after, s.opened⟩, by simp [Replacement.take, moved, Except.map]⟩
  | renamed => cases left

theorem run_of_create_ok (created : fs.create r.directory (draftName r.name) = .ok (place, emptied))
    (file : fs.FileAt r.target) :
    ∃ s, r.run (fun _ => .carriedOut) fs = (none, s.fs) ∧ r.Stage fs [] s := by
  rcases r.run_cases (fun _ => .carriedOut) fs with ⟨s, _, ran, stage⟩ | ⟨_, _, performed, _⟩
  · exact ⟨s, ran, stage⟩
  · obtain ⟨done, step, rest, middle, split, carriedOut, failed⟩ := perform_failed performed
    have begun : r.Stage fs (done ++ step :: rest) ⟨fs, r.draft⟩ := split ▸ .start
    rcases begun.perform fun _ => .carriedOut with ⟨_, reached, stage⟩ | ⟨_, _, stopped, _⟩
    · cases carriedOut.symm.trans reached
      obtain ⟨next, taken⟩ := stage.progress created file
      simp only [attempt, taken, Prod.mk.injEq, reduceCtorEq, and_false] at failed
    · cases carriedOut.symm.trans stopped

theorem run_of_create_error (failed : fs.create r.directory (draftName r.name) = .error cause) :
    r.run (fun _ => .carriedOut) fs = (some cause, r.cleanUp fs) := by
  simp only [run, steps, perform, attempt, Replacement.take, failed, Except.map]

/-- The draft's name is free, or what stands there can neither be opened nor leads to a file. -/
def Clear (r : Replacement) (fs : FileSystem) : Prop :=
  fs.get? r.draft = none ∨
    (∃ cause, fs.create r.directory (draftName r.name) = .error cause) ∧
      fs.leadsToFile r.directory (draftName r.name) = false

/-- No place is other than before but the file's, and there it is the old file or the new one. -/
structure Contained (r : Replacement) (fs after : FileSystem) : Prop where
  file : after.get? r.target = fs.get? r.target ∨ after.get? r.target = some (.file r.bytes r.mode)
  others : ∀ other, other ≠ r.target → after.get? other = fs.get? other

theorem Contained.refl (r : Replacement) (fs : FileSystem) : r.Contained fs fs :=
  ⟨.inl rfl, fun _ _ => rfl⟩

theorem Clear.not_leadsToFile (clear : r.Clear fs) :
    fs.leadsToFile r.directory (draftName r.name) = false := by
  rcases clear with missing | ⟨_, outside⟩
  · rw [Bool.eq_false_iff]
    intro leads
    exact get?_ne_none_of_leadsToFile leads missing
  · exact outside

theorem Clear.contained (clear : r.Clear fs) (file : fs.FileAt r.target) :
    r.Contained fs (r.run (fun _ => .carriedOut) fs).2 := by
  rcases created : fs.create r.directory (draftName r.name) with cause | ⟨place, emptied⟩
  · rw [run_of_create_error created, cleanUp, clear.not_leadsToFile]
    exact .refl r fs
  · obtain ⟨s, ran, stage⟩ := run_of_create_ok created file
    rcases clear with missing | ⟨⟨cause, failed⟩, _⟩
    · have replaced := stage.replaced (by simp [missing])
      rw [ran]
      refine ⟨.inr replaced.target, fun other notTarget => ?_⟩
      by_cases isDraft : other = r.draft
      · rw [isDraft, replaced.draft, missing]
      · exact replaced.others other notTarget isDraft
    · cases created.symm.trans failed

/-- What stands in a draft's place stays there only if the place is clear. -/
theorem clear_of_get?_draft (file : fs.FileAt r.target)
    (kept : (r.run (fun _ => .carriedOut) fs).2.get? r.draft = fs.get? r.draft) : r.Clear fs := by
  by_cases missing : fs.get? r.draft = none
  · exact .inl missing
  · rcases created : fs.create r.directory (draftName r.name) with cause | ⟨place, emptied⟩
    · refine .inr ⟨⟨cause, created⟩, ?_⟩
      rw [Bool.eq_false_iff]
      intro leads
      rw [run_of_create_error created, get?_cleanUp, if_pos ⟨leads, rfl⟩] at kept
      exact missing kept.symm
    · obtain ⟨s, ran, stage⟩ := run_of_create_ok created file
      rw [ran, stage.get?_draft] at kept
      exact absurd kept.symm missing

theorem contained_iff_clear (file : fs.FileAt r.target) :
    r.Contained fs (r.run (fun _ => .carriedOut) fs).2 ↔ r.Clear fs :=
  ⟨fun contained => clear_of_get?_draft file (contained.others _ r.draft_ne_target),
    fun clear => clear.contained file⟩

end Replacement

namespace Checker
open FileSystem Replacement

variable {c : Checker} {raw : Text} {fs after : FileSystem} {r : Replacement}

/-- The replacement that processing a file sets out on. -/
def SetsOut (c : Checker) (fs : FileSystem) (raw : Text) (r : Replacement) : Prop :=
  c.excludes raw = false ∧ ofPath fs (c.path raw) r.bytes = .ok r ∧
    ∃ fixes, c.judge raw (fs.read (c.path raw)) = .faulty fixes r.bytes

/-- No place is other than before but the one that the path leads to, and a file there holds its old
bytes or the repaired ones. -/
structure Contained (c : Checker) (fs : FileSystem) (raw : Text) (after : FileSystem) : Prop where
  file : ∀ place, fs.resolve (c.path raw) = .ok place → after.get? place = fs.get? place ∨
    ∃ fixes repaired, c.judge raw (fs.read (c.path raw)) = .faulty fixes repaired ∧
      after.get? place = some (.file repaired (fs.mode place))
  others : ∀ other, fs.resolve (c.path raw) ≠ .ok other → after.get? other = fs.get? other

theorem Contained.refl (c : Checker) (fs : FileSystem) (raw : Text) : c.Contained fs raw fs :=
  ⟨fun _ _ => .inl rfl, fun _ _ => rfl⟩

theorem SetsOut.process (setsOut : c.SetsOut fs raw r) :
    (c.process fs raw).2 = (r.run (fun _ => .carriedOut) fs).2 := by
  obtain ⟨included, begun, fixes, judged⟩ := setsOut
  have replaced : atPath (fun _ => .carriedOut) fs (c.path raw) r.bytes =
      r.run (fun _ => .carriedOut) fs := by rw [atPath, begun]
  simp only [Checker.process, processWith, included, judged, replaced, Bool.false_eq_true, if_false]
  split <;> simp [*]

theorem process_of_not_setsOut (idle : ∀ r, ¬ c.SetsOut fs raw r) : (c.process fs raw).2 = fs := by
  have processed := c.processed (fun _ => .carriedOut) fs raw
  have refused : ∀ {fixes repaired result after}, c.excludes raw = false →
      c.judge raw (fs.read (c.path raw)) = .faulty fixes repaired →
      atPath (fun _ => .carriedOut) fs (c.path raw) repaired = (result, after) → after = fs := by
    intro fixes repaired result after included judged replaced
    unfold atPath at replaced
    split at replaced
    · cases replaced
      rfl
    · next r begun =>
      obtain ⟨_, rfl, _⟩ := ofPath_eq_ok_iff.mp begun
      exact absurd ⟨included, begun, fixes, judged⟩ (idle r)
  rw [process]
  generalize c.processWith (fun _ => .carriedOut) fs raw = result at processed
  cases processed with
  | skipped | readError | unchanged => rfl
  | fixed included judged replaced | writeError included judged replaced =>
    exact refused included judged replaced

theorem SetsOut.file (setsOut : c.SetsOut fs raw r) : fs.FileAt r.target := by
  obtain ⟨_, begun, fixes, judged⟩ := setsOut
  obtain ⟨content, lines, got, _⟩ := judge_eq_faulty_iff.mp judged
  have resolved := resolve_of_ofPath begun
  obtain ⟨place, mode, led, file, _⟩ := read_eq_ok_iff.mp got
  cases led.symm.trans resolved
  exact ⟨_, mode, file⟩

theorem SetsOut.contained_iff (setsOut : c.SetsOut fs raw r) :
    c.Contained fs raw after ↔ r.Contained fs after := by
  obtain ⟨_, begun, fixes, judged⟩ := setsOut
  have resolved := resolve_of_ofPath begun
  obtain ⟨_, _, sameMode⟩ := ofPath_eq_ok_iff.mp begun
  constructor
  · rintro ⟨file, others⟩
    refine ⟨?_, fun other notTarget => others other ?_⟩
    · rcases file _ resolved with same | ⟨_, repaired, judgedToo, new⟩
      · exact .inl same
      · cases judged.symm.trans judgedToo
        exact .inr (sameMode ▸ new)
    · intro led
      cases resolved.symm.trans led
      exact notTarget rfl
  · rintro ⟨file, others⟩
    refine ⟨?_, fun other notLed => others other ?_⟩
    · intro place led
      cases resolved.symm.trans led
      exact file.imp_right fun new => ⟨fixes, r.bytes, judged, sameMode ▸ new⟩
    · rintro rfl
      exact notLed resolved

/-- Processing touches no file but the one that the path leads to, exactly if the place of its draft
is clear. A file that stands there is lost, and through a link another file is overwritten. -/
theorem contained_process_iff :
    c.Contained fs raw (c.process fs raw).2 ↔ ∀ r, c.SetsOut fs raw r → r.Clear fs := by
  constructor
  · intro contained r setsOut
    rw [setsOut.contained_iff, setsOut.process] at contained
    exact (contained_iff_clear setsOut.file).mp contained
  · intro clear
    by_cases idle : ∀ r, ¬ c.SetsOut fs raw r
    · rw [process_of_not_setsOut idle]
      exact .refl c fs raw
    · obtain ⟨r, setsOut⟩ := not_forall_not.mp idle
      rw [setsOut.contained_iff, setsOut.process]
      exact (clear r setsOut).contained setsOut.file

/-- A link in the draft's place that leads back to the file. -/
def selfLinked : FileSystem where
  entries := [(["a.js".toList], .file (Utf8.encode "x = 1\n".toList) 0o644),
    ([".a.js.headerfix.tmp".toList], .link "a.js".toList)]

/-- The file is reported as fixed, and all that is left of it is a link to itself. -/
theorem fixed_and_lost :
    ∃ c after, process c selfLinked "a.js".toList = (.fixed [.missingHeader], after) ∧
      after.get? ["a.js".toList] = some (.link "a.js".toList) ∧
      ¬ c.Contained selfLinked "a.js".toList after := by
  let c : Checker := ⟨"/".toList, "//".toList, []⟩
  have led : selfLinked.resolve (c.path "a.js".toList) = .ok ["a.js".toList] := by cbv
  have old : selfLinked.get? ["a.js".toList] =
      some (.file (Utf8.encode "x = 1\n".toList) 0o644) := by cbv
  have lost : (c.process selfLinked "a.js".toList).2.get? ["a.js".toList] =
      some (.link "a.js".toList) := by cbv
  refine ⟨c, (c.process selfLinked "a.js".toList).2, by cbv, lost, fun contained => ?_⟩
  rcases contained.file _ led with same | ⟨_, _, _, new⟩
  · cases lost.symm.trans (same.trans old)
  · cases lost.symm.trans new

end Checker

end PathHeader
