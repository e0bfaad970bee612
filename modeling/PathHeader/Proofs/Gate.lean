import PathHeader.Proofs.Judging
import PathHeader.Proofs.Runs

/-! A run as a gate. It passes exactly if every file was fine before it, although the files are
processed one after another and any of them may be repaired on the way: up to the first that is not
fine, nothing has been touched. -/
namespace PathHeader

namespace Checker

variable {c : Checker} {fs : FileSystem} {raw : Text} {raws : List Text}

/-- The file is not looked at, or has a valid header. -/
def Passes (c : Checker) (fs : FileSystem) (raw : Text) : Prop :=
  c.excludes raw = true ∨ c.judge raw (fs.read (c.path raw)) = .valid

theorem Passes.process (passes : c.Passes fs raw) :
    c.process fs raw = (.skipped, fs) ∨ c.process fs raw = (.unchanged, fs) := by
  have processed := c.processed (fun _ => .carriedOut) fs raw
  unfold Checker.process
  generalize c.processWith (fun _ => .carriedOut) fs raw = result at processed
  cases processed with
  | skipped => exact .inl rfl
  | unchanged => exact .inr rfl
  | readError included judged | fixed included judged | writeError included judged =>
    rcases passes with excluded | valid
    · cases included.symm.trans excluded
    · cases judged.symm.trans valid

theorem Passes.untouched (passes : c.Passes fs raw) : (c.process fs raw).2 = fs := by
  rcases passes.process with result | result <;> rw [result]

theorem passes_iff : c.Passes fs raw ↔
    (c.process fs raw).1.isFixed = false ∧ (c.process fs raw).1.isError = false := by
  constructor
  · intro passes
    rcases passes.process with result | result <;> rw [result] <;> exact ⟨rfl, rfl⟩
  · rintro ⟨unfixed, unfailed⟩
    have processed := c.processed (fun _ => .carriedOut) fs raw
    rw [← Checker.process] at processed
    generalize c.process fs raw = result at processed unfixed unfailed
    cases processed with
    | skipped excluded => exact .inl excluded
    | unchanged _ valid => exact .inr valid
    | fixed => cases unfixed
    | readError | writeError => cases unfailed

/-- The files before a first one that is repaired or fails have left the tree alone, so each is
judged by the tree as it was. -/
theorem processAll_passes_iff :
    (∀ item ∈ (c.processAll fs raws).1, item.2.isFixed = false ∧ item.2.isError = false) ↔
      ∀ raw ∈ raws, c.Passes fs raw := by
  induction raws with
  | nil => simp [processAll]
  | cons raw rest ih =>
    simp only [processAll, List.forall_mem_cons]
    rw [← passes_iff]
    refine and_congr_right fun passes => ?_
    rw [passes.untouched]
    exact ih

theorem processAll_untouched (passes : ∀ raw ∈ raws, c.Passes fs raw) :
    (c.processAll fs raws).2 = fs := by
  induction raws with
  | nil => rfl
  | cons raw rest ih =>
    obtain ⟨first, others⟩ := List.forall_mem_cons.mp passes
    simp only [processAll, first.untouched]
    exact ih others

theorem passes_ofConfig_iff {root : Text} {config : Config} :
    (ofConfig root config).Passes fs raw ↔
      (∃ segment ∈ (RepoPath.normalize raw).segments, segment ∈ config.excludedDirs) ∨
      ∃ content first second rest, fs.read (Path.join root raw) = .ok (Utf8.encode content) ∧
        Lines.split content = first :: second :: rest ∧
        Text.trimEnd first = config.marker ++ ' ' :: (RepoPath.normalize raw).text ∧
        Text.trimEnd second = [] := by
  unfold Passes
  rw [judge_eq_valid_iff]
  simp only [excludes, RepoPath.isExcluded, List.any_eq_true, List.contains_iff_mem, ofConfig,
    Header.Valid, header, RepoPath.header, path, exists_and_left]

end Checker

namespace Report

theorem outcome_eq_nil {path : Text} {outcome : Outcome} (unfixed : outcome.isFixed = false)
    (unfailed : outcome.isError = false) : Report.outcome path outcome = [] := by
  cases outcome with
  | skipped | unchanged => rfl
  | fixed => cases unfixed
  | readError | writeError => cases unfailed

theorem summary_eq_nil {s : Summary} (passed : s.exitCode = 0) : summary s = [] := by
  obtain ⟨unfixed, unfailed⟩ := s.exitCode_eq_zero_iff.mp passed
  simp [summary, unfixed, unfailed]

/-- A run that is not passed closes below an empty line. -/
theorem render_summary (colour : Bool) {s : Summary} (stopped : s.exitCode ≠ 0) :
    ∃ rest, render colour (summary s) = '\n' :: rest := by
  have counted : ¬ (s.fixed = 0 ∧ s.failed = 0) :=
    fun none => stopped (s.exitCode_eq_zero_iff.mpr none)
  have opens : ∃ rest, summary s = line [] :: rest := by
    unfold summary
    rw [if_neg counted]
    exact ⟨_, rfl⟩
  obtain ⟨rest, opens⟩ := opens
  refine ⟨render colour rest, ?_⟩
  rw [opens, render, List.flatMap_cons]
  cases colour <;> rfl

end Report

namespace Run
open Checker

theorem told_eq_nil {outcomes : List (Text × Outcome)}
    (quiet : ∀ item ∈ outcomes, item.2.isFixed = false ∧ item.2.isError = false) :
    told outcomes = [] := by
  rw [told, List.flatMap_eq_nil_iff]
  intro item listed
  exact Report.outcome_eq_nil (quiet item listed).1 (quiet item listed).2

/-- A run exits with zero exactly if every path is excluded or names a file that had a valid header
before the run. It has then changed no file and said nothing; otherwise it has said something. -/
theorem exitCode_eq_zero_iff_valid (root : Text) (config : Config) (raws : List Text)
    (fs : FileSystem) (colour : Bool) (written : Bytes) :
    let run := ofFiles (ofConfig root config) raws fs ⟨colour, none, written⟩
    ∃ summary, run.result? = some summary ∧
      (summary.exitCode = 0 ↔ ∀ raw ∈ raws,
        (∃ segment ∈ (RepoPath.normalize raw).segments, segment ∈ config.excludedDirs) ∨
        ∃ content first second rest, fs.read (Path.join root raw) = .ok (Utf8.encode content) ∧
          Lines.split content = first :: second :: rest ∧
          Text.trimEnd first = config.marker ++ ' ' :: (RepoPath.normalize raw).text ∧
          Text.trimEnd second = []) ∧
      (summary.exitCode = 0 →
        run.fs = fs ∧ (raws ≠ [] → run.writer.written = written)) ∧
      (raws ≠ [] → summary.exitCode = 1 →
        ∃ report, report ≠ [] ∧ run.writer.written = written ++ report) := by
  simp only [← passes_ofConfig_iff]
  by_cases given : raws = []
  · subst given
    obtain ⟨untouched, result⟩ := ofFiles_nil (ofConfig root config) fs colour written
    exact ⟨{}, result, by simp [Summary.exitCode_eq_zero_iff], fun _ => ⟨untouched, nofun⟩, nofun⟩
  · obtain ⟨tree, result, report⟩ :=
      ofFiles_spec (ofConfig root config) fs given colour written
    refine ⟨_, result, ?_, ?_, ?_⟩
    · rw [Summary.exitCode_recordAll, processAll_passes_iff]
    · intro passed
      have quiet := (Summary.exitCode_recordAll _).mp passed
      rw [tree, report, Report.summary_eq_nil passed, told_eq_nil quiet]
      refine ⟨processAll_untouched (processAll_passes_iff.mp quiet), fun _ => ?_⟩
      simp [Report.render, Utf8.encode]
    · intro _ stopped
      refine ⟨_, ?_, report⟩
      obtain ⟨rest, closing⟩ := Report.render_summary colour (stopped ▸ Nat.one_ne_zero)
      rw [render_append, closing, Utf8.encode_append]
      simp [Utf8.encode, String.utf8EncodeChar_ne_nil]

end Run

end PathHeader
