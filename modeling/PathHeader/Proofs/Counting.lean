import Mathlib.Logic.Basic
import PathHeader.Proofs.Runs

/-! The counts of a run. After every file they are the numbers of the outcomes up to there, each of
which is counted once as checked, as skipped or as failed. -/
namespace PathHeader

namespace Summary

variable {s : Summary} {outcomes : List (Text × Outcome)}

/-- Every counter is the number of the outcomes that it stands for. -/
structure Counts (s : Summary) (outcomes : List (Text × Outcome)) : Prop where
  checked : s.checked = outcomes.countP fun item => item.2 = .unchanged ∨ item.2.isFixed
  skipped : s.skipped = outcomes.countP fun item => item.2 = .skipped
  fixed : s.fixed = outcomes.countP fun item => item.2.isFixed
  failed : s.failed = outcomes.countP fun item => item.2.isError

theorem counts_recordAll (outcomes : List (Text × Outcome)) :
    (({} : Summary).recordAll outcomes).Counts outcomes := by
  constructor
  · have counted := counter_recordAll checked
      (fun outcome => outcome = .unchanged ∨ outcome.isFixed)
      (by intro s outcome; cases outcome <;> rfl) {} outcomes
    exact counted.trans (Nat.zero_add _)
  · have counted := counter_recordAll skipped (fun outcome => outcome = .skipped)
      (by intro s outcome; cases outcome <;> rfl) {} outcomes
    exact counted.trans (Nat.zero_add _)
  · exact (fixed_recordAll {} outcomes).trans (Nat.zero_add _)
  · exact (failed_recordAll {} outcomes).trans (Nat.zero_add _)

theorem Counts.fixed_le_checked (counts : s.Counts outcomes) : s.fixed ≤ s.checked := by
  rw [counts.fixed, counts.checked]
  refine List.countP_mono_left fun item _ isFixed => ?_
  simp [isFixed]

/-- No outcome is left out, and none is counted twice. -/
theorem total_recordAll (outcomes : List (Text × Outcome)) :
    let s := ({} : Summary).recordAll outcomes
    s.checked + s.skipped + s.failed = outcomes.length := by
  have counted := counter_recordAll (fun s => s.checked + s.skipped + s.failed) (fun _ => true)
    (by intro s outcome; cases outcome <;> simp [record] <;> omega) {} outcomes
  simpa using counted

theorem exitCode_eq_one_iff (s : Summary) : s.exitCode = 1 ↔ s.exitCode ≠ 0 := by
  unfold exitCode
  split <;> simp

end Summary

namespace Checker

theorem map_fst_processAll (c : Checker) (fs : FileSystem) (raws : List Text) :
    (c.processAll fs raws).1.map Prod.fst = raws := by
  induction raws generalizing fs with
  | nil => rfl
  | cons raw rest ih => exact congrArg (raw :: ·) (ih (c.process fs raw).2)

/-- The outcomes of the first files do not depend on those behind them. -/
theorem processAll_take (c : Checker) (fs : FileSystem) (raws : List Text) (count : Nat) :
    (c.processAll fs (raws.take count)).1 = (c.processAll fs raws).1.take count := by
  induction raws generalizing fs count with
  | nil => simp [processAll]
  | cons raw rest ih =>
    cases count with
    | zero => rfl
    | succ count =>
      exact congrArg ((raw, (c.process fs raw).1) :: ·) (ih (c.process fs raw).2 count)

end Checker

namespace Run
open Checker

/-- A run accounts for every file once. Whatever the number of files so far, its counters are the
numbers of their outcomes, as they come from processing the files alone one after another; together
they make up the number of files, so that none of them runs over unless there are more files than it
can hold. The counts after the last file are the result, and exit with one exactly if some file was
repaired or failed. -/
theorem summary_accounts (c : Checker) (raws : List Text) (fs : FileSystem) (colour : Bool)
    (written : Bytes) :
    let outcomes := (c.processAll fs raws).1
    let begun : Run := { fs, writer := ⟨colour, none, written⟩ }
    outcomes.map Prod.fst = raws ∧
    (∀ count ≤ raws.length,
      let s := (begun.files c (raws.take count)).summary
      s.Counts (outcomes.take count) ∧ s.checked + s.skipped + s.failed = count ∧
        s.fixed ≤ s.checked ∧
        (raws.length < UInt64.size → s.checked < UInt64.size ∧ s.skipped < UInt64.size ∧
          s.fixed < UInt64.size ∧ s.failed < UInt64.size)) ∧
    ∃ summary, (ofFiles c raws fs ⟨colour, none, written⟩).result? = some summary ∧
      summary = (begun.files c raws).summary ∧
      (summary.exitCode = 1 ↔
        ∃ item ∈ outcomes, item.2.isFixed = true ∨ item.2.isError = true) := by
  intro outcomes begun
  have ran : ∀ raws, (begun.files c raws).summary =
      ({} : Summary).recordAll (c.processAll fs raws).1 :=
    fun raws => congrArg summary (files_eq rfl rfl rfl raws)
  refine ⟨map_fst_processAll c fs raws, ?_, _, ofFiles_result c raws fs colour written,
    (ran raws).symm, ?_⟩
  · intro count within s
    have same : s = ({} : Summary).recordAll (outcomes.take count) := by
      rw [← processAll_take]
      exact ran _
    have counts : s.Counts (outcomes.take count) := same ▸ Summary.counts_recordAll _
    have total : s.checked + s.skipped + s.failed = count := by
      have length : outcomes.length = raws.length := by
        rw [← map_fst_processAll c fs raws, List.length_map]
      rw [same, Summary.total_recordAll, List.length_take, length, Nat.min_eq_left within]
    have most := counts.fixed_le_checked
    exact ⟨counts, total, most, by omega⟩
  · rw [Summary.exitCode_eq_one_iff, ne_eq, Summary.exitCode_recordAll]
    simp only [not_forall, not_and_or, Bool.not_eq_false, exists_prop]
    rfl

end Run

end PathHeader
