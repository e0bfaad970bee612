import Mathlib
import PathHeader.Proofs.Judging
import PathHeader.Proofs.Stages

/-! What a repaired file is on disk. The path still leads to the same place after the move, although
a draft has come and gone beside it, and reading it gives the repaired lines. -/
namespace PathHeader

namespace Replacement
open FileSystem

variable {r : Replacement} {fs after : FileSystem} {s : State} {respond : Step → Response}
  {path : Text} {bytes : Bytes} {cause : Cause}

theorem ofPath_of_atPath (replaced : atPath respond fs path bytes = (none, after)) :
    ∃ r s, ofPath fs path bytes = .ok r ∧ r.Stage fs [] s ∧ s.fs = after := by
  unfold atPath at replaced
  split at replaced
  · cases replaced
  · next r begun =>
    rcases r.run_cases respond fs with ⟨s, _, ran, stage⟩ | ⟨_, _, _, ran, _⟩
    · cases ran.symm.trans replaced
      exact ⟨r, s, begun, stage, rfl⟩
    · cases ran.symm.trans replaced

/-- A draft could be made, so nothing led through its place. -/
theorem Stage.closed (stage : r.Stage fs [] s)
    (plain : ∀ target, fs.get? r.draft ≠ some (.link target)) :
    fs.get? r.draft = none ∨ fs.FileAt r.draft := by
  generalize left : [] = todo at stage
  cases stage with
  | renamed drafted =>
    obtain ⟨_, created⟩ := drafted.created
    rw [← drafted.opened plain]
    exact (create_emptied created).before
  | start | created | written | modeSet | synced => cases left

theorem Replaced.resolve (replaced : r.Replaced fs after)
    (resolved : fs.resolve path = .ok r.target) (file : fs.FileAt r.target)
    (closed : fs.get? r.draft = none ∨ fs.FileAt r.draft) :
    after.resolve path = .ok r.target := by
  refine resolve_transfer resolved (fun other notDraft => ?_) closed r.draft_ne_target.symm
  by_cases isTarget : other = r.target
  · rw [isTarget]
    exact .inr ⟨file, _, _, replaced.target⟩
  · exact .inl (replaced.others other isTarget notDraft)

end Replacement

namespace Checker
open FileSystem Replacement

variable {c : Checker} {raw : Text} {fs after : FileSystem} {fixes : List Fix}

/-- A file that is reported as fixed holds its old text with the header repaired, under the path and
with the mode it had, and nothing else has changed but that a draft beside it is gone. The header
names the path as given, wherever links have led from there. -/
theorem fixed_on_disk
    (plain : ∀ name directory, fs.resolve (c.path raw) = .ok (name :: directory) →
      ∀ target, fs.get? (draftName name :: directory) ≠ some (.link target))
    (fixed : c.process fs raw = (.fixed fixes, after)) :
    ∃ name directory content mode lines,
      fs.resolve (c.path raw) = .ok (name :: directory) ∧
      fs.get? (name :: directory) = some (.file (Utf8.encode content) mode) ∧
      Header.repair c.marker ((RepoPath.normalize raw).header c.marker) (Lines.split content) =
        (lines, fixes) ∧ fixes ≠ [] ∧
      after.read (c.path raw) = .ok (Utf8.encode lines.join) ∧
      after.resolve (c.path raw) = .ok (name :: directory) ∧
      after.get? (name :: directory) = some (.file (Utf8.encode lines.join) mode) ∧
      after.get? (draftName name :: directory) = none ∧
      (∀ place target, fs.get? place = some (.link target) →
        after.get? place = some (.link target)) ∧
      ∀ other, other ≠ name :: directory → other ≠ draftName name :: directory →
        after.get? other = fs.get? other := by
  have processed := c.processed (fun _ => .carriedOut) fs raw
  rw [← process, fixed] at processed
  cases processed with
  | fixed _ judged replaced =>
    obtain ⟨content, lines, got, some, repaired, rfl⟩ := judge_eq_faulty_iff.mp judged
    obtain ⟨r, s, begun, stage, rfl⟩ := ofPath_of_atPath replaced
    have resolved := resolve_of_ofPath begun
    obtain ⟨_, sameBytes, sameMode⟩ := ofPath_eq_ok_iff.mp begun
    obtain ⟨place, mode, led, file, readable⟩ := read_eq_ok_iff.mp got
    cases led.symm.trans resolved
    have plain := plain _ _ resolved
    have done := stage.replaced plain
    have found := done.resolve resolved ⟨_, _, file⟩ (stage.closed plain)
    have mode_eq : fs.mode r.target = mode := by rw [FileSystem.mode, file]
    have new := done.target
    rw [sameBytes, sameMode, mode_eq] at new
    refine ⟨r.name, r.directory, content, mode, lines, resolved, file, repaired, some, ?_, found,
      new, done.draft, ?_, done.others⟩
    · exact read_eq_ok_iff.mpr ⟨r.target, mode, found, new, readable⟩
    · intro place target linked
      have notTarget : place ≠ r.target := by
        rintro rfl
        cases file.symm.trans linked
      have notDraft : place ≠ r.draft := by
        rintro rfl
        exact plain target linked
      rw [done.others place notTarget notDraft, linked]

/-- A link to a file in another directory, where the draft of an earlier run was left. -/
def linked : FileSystem where
  entries := [(["b.js".toList], .link "lib/a.js".toList), (["lib".toList], .directory),
    (["a.js".toList, "lib".toList], .file (Utf8.encode "x\n".toList) 0o755),
    ([".a.js.headerfix.tmp".toList, "lib".toList], .file [47, 47] 0o644)]

def slashes : Checker := ⟨"/".toList, "//".toList, []⟩

theorem fixed_through_link :
    (∀ name directory, linked.resolve (slashes.path "./b.js".toList) = .ok (name :: directory) →
      ∀ target, linked.get? (draftName name :: directory) ≠ some (.link target)) ∧
    ∃ after name directory lines,
      slashes.process linked "./b.js".toList = (.fixed [.missingHeader], after) ∧
      linked.resolve (slashes.path "./b.js".toList) = .ok (name :: directory) ∧
      after.read (slashes.path "./b.js".toList) = .ok (Utf8.encode (Lines.join lines)) ∧
      after.get? (draftName name :: directory) = none := by
  have led : linked.resolve (slashes.path "./b.js".toList) =
      .ok ["a.js".toList, "lib".toList] := by cbv
  have stale : linked.get? [draftName "a.js".toList, "lib".toList] =
      some (.file [47, 47] 0o644) := by cbv
  have plain : ∀ name directory,
      linked.resolve (slashes.path "./b.js".toList) = .ok (name :: directory) →
      ∀ target, linked.get? (draftName name :: directory) ≠ some (.link target) := by
    intro name directory resolved target found
    cases led.symm.trans resolved
    cases stale.symm.trans found
  have fixed : slashes.process linked "./b.js".toList =
      (.fixed [.missingHeader], (slashes.process linked "./b.js".toList).2) := by cbv
  obtain ⟨name, directory, _, _, lines, resolved, _, _, _, got, _, _, gone, _⟩ :=
    fixed_on_disk plain fixed
  exact ⟨plain, _, name, directory, lines, fixed, resolved, got, gone⟩

end Checker

end PathHeader
