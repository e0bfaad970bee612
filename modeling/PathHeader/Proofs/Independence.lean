import PathHeader.Proofs.Alike
import PathHeader.Proofs.Outcomes
import PathHeader.Proofs.Runs

/-! Files that do not get in each other's way. If different paths lead to different files and
nothing stands where their drafts go, each file comes out as if it were alone, whatever the order.
-/
namespace PathHeader

theorem FileSystem.Alike.undraftable {fs now : FileSystem} {path : Text} {cause : Cause}
    (alike : fs.Alike now) (undraftable : Replacement.Undraftable fs path cause) :
    Replacement.Undraftable now path cause := by
  cases undraftable with
  | lost lost => exact .lost ((alike.canonicalize path).trans lost)
  | refused led refused =>
    exact .refused ((alike.canonicalize path).trans led) (alike.create_eq_error_iff.mpr refused)

namespace Checker
open FileSystem Replacement

variable {c : Checker} {fs now : FileSystem} {raw other : Text} {raws : List Text} {place : Place}

/-- The path leads to this place, and the text of the file there is judged. -/
structure Examines (c : Checker) (fs : FileSystem) (raw : Text) (place : Place) : Prop where
  included : c.excludes raw = false
  resolved : fs.resolve (c.path raw) = .ok place
  readable : ∃ content, fs.read (c.path raw) = .ok (Utf8.encode content)

/-- Nothing stands where the draft of a file that is judged would go. -/
def Unobstructed (c : Checker) (fs : FileSystem) (raw : Text) : Prop :=
  ∀ name directory, c.Examines fs raw (name :: directory) →
    fs.get? (draftName name :: directory) = none

/-- The file at this place is repaired under the path. -/
def Fixes (c : Checker) (fs : FileSystem) (raw : Text) (place : Place) : Prop :=
  (∃ fixes, (c.process fs raw).1 = .fixed fixes) ∧ fs.resolve (c.path raw) = .ok place

theorem examines_of_judged {fixes : List Fix} {repaired : Bytes} (included : c.excludes raw = false)
    (judged : c.judge raw (fs.read (c.path raw)) = .faulty fixes repaired)
    (resolved : fs.resolve (c.path raw) = .ok place) : c.Examines fs raw place := by
  obtain ⟨content, _, got, _⟩ := judge_eq_faulty_iff.mp judged
  exact ⟨included, resolved, content, got⟩

theorem Fixes.examines (fixes : c.Fixes fs raw place) : c.Examines fs raw place := by
  obtain ⟨⟨_, fixed⟩, resolved⟩ := fixes
  obtain ⟨included, ⟨_, judged⟩, _⟩ := process_fst_eq_fixed_iff.mp fixed
  exact examines_of_judged included judged resolved

/-- What fixing a file comes to: its bytes are the repaired ones, and all else is as before. -/
structure Rewritten (c : Checker) (fs : FileSystem) (raw : Text) (place : Place) (repaired : Bytes)
    (after : FileSystem) : Prop where
  judged : ∃ fixes, c.judge raw (fs.read (c.path raw)) = .faulty fixes repaired
  before : ∃ old mode, fs.get? place = some (.file old mode) ∧ mayRead mode = true
  now : after.get? place = some (.file repaired (fs.mode place))
  others : ∀ other, other ≠ place → after.get? other = fs.get? other

theorem Fixes.rewritten (fixes : c.Fixes fs raw place) (free : c.Unobstructed fs raw) :
    ∃ repaired, c.Rewritten fs raw place repaired (c.process fs raw).2 := by
  obtain ⟨⟨found, fixed⟩, led⟩ := fixes
  obtain ⟨included, ⟨repaired, judged⟩, name, directory, ⟨draft, emptied⟩, cleared, created⟩ :=
    process_fst_eq_fixed_iff.mp fixed
  have resolved := (canonicalize_eq_ok_iff.mp cleared).1
  cases led.symm.trans resolved
  obtain ⟨content, _, got, _⟩ := judge_eq_faulty_iff.mp judged
  obtain ⟨_, mode, read, file, readable⟩ := read_eq_ok_iff.mp got
  cases resolved.symm.trans read
  have vacant := free name directory ⟨included, resolved, content, got⟩
  obtain ⟨s, processed, stage⟩ := process_of_create_ok included judged cleared created
  have plain : ∀ target, fs.get? (draftName name :: directory) ≠ some (.link target) := by
    simp [vacant]
  have replaced := stage.replaced plain
  rw [processed]
  refine ⟨repaired, ⟨found, judged⟩, ⟨_, mode, file, readable⟩, replaced.target, ?_⟩
  intro other notTarget
  by_cases isDraft : other = draftName name :: directory
  · rw [isDraft, vacant]
    exact replaced.draft
  · exact replaced.others other notTarget isDraft

theorem Rewritten.alike {repaired : Bytes} {after : FileSystem}
    (rewritten : c.Rewritten fs raw place repaired after) : fs.Alike after := by
  intro other
  by_cases isPlace : other = place
  · obtain ⟨old, mode, file, _⟩ := rewritten.before
    have now := rewritten.now
    rw [FileSystem.mode, file] at now
    exact .inr ⟨old, repaired, mode, isPlace ▸ file, isPlace ▸ now⟩
  · exact .inl (rewritten.others other isPlace)

/-- What is not fixed is left alone. -/
theorem process_snd_of_not_fixes (free : c.Unobstructed fs raw)
    (idle : ∀ place, ¬ c.Fixes fs raw place) : (c.process fs raw).2 = fs := by
  apply process_snd_of_unfixed
  · intro fixes failure failed name directory _ led _
    obtain ⟨included, ⟨_, judged⟩, _⟩ := process_fst_eq_writeError_iff.mp failed
    have resolved := (canonicalize_eq_ok_iff.mp led).1
    have vacant := free name directory (examines_of_judged included judged resolved)
    rw [Bool.eq_false_iff]
    intro leads
    exact get?_ne_none_of_leadsToFile leads vacant
  · cases outcome : (c.process fs raw).1 with
    | skipped | unchanged | readError | writeError => rfl
    | fixed fixes =>
      obtain ⟨_, _, name, directory, _, led, _⟩ := process_fst_eq_fixed_iff.mp outcome
      have resolved := (canonicalize_eq_ok_iff.mp led).1
      exact absurd ⟨⟨fixes, outcome⟩, resolved⟩ (idle (name :: directory))

theorem process_alike (free : c.Unobstructed fs raw) : fs.Alike (c.process fs raw).2 := by
  by_cases idle : ∀ place, ¬ c.Fixes fs raw place
  · rw [process_snd_of_not_fixes free idle]
    exact .refl fs
  · obtain ⟨place, fixes⟩ := not_forall_not.mp idle
    obtain ⟨repaired, rewritten⟩ := fixes.rewritten free
    exact rewritten.alike

/-- Only the file that is fixed is other than before. -/
theorem process_get? (free : c.Unobstructed fs raw) (idle : ¬ c.Fixes fs raw place) :
    (c.process fs raw).2.get? place = fs.get? place := by
  by_cases none : ∀ place, ¬ c.Fixes fs raw place
  · rw [process_snd_of_not_fixes free none]
  · obtain ⟨fixed, fixes⟩ := not_forall_not.mp none
    obtain ⟨repaired, rewritten⟩ := fixes.rewritten free
    refine rewritten.others place ?_
    rintro rfl
    exact idle fixes

/-- Nothing that this file is judged by has changed. -/
structure Agree (c : Checker) (fs now : FileSystem) (raw : Text) : Prop where
  alike : fs.Alike now
  file : c.excludes raw = false → ∀ place, fs.resolve (c.path raw) = .ok place →
    now.get? place = fs.get? place

namespace Agree

variable (agree : c.Agree fs now raw)
include agree

theorem judge (included : c.excludes raw = false) :
    c.judge raw (now.read (c.path raw)) = c.judge raw (fs.read (c.path raw)) := by
  rw [agree.alike.read (agree.file included)]

theorem examines_iff : c.Examines now raw place ↔ c.Examines fs raw place := by
  constructor
  · rintro ⟨included, resolved, content, got⟩
    rw [agree.alike.resolve] at resolved
    rw [agree.alike.read (agree.file included)] at got
    exact ⟨included, resolved, content, got⟩
  · rintro ⟨included, resolved, content, got⟩
    refine ⟨included, (agree.alike.resolve _).trans resolved, content, ?_⟩
    rw [agree.alike.read (agree.file included)]
    exact got

theorem unobstructed (free : c.Unobstructed fs raw) : c.Unobstructed now raw := by
  intro name directory examined
  exact agree.alike.get?_eq_none (free name directory (agree.examines_iff.mp examined))

theorem process_fst : (c.process now raw).1 = (c.process fs raw).1 := by
  cases outcome : (c.process fs raw).1 with
  | skipped => exact process_fst_eq_skipped_iff.mpr (process_fst_eq_skipped_iff.mp outcome)
  | unchanged =>
    obtain ⟨included, judged⟩ := process_fst_eq_unchanged_iff.mp outcome
    exact process_fst_eq_unchanged_iff.mpr ⟨included, (agree.judge included).trans judged⟩
  | readError failure =>
    obtain ⟨included, judged⟩ := process_fst_eq_readError_iff.mp outcome
    exact process_fst_eq_readError_iff.mpr ⟨included, (agree.judge included).trans judged⟩
  | fixed fixes =>
    obtain ⟨included, ⟨repaired, judged⟩, name, directory, opened, led, created⟩ :=
      process_fst_eq_fixed_iff.mp outcome
    obtain ⟨opened, created⟩ := agree.alike.create_eq_ok_iff.mpr ⟨opened, created⟩
    refine process_fst_eq_fixed_iff.mpr
      ⟨included, ⟨repaired, ?_⟩, name, directory, opened, ?_, created⟩
    · exact (agree.judge included).trans judged
    · exact (agree.alike.canonicalize _).trans led
  | writeError fixes failure =>
    obtain ⟨included, ⟨repaired, judged⟩, cause, undraftable, same⟩ :=
      process_fst_eq_writeError_iff.mp outcome
    refine process_fst_eq_writeError_iff.mpr ⟨included, ⟨repaired, ?_⟩, cause, ?_, same⟩
    · exact (agree.judge included).trans judged
    · exact agree.alike.undraftable undraftable

theorem fixes_iff : c.Fixes now raw place ↔ c.Fixes fs raw place := by
  unfold Fixes
  rw [agree.process_fst, agree.alike.resolve]

/-- The file is rewritten as it would have been. -/
theorem process_get? (free : c.Unobstructed fs raw) (fixes : c.Fixes fs raw place) :
    (c.process now raw).2.get? place = (c.process fs raw).2.get? place := by
  obtain ⟨repaired, rewritten⟩ := fixes.rewritten free
  obtain ⟨again, rewrittenNow⟩ :=
    (agree.fixes_iff.mpr fixes).rewritten (agree.unobstructed free)
  obtain ⟨_, judged⟩ := rewritten.judged
  obtain ⟨_, judgedNow⟩ := rewrittenNow.judged
  rw [agree.judge fixes.examines.included, judged] at judgedNow
  cases judgedNow
  rw [rewritten.now, rewrittenNow.now, agree.alike.mode]

end Agree

/-- No two paths lead to one file that is judged, and no draft finds its place taken. -/
structure Independent (c : Checker) (fs : FileSystem) (raws : List Text) : Prop where
  apart : raws.Pairwise fun raw other => ∀ place, c.Examines fs raw place →
    ¬ c.Examines fs other place
  free : ∀ raw ∈ raws, c.Unobstructed fs raw

theorem Independent.perm {others : List Text} (independent : c.Independent fs raws)
    (reordered : raws.Perm others) : c.Independent fs others where
  apart := (reordered.pairwise_iff fun apart place second first => apart place first second).mp
    independent.apart
  free raw listed := independent.free raw (reordered.mem_iff.mpr listed)

/-- A file that another path leads to is judged under that path too. -/
theorem Examines.of_resolved (examined : c.Examines fs raw place)
    (included : c.excludes other = false) (resolved : fs.resolve (c.path other) = .ok place) :
    c.Examines fs other place := by
  obtain ⟨_, led, content, got⟩ := examined
  refine ⟨included, resolved, content, ?_⟩
  rw [FileSystem.read, led] at got
  rw [FileSystem.read, resolved]
  exact got

/-- A step on one file leaves the judgement on every other as it was. -/
theorem Agree.step (agree : c.Agree fs now raw) (agreeOther : c.Agree fs now other)
    (free : c.Unobstructed fs raw)
    (apart : ∀ place, c.Examines fs raw place → ¬ c.Examines fs other place) :
    c.Agree fs (c.process now raw).2 other where
  alike := agree.alike.trans (process_alike (agree.unobstructed free))
  file included place resolved := by
    have idle : ¬ c.Fixes now raw place := by
      intro fixes
      have examined := (agree.fixes_iff.mp fixes).examines
      exact apart place examined (examined.of_resolved included resolved)
    rw [Checker.process_get? (agree.unobstructed free) idle]
    exact agreeOther.file included place resolved

/-- By induction on the files: each is judged and rewritten as in the tree that `fs` was, although
`now` has seen the files before it. -/
theorem processAll_of_independent (independent : c.Independent fs raws)
    (agree : ∀ raw ∈ raws, c.Agree fs now raw) :
    (c.processAll now raws).1 = raws.map (fun raw => (raw, (c.process fs raw).1)) ∧
    (∀ raw ∈ raws, ∀ place, c.Fixes fs raw place →
      (c.processAll now raws).2.get? place = (c.process fs raw).2.get? place) ∧
    ∀ place, (∀ raw ∈ raws, ¬ c.Fixes fs raw place) →
      (c.processAll now raws).2.get? place = now.get? place := by
  induction raws generalizing now with
  | nil =>
    refine ⟨rfl, ?_, fun _ _ => rfl⟩
    intro raw listed
    cases listed
  | cons raw rest ih =>
    obtain ⟨apart, restApart⟩ := List.pairwise_cons.mp independent.apart
    obtain ⟨free, restFree⟩ := List.forall_mem_cons.mp independent.free
    obtain ⟨agree, restAgree⟩ := List.forall_mem_cons.mp agree
    have stepped : ∀ other ∈ rest, c.Agree fs (c.process now raw).2 other :=
      fun other listed => agree.step (restAgree other listed) free (apart other listed)
    obtain ⟨outcomes, rewritten, kept⟩ := ih ⟨restApart, restFree⟩ stepped
    simp only [processAll]
    refine ⟨?_, ?_, ?_⟩
    · rw [outcomes, agree.process_fst, List.map_cons]
    · intro other listed place fixes
      rcases List.mem_cons.mp listed with rfl | later
      · rw [kept place, agree.process_get? free fixes]
        intro another listed fixesToo
        exact apart another listed place fixes.examines fixesToo.examines
      · exact rewritten other later place fixes
    · intro place idle
      obtain ⟨notRaw, notRest⟩ := List.forall_mem_cons.mp idle
      rw [kept place notRest]
      exact Checker.process_get? (agree.unobstructed free) (mt agree.fixes_iff.mp notRaw)

end Checker

namespace Run
open FileSystem Checker

variable {c : Checker} {fs : FileSystem} {raws others : List Text}

/-- Files that are independent come out as if each were alone: those that are fixed hold the
repaired bytes, and nothing else has changed. The order of the paths shows in nothing but the order
of the reports. -/
theorem ofFiles_perm (independent : c.Independent fs raws) (reordered : raws.Perm others)
    (colour : Bool) (written : Bytes) :
    let alone := fun raw => (c.process fs raw).1
    let report := fun pieces => Utf8.encode (Report.render colour pieces)
    let run := ofFiles c raws fs ⟨colour, none, written⟩
    let again := ofFiles c others fs ⟨colour, none, written⟩
    c.processAll fs raws = (raws.map fun raw => (raw, alone raw), run.fs) ∧
    c.processAll fs others = (others.map fun raw => (raw, alone raw), again.fs) ∧
    (∀ raw ∈ raws, ∀ place, c.Fixes fs raw place →
      run.fs.get? place = (c.process fs raw).2.get? place ∧
        ∃ repaired, c.Rewritten fs raw place repaired (c.process fs raw).2) ∧
    (∀ place, (∀ raw ∈ raws, ¬ c.Fixes fs raw place) → run.fs.get? place = fs.get? place) ∧
    again.fs.Same run.fs ∧
    ∃ summary, run.result? = some summary ∧ again.result? = some summary ∧
      (raws ≠ [] →
        run.writer.written = written ++
          raws.flatMap (fun raw => report (Report.outcome raw (alone raw))) ++
          report (Report.summary summary) ∧
        again.writer.written = written ++
          others.flatMap (fun raw => report (Report.outcome raw (alone raw))) ++
          report (Report.summary summary)) := by
  intro alone report run again
  have agree : ∀ raw, c.Agree fs fs raw := fun raw => ⟨.refl fs, fun _ _ _ => rfl⟩
  obtain ⟨outcomes, rewritten, kept⟩ :=
    processAll_of_independent independent fun raw _ => agree raw
  obtain ⟨outcomesAgain, rewrittenAgain, keptAgain⟩ :=
    processAll_of_independent (independent.perm reordered) fun raw _ => agree raw
  have tree : run.fs = (c.processAll fs raws).2 := ofFiles_fs c raws fs colour written
  have treeAgain : again.fs = (c.processAll fs others).2 := ofFiles_fs c others fs colour written
  have counts : ({} : Summary).recordAll (c.processAll fs others).1 =
      ({} : Summary).recordAll (c.processAll fs raws).1 := by
    rw [outcomes, outcomesAgain]
    exact Summary.recordAll_perm {} (reordered.symm.map _)
  rw [tree, treeAgain]
  refine ⟨Prod.ext outcomes rfl, Prod.ext outcomesAgain rfl, ?_, kept, ?_,
    _, ofFiles_result c raws fs colour written, ?_, ?_⟩
  · intro raw listed place fixes
    exact ⟨rewritten raw listed place fixes, fixes.rewritten (independent.free raw listed)⟩
  · intro place
    by_cases fixed : ∃ raw ∈ raws, c.Fixes fs raw place
    · obtain ⟨raw, listed, fixes⟩ := fixed
      rw [rewritten raw listed place fixes]
      exact rewrittenAgain raw (reordered.mem_iff.mp listed) place fixes
    · have idle : ∀ raw ∈ raws, ¬ c.Fixes fs raw place :=
        fun raw listed fixes => fixed ⟨raw, listed, fixes⟩
      rw [kept place idle]
      exact keptAgain place fun raw listed => idle raw (reordered.mem_iff.mpr listed)
  · rw [← counts]
    exact ofFiles_result c others fs colour written
  · intro given
    have givenAgain : others ≠ [] := fun empty => given (List.perm_nil.mp (empty ▸ reordered))
    obtain ⟨_, _, said⟩ := ofFiles_spec c fs given colour written
    obtain ⟨_, _, saidAgain⟩ := ofFiles_spec c fs givenAgain colour written
    rw [counts] at saidAgain
    rw [render_append, Utf8.encode_append, encode_render_told, outcomes, List.flatMap_map] at said
    rw [render_append, Utf8.encode_append, encode_render_told, outcomesAgain,
      List.flatMap_map] at saidAgain
    constructor
    · rw [List.append_assoc, outcomes]
      exact said
    · rw [List.append_assoc]
      exact saidAgain

/-- Two files without a header, and a link to one of them. -/
def shelf : FileSystem where
  entries := [(["a.js".toList], .file (Utf8.encode "x\n".toList) 0o644),
    (["b.js".toList], .file (Utf8.encode "y\n".toList) 0o600),
    (["l.js".toList], .link "b.js".toList)]

theorem linked_in_any_order :
    let c : Checker := ⟨"/".toList, "//".toList, []⟩
    let raws := ["a.js".toList, "l.js".toList, "gone.js".toList]
    let others := ["gone.js".toList, "l.js".toList, "a.js".toList]
    c.Independent shelf raws ∧ raws.Perm others ∧
      (c.processAll shelf others).1 = [("gone.js".toList, .readError (.io .notFound)),
        ("l.js".toList, .fixed [.missingHeader]), ("a.js".toList, .fixed [.missingHeader])] ∧
      (ofFiles c others shelf .plain).fs.Same (ofFiles c raws shelf .plain).fs ∧
      (ofFiles c others shelf .plain).fs.get? ["b.js".toList] =
        some (.file (Utf8.encode "// l.js\n\ny\n".toList) 0o600) := by
  intro c raws others
  have plain : ∀ place, c.Examines shelf "a.js".toList place → place = ["a.js".toList] := by
    intro place examined
    have led : shelf.resolve (c.path "a.js".toList) = .ok ["a.js".toList] := by cbv
    exact Except.ok.inj (examined.resolved.symm.trans led)
  have linked : ∀ place, c.Examines shelf "l.js".toList place → place = ["b.js".toList] := by
    intro place examined
    have led : shelf.resolve (c.path "l.js".toList) = .ok ["b.js".toList] := by cbv
    exact Except.ok.inj (examined.resolved.symm.trans led)
  have missing : ∀ place, ¬ c.Examines shelf "gone.js".toList place := by
    intro place examined
    have lost : shelf.resolve (c.path "gone.js".toList) = .error .notFound := by cbv
    cases lost.symm.trans examined.resolved
  have independent : c.Independent shelf raws := by
    constructor
    · refine .cons ?_ (.cons ?_ (List.pairwise_singleton _ _))
      · refine List.forall_mem_cons.mpr ⟨?_, List.forall_mem_singleton.mpr ?_⟩
        · intro place first second
          cases (plain place first).symm.trans (linked place second)
        · exact fun place _ => missing place
      · exact List.forall_mem_singleton.mpr fun place _ => missing place
    · refine List.forall_mem_cons.mpr ⟨?_, List.forall_mem_cons.mpr
        ⟨?_, List.forall_mem_singleton.mpr ?_⟩⟩
      · intro name directory examined
        cases plain _ examined
        cbv
      · intro name directory examined
        cases linked _ examined
        cbv
      · exact fun name directory examined => absurd examined (missing _)
  have reordered : raws.Perm others := List.reverse_perm others
  have lost : (c.process shelf "gone.js".toList).1 = .readError (.io .notFound) := by cbv
  have second : (c.process shelf "l.js".toList).1 = .fixed [.missingHeader] := by cbv
  have first : (c.process shelf "a.js".toList).1 = .fixed [.missingHeader] := by cbv
  have led : shelf.resolve (c.path "l.js".toList) = .ok ["b.js".toList] := by cbv
  have faulty : c.judge "l.js".toList (shelf.read (c.path "l.js".toList)) =
      .faulty [.missingHeader] (Utf8.encode "// l.js\n\ny\n".toList) := by cbv
  have mode : shelf.mode ["b.js".toList] = 0o600 := by cbv
  obtain ⟨_, again, fixed, _, same, _⟩ := ofFiles_perm independent reordered false []
  refine ⟨independent, reordered, ?_, same, ?_⟩
  · rw [again]
    simp only [others, List.map_cons, List.map_nil, lost, second, first]
  · obtain ⟨alone, repaired, ⟨_, judged⟩, _, now, _⟩ :=
      fixed "l.js".toList (by decide) _ ⟨⟨_, second⟩, led⟩
    cases faulty.symm.trans judged
    exact (same _).trans (alone.trans (mode ▸ now))

end Run

end PathHeader
