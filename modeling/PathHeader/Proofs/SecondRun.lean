import PathHeader.Proofs.Convergence
import PathHeader.Proofs.Gate
import PathHeader.Proofs.Independence

/-! Running again. A file that was repaired is valid in the tree that the run leaves, unless another
path leads to the same file: then the later repair has put its own path over the earlier one. -/
namespace PathHeader

theorem RepoPath.header_injective (marker : Text) :
    Function.Injective (RepoPath.header marker) := by
  rintro ⟨text⟩ ⟨other⟩ same
  have same := List.append_cancel_left same
  cases same
  rfl

namespace Checker
open FileSystem Replacement

variable {c : Checker} {fs now : FileSystem} {raw other : Text} {raws : List Text}

/-- Nothing stands where the draft of the file that the path leads to would go. -/
def Vacant (c : Checker) (fs : FileSystem) (raw : Text) : Prop :=
  c.excludes raw = false → ∀ name directory, fs.resolve (c.path raw) = .ok (name :: directory) →
    fs.get? (draftName name :: directory) = none

theorem Vacant.unobstructed (vacant : c.Vacant fs raw) : c.Unobstructed fs raw :=
  fun name directory examined => vacant examined.included name directory examined.resolved

theorem Vacant.of_alike (vacant : c.Vacant fs raw) (alike : fs.Alike now) : c.Vacant now raw := by
  intro included name directory resolved
  rw [alike.resolve] at resolved
  exact alike.get?_eq_none (vacant included name directory resolved)

/-- By induction on the files: a run changes bytes and nothing else, whichever files meet. -/
theorem processAll_alike (vacant : ∀ raw ∈ raws, c.Vacant fs raw) :
    fs.Alike (c.processAll fs raws).2 := by
  induction raws generalizing fs with
  | nil => exact .refl fs
  | cons raw rest ih =>
    obtain ⟨first, others⟩ := List.forall_mem_cons.mp vacant
    have stepped : fs.Alike (c.process fs raw).2 := process_alike first.unobstructed
    exact stepped.trans (ih fun other listed => (others other listed).of_alike stepped)

/-- Two paths that lead to one file cannot both find their header in it. -/
theorem normalize_eq_of_passes (included : c.excludes raw = false)
    (includedOther : c.excludes other = false)
    (together : fs.resolve (c.path raw) = fs.resolve (c.path other))
    (passes : c.Passes fs raw) (passesOther : c.Passes fs other) :
    RepoPath.normalize raw = RepoPath.normalize other := by
  have valid : c.judge raw (fs.read (c.path raw)) = .valid :=
    passes.resolve_left (Bool.eq_false_iff.mp included)
  have validOther : c.judge other (fs.read (c.path other)) = .valid :=
    passesOther.resolve_left (Bool.eq_false_iff.mp includedOther)
  have sameBytes : fs.read (c.path other) = fs.read (c.path raw) := by
    unfold FileSystem.read
    rw [together]
  obtain ⟨content, got, header⟩ := judge_eq_valid_iff.mp valid
  rw [sameBytes, got, judge_encode, judgeText_eq_valid_iff] at validOther
  obtain ⟨first, _, _, split, shown, _⟩ := header
  obtain ⟨_, _, _, splitOther, shownOther, _⟩ := validOther
  cases split.symm.trans splitOther
  exact RepoPath.header_injective c.marker (shown.symm.trans shownOther)

theorem Independent.eq_of_examines {place : Place} (independent : c.Independent fs raws)
    (listed : raw ∈ raws) (listedOther : other ∈ raws) (examined : c.Examines fs raw place)
    (examinedOther : c.Examines fs other place) : raw = other := by
  have symmetric : Std.Symm fun raw other => ∀ place, c.Examines fs raw place →
      ¬ c.Examines fs other place :=
    ⟨fun _ _ apart place examined examinedOther => apart place examinedOther examined⟩
  by_contra different
  exact independent.apart.forall listed listedOther different place examined examinedOther

/-- A repaired file is valid under the path that it was repaired for. -/
theorem judge_repaired (accepted : Config.isMarker c.marker = true)
    (showable : (RepoPath.normalize raw).Showable) {result : Except Cause Bytes} {fixes : List Fix}
    {repaired : Bytes} (judged : c.judge raw result = .faulty fixes repaired) :
    c.judge raw (.ok repaired) = .valid := by
  obtain ⟨content, lines, _, _, made, rfl⟩ := judge_eq_faulty_iff.mp judged
  obtain ⟨stable, valid⟩ := Header.repair_settles accepted showable content
  have lines_eq : (Header.repair c.marker ((RepoPath.normalize raw).header c.marker)
      (Lines.split content)).1 = lines := congrArg Prod.fst made
  rw [lines_eq] at stable valid
  rw [judge_encode, judgeText_eq_valid_iff, stable]
  exact valid

/-- Independent files of which none failed are all fine in the tree that they leave. -/
theorem passes_processAll (accepted : Config.isMarker c.marker = true)
    (showable : ∀ raw ∈ raws, (RepoPath.normalize raw).Showable)
    (independent : c.Independent fs raws)
    (unfailed : ∀ item ∈ (c.processAll fs raws).1, item.2.isError = false)
    (alike : fs.Alike (c.processAll fs raws).2) :
    ∀ raw ∈ raws, c.Passes (c.processAll fs raws).2 raw := by
  intro raw listed
  obtain ⟨outcomes, rewritten, kept⟩ :=
    processAll_of_independent independent fun raw _ => ⟨.refl fs, fun _ _ _ => rfl⟩
  have unfailed : (c.process fs raw).1.isError = false := by
    rw [outcomes] at unfailed
    exact unfailed (raw, (c.process fs raw).1) (List.mem_map_of_mem listed)
  cases outcome : (c.process fs raw).1 with
  | skipped => exact .inl (process_fst_eq_skipped_iff.mp outcome)
  | readError | writeError =>
    rw [outcome] at unfailed
    cases unfailed
  | unchanged =>
    obtain ⟨included, valid⟩ := process_fst_eq_unchanged_iff.mp outcome
    obtain ⟨content, got, _⟩ := judge_eq_valid_iff.mp valid
    right
    rw [alike.read ?_]
    · exact valid
    · intro place resolved
      apply kept
      intro other listedOther fixes
      have same : other = raw := independent.eq_of_examines listedOther listed fixes.examines
        ⟨included, resolved, content, got⟩
      -- the file would be both unchanged and fixed
      obtain ⟨⟨_, fixed⟩, _⟩ := fixes
      rw [same, outcome] at fixed
      cases fixed
  | fixed found =>
    obtain ⟨included, _, name, directory, _, led, _⟩ := process_fst_eq_fixed_iff.mp outcome
    have resolved := (canonicalize_eq_ok_iff.mp led).1
    have fixes : c.Fixes fs raw (name :: directory) := ⟨⟨found, outcome⟩, resolved⟩
    obtain ⟨repaired, rewrite⟩ := fixes.rewritten (independent.free raw listed)
    obtain ⟨_, judged⟩ := rewrite.judged
    obtain ⟨_, mode, before, readable⟩ := rewrite.before
    have sameMode : fs.mode (name :: directory) = mode := by rw [FileSystem.mode, before]
    have file := (rewritten raw listed _ fixes).trans rewrite.now
    have got : (c.processAll fs raws).2.read (c.path raw) = .ok repaired :=
      read_eq_ok_iff.mpr ⟨_, _, (alike.resolve _).trans resolved, file, sameMode ▸ readable⟩
    right
    rw [got]
    exact judge_repaired accepted (showable raw listed) judged

/-- No two of the files that are looked at are one file. -/
def Apart (c : Checker) (fs : FileSystem) (raws : List Text) : Prop :=
  raws.Pairwise fun raw other => c.excludes raw = false → c.excludes other = false →
    ∀ place, fs.resolve (c.path raw) = .ok place → fs.resolve (c.path other) ≠ .ok place

theorem Apart.independent (apart : c.Apart fs raws) (vacant : ∀ raw ∈ raws, c.Vacant fs raw) :
    c.Independent fs raws where
  apart := apart.imp fun apart place examined examinedOther =>
    apart examined.included examinedOther.included place examined.resolved examinedOther.resolved
  free raw listed := (vacant raw listed).unobstructed

/-- Where nothing failed, the files are fine afterwards exactly if no two of them are one. -/
theorem passes_processAll_iff (accepted : Config.isMarker c.marker = true)
    (distinct : raws.Pairwise fun raw other => RepoPath.normalize raw ≠ RepoPath.normalize other)
    (showable : ∀ raw ∈ raws, (RepoPath.normalize raw).Showable)
    (vacant : ∀ raw ∈ raws, c.Vacant fs raw)
    (unfailed : ∀ item ∈ (c.processAll fs raws).1, item.2.isError = false) :
    (∀ raw ∈ raws, c.Passes (c.processAll fs raws).2 raw) ↔ c.Apart fs raws := by
  have alike : fs.Alike (c.processAll fs raws).2 := processAll_alike vacant
  constructor
  · intro passes
    apply distinct.imp_of_mem
    intro raw other listed listedOther different included includedOther place led ledOther
    apply different
    apply normalize_eq_of_passes included includedOther _ (passes raw listed)
      (passes other listedOther)
    rw [alike.resolve, alike.resolve, led, ledOther]
  · intro apart
    exact passes_processAll accepted showable (apart.independent vacant) unfailed alike

end Checker

namespace Run
open FileSystem Checker

/-- After a run in which nothing failed, a second run finds nothing to do exactly if no two of the
files are one. It has then changed nothing and said nothing. -/
theorem second_run_clean_iff {root : Text} {config : Config} {raws : List Text} {fs : FileSystem}
    {colour : Bool} {written : Bytes} {summary : Summary}
    (passed : config.problem? = none)
    (distinct : raws.Pairwise fun raw other => RepoPath.normalize raw ≠ RepoPath.normalize other)
    (showable : ∀ raw ∈ raws, (RepoPath.normalize raw).Showable)
    (vacant : ∀ raw ∈ raws, (ofConfig root config).Vacant fs raw)
    (counted : (ofFiles (ofConfig root config) raws fs ⟨colour, none, written⟩).result? =
      some summary)
    (unfailed : summary.failed = 0) (colourAgain : Bool) (writtenAgain : Bytes) :
    let c := ofConfig root config
    let run := ofFiles c raws fs ⟨colour, none, written⟩
    let again := ofFiles c raws run.fs ⟨colourAgain, none, writtenAgain⟩
    ∃ counts, again.result? = some counts ∧ (counts.exitCode = 0 ↔ c.Apart fs raws) ∧
      (counts.exitCode = 0 → counts.fixed = 0 ∧ counts.failed = 0 ∧ again.fs = run.fs ∧
        (raws ≠ [] → again.writer.written = writtenAgain)) := by
  intro c run again
  have accepted : Config.isMarker c.marker = true :=
    (Config.isMarker_iff _).mpr ((Config.problem?_eq_none_iff config).mp passed).marker
  have noFailure : ∀ item ∈ (c.processAll fs raws).1, item.2.isError = false := by
    rw [ofFiles_result] at counted
    cases counted
    rw [Summary.failed_recordAll, Nat.zero_add, List.countP_eq_zero] at unfailed
    exact fun item listed => Bool.eq_false_iff.mpr (unfailed item listed)
  have tree : run.fs = (c.processAll fs raws).2 := ofFiles_fs c raws fs colour written
  have passes : (∀ raw ∈ raws, c.Passes run.fs raw) ↔ c.Apart fs raws := by
    rw [tree]
    exact passes_processAll_iff accepted distinct showable vacant noFailure
  refine ⟨_, ofFiles_result c raws run.fs colourAgain writtenAgain, ?_, ?_⟩
  · rw [← passes, Summary.exitCode_recordAll, processAll_passes_iff]
  · intro clean
    have quiet := (Summary.exitCode_recordAll _).mp clean
    obtain ⟨unfixed, none⟩ := (Summary.exitCode_eq_zero_iff _).mp clean
    refine ⟨unfixed, none, ?_, fun given => ?_⟩
    · exact (ofFiles_fs c raws run.fs colourAgain writtenAgain).trans
        (processAll_untouched (processAll_passes_iff.mp quiet))
    · obtain ⟨_, _, said⟩ := ofFiles_spec c run.fs given colourAgain writtenAgain
      rw [Report.summary_eq_nil clean, told_eq_nil quiet] at said
      simpa [Report.render, Utf8.encode] using said

/-- A file, and another one through a link. -/
theorem linked_clean_again :
    let c := ofConfig "/".toList .default
    let raws := ["a.js".toList, "l.js".toList]
    let run := ofFiles c raws shelf .plain
    let again := ofFiles c raws run.fs .plain
    run.result? = some ⟨2, 0, 2, 0⟩ ∧ c.Apart shelf raws ∧
      ∃ counts, again.result? = some counts ∧ counts.exitCode = 0 ∧ again.fs = run.fs ∧
        again.writer.written = [] := by
  have counts : ({} : Summary).recordAll ((ofConfig "/".toList .default).processAll shelf
      ["a.js".toList, "l.js".toList]).1 = ⟨2, 0, 2, 0⟩ := by cbv
  intro c raws run again
  have led : shelf.resolve (c.path "a.js".toList) = .ok ["a.js".toList] := by cbv
  have ledOther : shelf.resolve (c.path "l.js".toList) = .ok ["b.js".toList] := by cbv
  have showable : ∀ raw ∈ raws, (RepoPath.normalize raw).Showable := by decide
  have vacant : ∀ raw ∈ raws, c.Vacant shelf raw := by
    refine List.forall_mem_cons.mpr ⟨?_, List.forall_mem_singleton.mpr ?_⟩
    · intro _ name directory resolved
      cases led.symm.trans resolved
      cbv
    · intro _ name directory resolved
      cases ledOther.symm.trans resolved
      cbv
  have apart : c.Apart shelf raws := by
    refine .cons (List.forall_mem_singleton.mpr ?_) (List.pairwise_singleton _ _)
    intro _ _ place resolved resolvedOther
    cases (led.symm.trans resolved).trans (ledOther.symm.trans resolvedOther).symm
  have counted : run.result? = some ⟨2, 0, 2, 0⟩ :=
    (ofFiles_result c raws shelf false []).trans (congrArg some counts)
  obtain ⟨more, countedAgain, iff, clean⟩ := second_run_clean_iff (by cbv) (by decide) showable
    vacant counted rfl false []
  have passed := iff.mpr apart
  obtain ⟨_, _, same, silent⟩ := clean passed
  exact ⟨counted, apart, more, countedAgain, passed, same, silent (List.cons_ne_nil _ _)⟩

/-- A file and a link to it. -/
def twins (content : Text) : FileSystem where
  entries := [(["a.js".toList], .file (Utf8.encode content) 0o644),
    (["b.js".toList], .link "a.js".toList)]

/-- Each of the two paths takes the header away from the other, in the second run as in the first.
-/
theorem undone_through_link :
    let c := ofConfig "/".toList .default
    let raws := ["a.js".toList, "b.js".toList]
    let run := ofFiles c raws (twins "x\n".toList) .plain
    Config.default.problem? = none ∧
    (raws.Pairwise fun raw other => RepoPath.normalize raw ≠ RepoPath.normalize other) ∧
    (∀ raw ∈ raws, (RepoPath.normalize raw).Showable) ∧
    (∀ raw ∈ raws, c.Vacant (twins "x\n".toList) raw) ∧
    run.result? = some ⟨2, 0, 2, 0⟩ ∧
    (ofFiles c raws run.fs .plain).result? = some ⟨2, 0, 2, 0⟩ := by
  have first : (ofConfig "/".toList .default).processAll (twins "x\n".toList)
      ["a.js".toList, "b.js".toList] =
      ([("a.js".toList, .fixed [.missingHeader]),
        ("b.js".toList, .fixed [.wrongPath "// a.js".toList "// b.js".toList])],
        twins "// b.js\n\nx\n".toList) := by cbv
  have second : (ofConfig "/".toList .default).processAll (twins "// b.js\n\nx\n".toList)
      ["a.js".toList, "b.js".toList] =
      ([("a.js".toList, .fixed [.wrongPath "// b.js".toList "// a.js".toList]),
        ("b.js".toList, .fixed [.wrongPath "// a.js".toList "// b.js".toList])],
        twins "// b.js\n\nx\n".toList) := by cbv
  intro c raws run
  have showable : ∀ raw ∈ raws, (RepoPath.normalize raw).Showable := by decide
  have vacant : ∀ raw ∈ raws, c.Vacant (twins "x\n".toList) raw := by
    have led : ∀ raw ∈ raws,
        (twins "x\n".toList).resolve (c.path raw) = .ok ["a.js".toList] := by
      refine List.forall_mem_cons.mpr ⟨?_, List.forall_mem_singleton.mpr ?_⟩
      · cbv
      · cbv
    intro raw listed _ name directory resolved
    cases (led raw listed).symm.trans resolved
    cbv
  have tree : run.fs = twins "// b.js\n\nx\n".toList :=
    (ofFiles_fs c raws (twins "x\n".toList) false []).trans (congrArg Prod.snd first)
  refine ⟨by cbv, by decide, showable, vacant, ?_, ?_⟩
  · have counted := ofFiles_result c raws (twins "x\n".toList) false []
    rw [first] at counted
    exact counted
  · have counted := ofFiles_result c raws (twins "// b.js\n\nx\n".toList) false []
    rw [second] at counted
    rw [tree]
    exact counted

end Run

end PathHeader
