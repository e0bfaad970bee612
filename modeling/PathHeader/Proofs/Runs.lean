import PathHeader.Run

/-! A run that is never cut, against the processing of its files alone: one after another, each in
the tree that the one before it left. Counts, events and reports follow from the outcomes. -/
namespace PathHeader

/-- Processes files in order, and keeps the outcomes with their paths. -/
def Checker.processAll (c : Checker) (fs : FileSystem) :
    List Text → List (Text × Outcome) × FileSystem
  | [] => ([], fs)
  | raw :: rest =>
    let (outcome, fs) := c.process fs raw
    let (outcomes, fs) := c.processAll fs rest
    ((raw, outcome) :: outcomes, fs)

namespace Summary

def recordAll (s : Summary) (outcomes : List (Text × Outcome)) : Summary :=
  outcomes.foldl (fun s item => s.record item.2) s

theorem recordAll_append (s : Summary) (outcomes more : List (Text × Outcome)) :
    s.recordAll (outcomes ++ more) = (s.recordAll outcomes).recordAll more :=
  List.foldl_append

/-- What goes up by one with some outcomes, and with no other, is in the end the number of those. -/
theorem counter_recordAll (counter : Summary → Nat) (counts : Outcome → Bool)
    (step : ∀ s outcome, counter (s.record outcome) = counter s + if counts outcome then 1 else 0)
    (s : Summary) (outcomes : List (Text × Outcome)) :
    counter (s.recordAll outcomes) = counter s + outcomes.countP fun item => counts item.2 := by
  induction outcomes generalizing s with
  | nil => rfl
  | cons item rest ih =>
    rw [recordAll, List.foldl_cons, ← recordAll, ih, step, List.countP_cons]
    omega

theorem fixed_recordAll (s : Summary) (outcomes : List (Text × Outcome)) :
    (s.recordAll outcomes).fixed = s.fixed + outcomes.countP fun item => item.2.isFixed := by
  refine counter_recordAll fixed Outcome.isFixed ?_ s outcomes
  intro s outcome
  cases outcome <;> rfl

theorem failed_recordAll (s : Summary) (outcomes : List (Text × Outcome)) :
    (s.recordAll outcomes).failed = s.failed + outcomes.countP fun item => item.2.isError := by
  refine counter_recordAll failed Outcome.isError ?_ s outcomes
  intro s outcome
  cases outcome <;> rfl

/-- Counts do not depend on the order. -/
theorem recordAll_perm (s : Summary) {outcomes others : List (Text × Outcome)}
    (reordered : outcomes.Perm others) : s.recordAll outcomes = s.recordAll others := by
  apply reordered.foldl_eq'
  rintro ⟨_, first⟩ _ ⟨_, second⟩ _ s
  cases first <;> cases second <;> rfl

theorem exitCode_recordAll (outcomes : List (Text × Outcome)) :
    (({} : Summary).recordAll outcomes).exitCode = 0 ↔
      ∀ item ∈ outcomes, item.2.isFixed = false ∧ item.2.isError = false := by
  rw [exitCode_eq_zero_iff, fixed_recordAll, failed_recordAll, Nat.zero_add, Nat.zero_add,
    List.countP_eq_zero, List.countP_eq_zero]
  simp only [Bool.not_eq_true]
  constructor
  · rintro ⟨unfixed, unfailed⟩ item listed
    exact ⟨unfixed item listed, unfailed item listed⟩
  · intro quiet
    exact ⟨fun item listed => (quiet item listed).1, fun item listed => (quiet item listed).2⟩

end Summary

namespace Run

variable {c : Checker} {run : Run} {raws : List Text}

/-- What the user is told of the outcomes. -/
def told (outcomes : List (Text × Outcome)) : List Piece :=
  outcomes.flatMap fun item => Report.outcome item.1 item.2

/-- A run after some more outcomes, all of them reported in full. -/
def after (run : Run) (outcomes : List (Text × Outcome)) (fs : FileSystem) : Run :=
  { run with
    fs
    writer := { run.writer with
      written := run.writer.written ++
        Utf8.encode (Report.render run.writer.colour (told outcomes)) }
    summary := run.summary.recordAll outcomes
    events := run.events ++ outcomes.map fun item => .ofOutcome item.1 item.2 }

theorem told_append (outcomes more : List (Text × Outcome)) :
    told (outcomes ++ more) = told outcomes ++ told more := List.flatMap_append

theorem render_append (colour : Bool) (pieces more : List Piece) :
    Report.render colour (pieces ++ more) =
      Report.render colour pieces ++ Report.render colour more := List.flatMap_append

theorem after_nil (run : Run) : run.after [] run.fs = run := by
  simp [after, told, Report.render, Summary.recordAll, Utf8.encode]

theorem after_after (run : Run) (outcomes more : List (Text × Outcome)) (fs later : FileSystem) :
    (run.after outcomes fs).after more later = run.after (outcomes ++ more) later := by
  simp only [after, told_append, render_append, Utf8.encode_append, Summary.recordAll_append,
    List.map_append, List.append_assoc]

theorem result?_eq_some_iff {summary : Summary} :
    run.result? = some summary ↔ run.isCut = false ∧ run.summary = summary := by
  unfold result?
  split <;> simp [*]

/-- A writer without an end takes every report. -/
theorem report_eq (unbounded : run.writer.room = none) (pieces : List Piece) :
    run.report pieces = { run with
      writer := { run.writer with
        written := run.writer.written ++ Utf8.encode (Report.render run.writer.colour pieces) }
      isCut := false } := by
  simp [report, Writer.put, Writer.putBytes, unbounded]

section
variable (unbounded : run.writer.room = none) (unlogged : run.journal = none)
  (uncut : run.isCut = false)
include unbounded unlogged uncut

theorem file_eq (raw : Text) :
    run.file c raw =
      run.after [(raw, (c.process run.fs raw).1)] (c.process run.fs raw).2 := by
  obtain ⟨fs, writer, summary, events, journal, isCut⟩ := run
  cases unlogged
  cases uncut
  have unbounded : writer.room = none := unbounded
  simp [file, note, report_eq, unbounded, after, told, Summary.recordAll]

/-- The outcomes of a run are those of its files alone, whatever was reported in between. -/
theorem files_eq (raws : List Text) :
    run.files c raws =
      run.after (c.processAll run.fs raws).1 (c.processAll run.fs raws).2 := by
  induction raws generalizing run with
  | nil => exact (after_nil run).symm
  | cons raw rest ih =>
    rw [files, List.foldl_cons, ← files, file_eq unbounded unlogged uncut, ih, after_after]
    · rfl
    · exact unbounded
    · exact unlogged
    · exact uncut

end

/-- A whole run: the files, the counts, and every byte of the report. -/
theorem ofFiles_spec (c : Checker) (fs : FileSystem) (given : raws ≠ []) (colour : Bool)
    (written : Bytes) :
    (ofFiles c raws fs ⟨colour, none, written⟩).fs = (c.processAll fs raws).2 ∧
    (ofFiles c raws fs ⟨colour, none, written⟩).result? =
      some (({} : Summary).recordAll (c.processAll fs raws).1) ∧
    (ofFiles c raws fs ⟨colour, none, written⟩).writer.written =
      written ++ Utf8.encode (Report.render colour (told (c.processAll fs raws).1 ++
        Report.summary (({} : Summary).recordAll (c.processAll fs raws).1))) := by
  let begun : Run := { fs, writer := ⟨colour, none, written⟩ }
  have ran : begun.files c raws = begun.after (c.processAll fs raws).1 (c.processAll fs raws).2 :=
    files_eq rfl rfl rfl raws
  have whole : ofFiles c raws fs ⟨colour, none, written⟩ = (begun.files c raws).close := by
    simp only [ofFiles, if_neg given, begun]
  rw [whole, ran]
  simp [begun, close, after, note, report_eq, result?, render_append, Utf8.encode_append]

theorem ofFiles_nil (c : Checker) (fs : FileSystem) (colour : Bool) (written : Bytes) :
    (ofFiles c [] fs ⟨colour, none, written⟩).fs = fs ∧
    (ofFiles c [] fs ⟨colour, none, written⟩).result? = some {} := by
  simp [ofFiles, report_eq, result?]

theorem ofFiles_fs (c : Checker) (raws : List Text) (fs : FileSystem) (colour : Bool)
    (written : Bytes) :
    (ofFiles c raws fs ⟨colour, none, written⟩).fs = (c.processAll fs raws).2 := by
  by_cases given : raws = []
  · rw [given]
    exact (ofFiles_nil c fs colour written).1
  · exact (ofFiles_spec c fs given colour written).1

theorem ofFiles_result (c : Checker) (raws : List Text) (fs : FileSystem) (colour : Bool)
    (written : Bytes) :
    (ofFiles c raws fs ⟨colour, none, written⟩).result? =
      some (({} : Summary).recordAll (c.processAll fs raws).1) := by
  by_cases given : raws = []
  · rw [given]
    exact (ofFiles_nil c fs colour written).2
  · exact (ofFiles_spec c fs given colour written).2.1

/-- The reports on the files stand one after another. -/
theorem encode_render_told (colour : Bool) (outcomes : List (Text × Outcome)) :
    Utf8.encode (Report.render colour (told outcomes)) = outcomes.flatMap fun item =>
      Utf8.encode (Report.render colour (Report.outcome item.1 item.2)) := by
  simp only [told, Report.render, Utf8.encode, List.flatMap_assoc]

end Run

end PathHeader
