import PathHeader.Proofs.Runs

/-! A writer with room for so many bytes. Its run is a view of the run that no writer cuts: the
first bytes of the same report, and the tree after the file whose report did not fit. -/
namespace PathHeader

namespace Writer

/-- Takes bytes in parts, one after another, up to the first that there is not enough room for. -/
def putParts (w : Writer) : List Bytes → Writer × Bool
  | [] => (w, true)
  | part :: rest =>
    match w.putBytes part with
    | (w, true) => w.putParts rest
    | (w, false) => (w, false)

theorem putBytes_append (w : Writer) (bytes more : Bytes) :
    w.putBytes (bytes ++ more) =
      if (w.putBytes bytes).2 = true then (w.putBytes bytes).1.putBytes more
      else w.putBytes bytes := by
  obtain ⟨colour, room, written⟩ := w
  cases room with
  | none => simp [putBytes]
  | some room =>
    simp only [putBytes, decide_eq_true_eq, List.length_append, List.take_append]
    by_cases fits : bytes.length ≤ room
    · have rest : room - (bytes.length + more.length) = room - bytes.length - more.length := by
        omega
      have both : bytes.length + more.length ≤ room ↔ more.length ≤ room - bytes.length := by omega
      simp [fits, rest, both]
    · have full : room - bytes.length = 0 := by omega
      have fuller : room - (bytes.length + more.length) = 0 := by omega
      have cut : ¬ bytes.length + more.length ≤ room := by omega
      simp [fits, full, fuller, cut]

/-- Where bytes are parted makes no difference to what is taken of them. -/
theorem putParts_eq (w : Writer) (parts : List Bytes) :
    w.putParts parts = w.putBytes parts.flatten := by
  induction parts generalizing w with
  | nil =>
    obtain ⟨colour, room, written⟩ := w
    cases room <;> simp [putParts, putBytes]
  | cons part rest ih =>
    rw [List.flatten_cons, putBytes_append, putParts]
    rcases put : w.putBytes part with ⟨next, complete⟩
    cases complete with
    | true => exact ih next
    | false => rfl

/-- A limit on all bytes is room for those that are not yet written. -/
theorem putBytes_limited {colour : Bool} {written : Bytes} {limit : Nat}
    (fits : written.length ≤ limit) (bytes : Bytes) :
    (Writer.mk colour (some (limit - written.length)) (written.take limit)).putBytes bytes =
      (⟨colour, some (limit - (written ++ bytes).length), (written ++ bytes).take limit⟩,
        !decide (limit < (written ++ bytes).length)) := by
  have left : limit - written.length - bytes.length =
      limit - (written.length + bytes.length) := by omega
  have cut : bytes.length ≤ limit - written.length ↔
      ¬ limit < written.length + bytes.length := by omega
  simp only [putBytes, left, cut, List.length_append, List.take_append, decide_not]

/-- The later writer has everything that was written before, and perhaps more. -/
structure Grows (w later : Writer) : Prop where
  colour : later.colour = w.colour
  written : w.written <+: later.written

theorem Grows.refl (w : Writer) : w.Grows w := ⟨rfl, List.prefix_refl _⟩

theorem Grows.trans {w later last : Writer} (grows : w.Grows later) (more : later.Grows last) :
    w.Grows last :=
  ⟨more.colour.trans grows.colour, grows.written.trans more.written⟩

theorem grows_put (w : Writer) (pieces : List Piece) : w.Grows (w.put pieces).1 where
  colour := by cases room : w.room <;> simp [put, putBytes, room]
  written := by simp [put, written_putBytes]

end Writer

namespace Run

variable {c : Checker} {run : Run} {limit : Nat}

/-- What a writer makes of a run that was not cut, if it takes so many bytes and no more. -/
def within (run : Run) (limit : Nat) : Run :=
  { run with
    writer := ⟨run.writer.colour, some (limit - run.writer.written.length),
      run.writer.written.take limit⟩
    isCut := decide (limit < run.writer.written.length) }

/-- The limited run is a view of the other. One that was cut has not counted its last file. -/
structure Mirrors (limited free : Run) (limit : Nat) : Prop where
  writer : limited.writer = (free.within limit).writer
  isCut : limited.isCut = (free.within limit).isCut
  uncut : limited.isCut = false → limited = free.within limit

/-- It has come as far, besides. -/
structure Follows (limited free : Run) (limit : Nat) : Prop extends Mirrors limited free limit where
  fs : limited.fs = free.fs

theorem Mirrors.of_eq {limited free : Run} (same : limited = free.within limit) :
    limited.Mirrors free limit := by
  rw [same]
  exact ⟨rfl, rfl, fun _ => rfl⟩

theorem report_within (unbounded : run.writer.room = none)
    (fits : run.writer.written.length ≤ limit) (pieces : List Piece) :
    (run.within limit).report pieces = (run.report pieces).within limit := by
  rw [report_eq unbounded]
  simp only [within, report, Writer.put, Writer.putBytes_limited fits, Bool.not_not]

/-- The run after a file is processed, noted and reported on, before it is counted. -/
def announced (c : Checker) (run : Run) (raw : Text) : Run :=
  let (outcome, fs) := c.process run.fs raw
  ({ run with fs }.note (.ofOutcome raw outcome)).report (Report.outcome raw outcome)

theorem file_eq_of_uncut (uncut : run.isCut = false) (raw : Text) :
    run.file c raw =
      if (announced c run raw).isCut = true then announced c run raw
      else { announced c run raw with summary := run.summary.record (c.process run.fs raw).1 } := by
  simp only [file, uncut, Bool.false_eq_true, if_false]
  rfl

/-- One file: if its report does not fit, the run is cut after the file and before its count. -/
theorem file_within (unbounded : run.writer.room = none) (uncut : run.isCut = false)
    (fits : run.writer.written.length ≤ limit) (raw : Text) :
    ((run.within limit).file c raw).Follows (run.file c raw) limit := by
  let noted : Run :=
    { run with fs := (c.process run.fs raw).2 }.note (.ofOutcome raw (c.process run.fs raw).1)
  have unboundedToo : noted.writer.room = none := unbounded
  have told : announced c (run.within limit) raw = (announced c run raw).within limit :=
    report_within unboundedToo fits _
  have toldFree : (announced c run raw).isCut = false :=
    congrArg isCut (report_eq unboundedToo _)
  have open_ : (run.within limit).isCut = false := decide_eq_false (Nat.not_lt.mpr fits)
  rw [file_eq_of_uncut uncut, file_eq_of_uncut open_, told, toldFree]
  cases cut : ((announced c run raw).within limit).isCut with
  | true => exact ⟨⟨rfl, rfl, fun open_ => by cases cut.symm.trans open_⟩, rfl⟩
  | false => exact ⟨⟨rfl, rfl, fun _ => rfl⟩, rfl⟩

theorem files_cons (run : Run) (raw : Text) (rest : List Text) :
    run.files c (raw :: rest) = (run.file c raw).files c rest := rfl

theorem files_of_cut (cut : run.isCut = true) (raws : List Text) : run.files c raws = run := by
  induction raws with
  | nil => rfl
  | cons raw rest ih =>
    rw [files_cons, file, if_pos cut]
    exact ih

theorem files_append (run : Run) (raws more : List Text) :
    run.files c (raws ++ more) = (run.files c raws).files c more := List.foldl_append

theorem grows_file (c : Checker) (run : Run) (raw : Text) :
    run.writer.Grows (run.file c raw).writer := by
  cases cut : run.isCut with
  | true =>
    rw [file, if_pos cut]
    exact .refl _
  | false =>
    rw [file_eq_of_uncut cut]
    split
    · exact Writer.grows_put _ _
    · exact Writer.grows_put _ _

theorem grows_files (c : Checker) (run : Run) (raws : List Text) :
    run.writer.Grows (run.files c raws).writer := by
  induction raws generalizing run with
  | nil => exact .refl _
  | cons raw rest ih => exact (grows_file c run raw).trans (ih (run.file c raw))

theorem grows_take (c : Checker) (run : Run) (raws : List Text) (k : Nat) :
    (run.files c (raws.take k)).writer.Grows (run.files c raws).writer := by
  have whole : run.files c raws = (run.files c (raws.take k)).files c (raws.drop k) := by
    rw [← files_append, List.take_append_drop]
  rw [whole]
  exact grows_files c _ _

theorem grows_close (run : Run) : run.writer.Grows run.close.writer := by
  unfold close
  split
  · exact .refl _
  · exact Writer.grows_put _ _

/-- Beyond the limit no writer sees a difference. -/
theorem within_of_grows {later : Run} (grows : run.writer.Grows later.writer)
    (beyond : limit < run.writer.written.length) :
    (later.within limit).writer = (run.within limit).writer ∧
      (later.within limit).isCut = true := by
  obtain ⟨more, written⟩ := grows.written
  have length : later.writer.written.length = run.writer.written.length + more.length := by
    rw [← written, List.length_append]
  have full : limit - later.writer.written.length = limit - run.writer.written.length := by omega
  have first : later.writer.written.take limit = run.writer.written.take limit := by
    rw [← written, List.take_append_of_le_length (Nat.le_of_lt beyond)]
  simp only [within, grows.colour, full, first, true_and, decide_eq_true_eq]
  omega

theorem close_within (unbounded : run.writer.room = none) (uncut : run.isCut = false)
    (fits : run.writer.written.length ≤ limit) :
    (run.within limit).close = run.close.within limit := by
  have open_ : (run.within limit).isCut = false := decide_eq_false (Nat.not_lt.mpr fits)
  have noted : (run.note (.runComplete run.summary)).writer.room = none := unbounded
  simp only [close, uncut, open_, Bool.false_eq_true, if_false]
  exact report_within noted fits _

theorem fs_close (unlogged : run.journal = none) : run.close.fs = run.fs := by
  unfold close
  split
  · rfl
  · simp [report, note, unlogged]

/-- The number of reports up to the first that is over the limit, or all of them. -/
structure CutPoint (size : Nat → Nat) (count limit point : Nat) : Prop where
  inside : point ≤ count
  fits : ∀ earlier < point, size earlier ≤ limit
  beyond : point = count ∨ limit < size point

theorem CutPoint.zero (size : Nat → Nat) (limit : Nat) : CutPoint size 0 limit 0 :=
  ⟨Nat.le_refl 0, fun _ before => absurd before (Nat.not_lt_zero _), .inl rfl⟩

section
variable (unbounded : run.writer.room = none) (unlogged : run.journal = none)
  (uncut : run.isCut = false) (fits : run.writer.written.length ≤ limit)
include unbounded unlogged uncut fits

/-- By induction on the files: the limited run goes along until a report does not fit. -/
theorem files_within (raws : List Text) :
    ∃ point, CutPoint (fun k => (run.files c (raws.take k)).writer.written.length) raws.length limit
        point ∧
      ((run.within limit).files c raws).Follows (run.files c (raws.take point)) limit := by
  induction raws generalizing run with
  | nil => exact ⟨0, .zero _ _, .of_eq rfl, rfl⟩
  | cons raw rest ih =>
    have follows := file_within (c := c) unbounded uncut fits raw
    have next := file_eq (c := c) unbounded unlogged uncut raw
    have uncutNext : (run.file c raw).isCut = false := by rw [next]; exact uncut
    have cut := follows.isCut
    by_cases fitsNext : (run.file c raw).writer.written.length ≤ limit
    · have open_ : ((run.within limit).file c raw).isCut = false :=
        cut.trans (decide_eq_false (Nat.not_lt.mpr fitsNext))
      obtain ⟨point, ⟨inside, earlier, beyond⟩, restFollows⟩ := ih
        (by rw [next]; exact unbounded) (by rw [next]; exact unlogged) uncutNext fitsNext
      refine ⟨point + 1, ⟨Nat.succ_le_succ inside, ?_, ?_⟩, ?_⟩
      · intro k before
        cases k with
        | zero => exact fits
        | succ k => exact earlier k (Nat.lt_of_succ_lt_succ before)
      · exact beyond.imp_left (congrArg Nat.succ)
      · rw [← follows.uncut open_] at restFollows
        exact restFollows
    · have beyond : limit < (run.file c raw).writer.written.length := Nat.lt_of_not_le fitsNext
      refine ⟨1, ⟨Nat.succ_le_succ (Nat.zero_le _), ?_, .inr beyond⟩, ?_⟩
      · intro k before
        obtain rfl := Nat.lt_one_iff.mp before
        exact fits
      · rw [files_cons, files_of_cut (cut.trans (decide_eq_true beyond))]
        exact follows

/-- If all reports on files fit, only the closing one can be cut. -/
theorem close_files_within (raws : List Text) :
    let free := (run.files c raws).close
    let limited := ((run.within limit).files c raws).close
    limited.Mirrors free limit ∧
    ∃ point, CutPoint (fun k => (run.files c (raws.take k)).writer.written.length) raws.length limit
      point ∧ limited.fs = (run.files c (raws.take point)).fs := by
  intro free limited
  obtain ⟨point, cutPoint, follows⟩ := files_within (c := c) unbounded unlogged uncut fits raws
  have ran := files_eq (c := c) unbounded unlogged uncut
  cases cut : ((run.within limit).files c raws).isCut with
  | false =>
    have fitsThere := of_decide_eq_false (follows.isCut.symm.trans cut)
    have whole : point = raws.length := cutPoint.beyond.resolve_right fitsThere
    rw [whole, List.take_length] at follows fitsThere
    have same : limited = free.within limit := by
      simp only [limited, free, follows.uncut cut]
      apply close_within _ _ (Nat.le_of_not_lt fitsThere)
      · rw [ran]; exact unbounded
      · rw [ran]; exact uncut
    refine ⟨.of_eq same, point, cutPoint, ?_⟩
    rw [same, whole, List.take_length]
    exact fs_close (by rw [ran]; exact unlogged)
  | true =>
    have beyond := of_decide_eq_true (follows.isCut.symm.trans cut)
    have same : limited = (run.within limit).files c raws := if_pos cut
    have grows : (run.files c (raws.take point)).writer.Grows free.writer :=
      (grows_take c run raws point).trans (grows_close _)
    obtain ⟨writer, isCut⟩ := within_of_grows grows beyond
    rw [same]
    refine ⟨⟨writer ▸ follows.writer, cut.trans isCut.symm, ?_⟩, point, cutPoint, follows.fs⟩
    exact fun open_ => by cases cut.symm.trans open_

end

/-- The bytes of the reports on files that are processed one after another. -/
def reports (c : Checker) (fs : FileSystem) (colour : Bool) (raws : List Text) : Bytes :=
  Utf8.encode (Report.render colour (told (c.processAll fs raws).1))

/-- A run is cut exactly if its bytes go over the limit. It has then come to the first file whose
report does not fit, or past the last one. -/
theorem ofFiles_within {written : Bytes} (fits : written.length ≤ limit) (c : Checker)
    (raws : List Text) (fs : FileSystem) (colour : Bool) :
    let free := ofFiles c raws fs ⟨colour, none, written⟩
    let limited := ofFiles c raws fs ⟨colour, some (limit - written.length), written⟩
    limited.Mirrors free limit ∧
    ∃ point, CutPoint (fun k => written.length + (reports c fs colour (raws.take k)).length)
      raws.length limit point ∧ limited.fs = (c.processAll fs (raws.take point)).2 := by
  intro free limited
  let begun : Run := { fs, writer := ⟨colour, none, written⟩ }
  have start : begun.within limit =
      { fs, writer := ⟨colour, some (limit - written.length), written⟩ } := by
    simp [within, begun, List.take_of_length_le fits, Nat.not_lt.mpr fits]
  have unbounded : begun.writer.room = none := rfl
  by_cases given : raws = []
  · subst given
    have same : limited = free.within limit := by
      simp only [limited, ofFiles, if_true, ← start]
      exact report_within unbounded fits _
    refine ⟨.of_eq same, 0, .zero _ _, ?_⟩
    rw [same]
    rfl
  · have ran : ∀ raws, begun.files c raws =
        begun.after (c.processAll fs raws).1 (c.processAll fs raws).2 :=
      files_eq unbounded rfl rfl
    have size : ∀ raws, (begun.files c raws).writer.written.length =
        written.length + (reports c fs colour raws).length := by
      intro raws
      rw [ran, ← List.length_append]
      rfl
    have free_eq : free = (begun.files c raws).close := by
      simp only [free, ofFiles, if_neg given, begun]
    have limited_eq : limited = ((begun.within limit).files c raws).close := by
      simp only [limited, ofFiles, if_neg given, ← start]
    obtain ⟨mirrors, point, cutPoint, tree⟩ :=
      close_files_within (c := c) unbounded rfl rfl fits raws
    simp only [size] at cutPoint
    rw [free_eq, limited_eq]
    refine ⟨mirrors, point, cutPoint, ?_⟩
    rw [tree, ran]
    rfl

/-- Whatever becomes of its report, a run has processed so many of its files and no other. -/
theorem exists_take_ofFiles (c : Checker) (raws : List Text) (fs : FileSystem) (w : Writer) :
    ∃ count, (ofFiles c raws fs w).fs = (c.processAll fs (raws.take count)).2 := by
  obtain ⟨colour, _ | room, written⟩ := w
  · refine ⟨raws.length, ?_⟩
    rw [List.take_length]
    exact ofFiles_fs c raws fs colour written
  · have fits : written.length ≤ written.length + room := Nat.le_add_right _ _
    obtain ⟨_, count, _, tree⟩ := ofFiles_within fits c raws fs colour
    rw [Nat.add_sub_cancel_left] at tree
    exact ⟨count, tree⟩

theorem grows_ofFiles (c : Checker) (raws : List Text) (fs : FileSystem) (w : Writer) :
    w.Grows (ofFiles c raws fs w).writer := by
  unfold ofFiles
  split
  · exact Writer.grows_put _ _
  · exact (grows_files c { fs, writer := w } raws).trans (grows_close _)

/-- With room for so many bytes a run writes the first bytes of its report, in whatever parts they
come. If all of them fit it ends as without a limit. Otherwise it has no result, and in the tree it
has come to the first file whose report does not fit, or past the last one. -/
theorem ofFiles_limited (c : Checker) (raws : List Text) (fs : FileSystem) (colour : Bool)
    (room : Nat) :
    let free := ofFiles c raws fs ⟨colour, none, []⟩
    let run := ofFiles c raws fs ⟨colour, some room, []⟩
    run.writer.written = free.writer.written.take room ∧
    (∀ parts : List Bytes, parts.flatten = free.writer.written →
      Writer.putParts ⟨colour, some room, []⟩ parts =
        (run.writer, decide (free.writer.written.length ≤ room))) ∧
    (∃ summary, free.result? = some summary) ∧
    (run.result? = none ↔ room < free.writer.written.length) ∧
    (free.writer.written.length ≤ room → run.result? = free.result? ∧ run.fs = free.fs) ∧
    (room < free.writer.written.length →
      ∃ point, CutPoint (fun k => (reports c fs colour (raws.take k)).length) raws.length room
        point ∧ run.fs = (c.processAll fs (raws.take point)).2) := by
  intro free run
  have fits : ([] : Bytes).length ≤ room := Nat.zero_le room
  obtain ⟨⟨writer, isCut, uncut⟩, point, cutPoint, tree⟩ := ofFiles_within fits c raws fs colour
  have writer : run.writer = (free.within room).writer := writer
  have counted : free.result? = some _ := ofFiles_result c raws fs colour []
  have isCut_iff : run.isCut = true ↔ room < free.writer.written.length := by
    rw [show run.isCut = (free.within room).isCut from isCut]
    exact decide_eq_true_iff
  refine ⟨by rw [writer]; rfl, ?_, ⟨_, counted⟩, ?_, ?_, fun _ => ⟨point, ?_, tree⟩⟩
  · intro parts whole
    have colour_eq : free.writer.colour = colour := (grows_ofFiles c raws fs _).colour
    rw [Writer.putParts_eq, whole, writer, within, colour_eq]
    rfl
  · rw [← isCut_iff, result?]
    split <;> simp [*]
  · intro whole
    have open_ : run.isCut = false :=
      Bool.eq_false_iff.mpr fun cut => absurd (isCut_iff.mp cut) (Nat.not_lt.mpr whole)
    have same : run = free.within room := uncut open_
    refine ⟨?_, by rw [same]; rfl⟩
    rw [counted, result?_eq_some_iff]
    exact ⟨open_, by rw [same]; exact (result?_eq_some_iff.mp counted).2⟩
  · simpa using cutPoint

end Run

end PathHeader
