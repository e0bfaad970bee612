import PathHeader.Proofs.Decoding
import PathHeader.Proofs.Erasing
import PathHeader.Proofs.Room

/-! Reports with and without colours. Deleting the codes of colours leaves the same of both, since
every piece of a report ends where no code can have begun, whatever was put into it. -/
namespace PathHeader

open Terminal

namespace Piece

variable {bare : Bool} {piece : Piece}

/-- The piece is a change of the colour, or its text is closed. -/
def Closed : Piece → Prop
  | .text t => Terminal.Closed t
  | .bold _ => True
  | .plain => True

/-- What is left of the piece when codes are deleted. -/
def shown (bare : Bool) : Piece → Text
  | .text t => erase bare t
  | .bold _ => []
  | .plain => []

theorem shows_coloured (closed : piece.Closed) : Shows bare piece.coloured (piece.shown bare) := by
  cases piece with
  | text t => exact Terminal.Closed.shows closed
  | bold colour =>
    have one : IsCode bare (code "1") := isCode_code (by decide) rfl
    have number : IsCode bare (code (number colour)) := by
      cases colour <;> exact isCode_code (by decide) rfl
    exact (isCode_clear.shows.append one.shows).append number.shows
  | plain => exact isCode_clear.shows

theorem shows_uncoloured (closed : piece.Closed) :
    Shows bare piece.uncoloured (piece.shown bare) := by
  cases piece with
  | text t => exact Terminal.Closed.shows closed
  | bold colour => exact .nil
  | plain => exact .nil

end Piece

namespace Report

variable {bare : Bool}

/-- With colours or without, the same is left of the pieces. -/
theorem shows_render {pieces : List Piece} (closed : ∀ piece ∈ pieces, piece.Closed)
    (colour : Bool) : Shows bare (render colour pieces) (pieces.flatMap (Piece.shown bare)) := by
  induction pieces with
  | nil => exact .nil
  | cons piece rest ih =>
    obtain ⟨first, others⟩ := List.forall_mem_cons.mp closed
    rw [render, List.flatMap_cons, List.flatMap_cons, ← render]
    refine Shows.append ?_ (ih others)
    cases colour with
    | true => exact Piece.shows_coloured first
    | false => exact Piece.shows_uncoloured first

theorem closed_line (t : Text) : (line t).Closed := closed_concat t (by decide)

theorem closed_status {icon : Char} (closes : icon ≠ '\x1b' ∧ icon ≠ '[' ∧ icon.isDigit = false)
    (colour : Colour) (message : Text) : ∀ piece ∈ status icon colour message, piece.Closed := by
  simp only [status, List.forall_mem_cons]
  exact ⟨trivial, closed_concat [] closes, trivial, closed_line _, by simp⟩

theorem closed_fix (path : Text) (f : Fix) : ∀ piece ∈ fix path f, piece.Closed := by
  unfold fix
  rw [List.forall_mem_append]
  refine ⟨closed_status (by decide) _ _, ?_⟩
  split
  · simp [closed_line]
  · simp

theorem closed_outcome (path : Text) (o : Outcome) : ∀ piece ∈ outcome path o, piece.Closed := by
  cases o with
  | skipped => simp [outcome]
  | unchanged => simp [outcome]
  | fixed fixes =>
    intro piece told
    obtain ⟨f, _, told⟩ := List.mem_flatMap.mp told
    exact closed_fix path f piece told
  | readError failure => exact closed_status (by decide) _ _
  | writeError fixes failure => exact closed_status (by decide) _ _

theorem closed_summary (s : Summary) : ∀ piece ∈ summary s, piece.Closed := by
  simp only [summary, List.forall_mem_append]
  refine ⟨⟨?_, ?_⟩, ?_⟩
  · split
    · simp
    · simp [closed_line]
  · split
    · simp
    · exact closed_status (by decide) _ _
  · split
    · simp
    · exact closed_status (by decide) _ _

end Report

namespace Writer

variable {bare : Bool} {w v : Writer}

/-- Two writers without an end, on which the same is left when codes are deleted. -/
structure Alike (bare : Bool) (w v : Writer) : Prop where
  unbounded : w.room = none ∧ v.room = none
  shows : ∃ t u shown, w.written = Utf8.encode t ∧ v.written = Utf8.encode u ∧
    Shows bare t shown ∧ Shows bare u shown

/-- The same pieces may follow on both, with the colours that each of them has. -/
theorem Alike.append (alike : w.Alike bare v) {pieces : List Piece}
    (closed : ∀ piece ∈ pieces, piece.Closed) :
    Alike bare { w with written := w.written ++ Utf8.encode (Report.render w.colour pieces) }
      { v with written := v.written ++ Utf8.encode (Report.render v.colour pieces) } := by
  obtain ⟨unbounded, t, u, shown, ofW, ofV, shows, showsToo⟩ := alike
  refine ⟨unbounded, t ++ Report.render w.colour pieces, u ++ Report.render v.colour pieces,
    shown ++ pieces.flatMap (Piece.shown bare), ?_, ?_, ?_, ?_⟩
  · rw [Utf8.encode_append, ofW]
  · rw [Utf8.encode_append, ofV]
  · exact shows.append (Report.shows_render closed w.colour)
  · exact showsToo.append (Report.shows_render closed v.colour)

end Writer

namespace Run

variable {bare : Bool} {run other : Run}

/-- The same run so far, told to two writers. -/
inductive Retold (bare : Bool) : Run → Run → Prop where
  | intro (run : Run) {w v : Writer} : run.isCut = false → w.Alike bare v →
      Retold bare { run with writer := w } { run with writer := v }

theorem Retold.unbounded (retold : Retold bare run other) :
    run.writer.room = none ∧ other.writer.room = none := by
  cases retold with
  | intro run _ alike => exact alike.unbounded

theorem Retold.uncut (retold : Retold bare run other) :
    run.isCut = false ∧ other.isCut = false := by
  cases retold with
  | intro run uncut => exact ⟨uncut, uncut⟩

theorem Retold.note (retold : Retold bare run other) (event : Event) :
    Retold bare (run.note event) (other.note event) := by
  cases retold with
  | intro run uncut alike => exact .intro (run.note event) uncut alike

theorem Retold.report (retold : Retold bare run other) {pieces : List Piece}
    (closed : ∀ piece ∈ pieces, piece.Closed) :
    Retold bare (run.report pieces) (other.report pieces) := by
  obtain ⟨unbounded, unboundedToo⟩ := retold.unbounded
  rw [report_eq unbounded, report_eq unboundedToo]
  cases retold with
  | intro run _ alike => exact .intro { run with isCut := false } rfl (alike.append closed)

theorem Retold.counted (retold : Retold bare run other) (summary : Summary) :
    Retold bare { run with summary } { other with summary } := by
  cases retold with
  | intro run uncut alike => exact .intro { run with summary } uncut alike

/-- One file: what it comes to depends on the tree alone, and both are told the same of it. -/
theorem Retold.file (retold : Retold bare run other) (c : Checker) (raw : Text) :
    Retold bare (run.file c raw) (other.file c raw) := by
  obtain ⟨uncut, uncutToo⟩ := retold.uncut
  have told : Retold bare (announced c run raw) (announced c other raw) := by
    cases retold with
    | intro run uncut alike =>
      let processed : Run := { run with fs := (c.process run.fs raw).2 }
      exact (Retold.note (.intro processed uncut alike) _).report (Report.closed_outcome raw _)
  obtain ⟨open_, openToo⟩ := told.uncut
  -- No report is cut, so that both runs count the file.
  rw [file_eq_of_uncut uncut, file_eq_of_uncut uncutToo, open_, openToo]
  cases retold with
  | intro run => exact told.counted (run.summary.record (c.process run.fs raw).1)

theorem Retold.files (retold : Retold bare run other) (c : Checker) (raws : List Text) :
    Retold bare (run.files c raws) (other.files c raws) := by
  induction raws generalizing run other with
  | nil => exact retold
  | cons raw rest ih => exact ih (retold.file c raw)

theorem Retold.close (retold : Retold bare run other) : Retold bare run.close other.close := by
  cases retold with
  | intro run uncut alike =>
    simp only [Run.close, uncut, Bool.false_eq_true, if_false]
    exact (Retold.note (.intro run uncut alike) _).report (Report.closed_summary run.summary)

theorem retold_ofFiles {w v : Writer} (alike : w.Alike bare v) (c : Checker) (raws : List Text)
    (fs : FileSystem) (journal : Option Journal) :
    Retold bare (ofFiles c raws fs w journal) (ofFiles c raws fs v journal) := by
  have begun : Retold bare { fs, writer := w, journal } { fs, writer := v, journal } :=
    .intro { fs, writer := w, journal } rfl alike
  unfold ofFiles
  split
  · exact begun.report (by simp [Report.noFiles, Report.closed_line])
  · exact (begun.files c raws).close

/-- Colours add codes and nothing else. Two runs over the same files, one reported with colours and
one without, have the same result and leave the same tree, log file included; and when codes are
deleted from left to right the same is left of both reports, even if paths, lines and errors have
escapes in them. Without an escape in the plain report that is the plain report. -/
theorem erase_report (bare : Bool) (c : Checker) (raws : List Text) (fs : FileSystem)
    (journal : Option Journal) :
    let coloured := ofFiles c raws fs ⟨true, none, []⟩ journal
    let uncoloured := ofFiles c raws fs ⟨false, none, []⟩ journal
    (∃ summary, coloured.result? = some summary ∧ uncoloured.result? = some summary) ∧
    coloured.fs = uncoloured.fs ∧ coloured.events = uncoloured.events ∧
    ∃ t u, Utf8.decode coloured.writer.written = .ok t ∧
      Utf8.decode uncoloured.writer.written = .ok u ∧
      erase bare t = erase bare u ∧ ('\x1b' ∉ u → erase bare t = u) := by
  have alike : Writer.Alike bare ⟨true, none, []⟩ ⟨false, none, []⟩ :=
    ⟨⟨rfl, rfl⟩, [], [], [], rfl, rfl, .nil, .nil⟩
  have retold := retold_ofFiles alike c raws fs journal
  intro coloured uncoloured
  change Retold bare coloured uncoloured at retold
  generalize coloured = run at retold ⊢
  generalize uncoloured = other at retold ⊢
  cases retold with
  | intro run uncut alike =>
    obtain ⟨_, t, u, shown, ofRun, ofOther, shows, showsToo⟩ := alike
    have left : erase bare t = erase bare u := shows.erase_eq.trans showsToo.erase_eq.symm
    refine ⟨⟨run.summary, ?_, ?_⟩, rfl, rfl, t, u, ?_, ?_, left, fun plain => ?_⟩
    · exact result?_eq_some_iff.mpr ⟨uncut, rfl⟩
    · exact result?_eq_some_iff.mpr ⟨uncut, rfl⟩
    · exact (Utf8.decode_eq_ok_iff _ _).mpr ofRun
    · exact (Utf8.decode_eq_ok_iff _ _).mpr ofOther
    · rw [left, erase_eq_self plain]

end Run

end PathHeader
