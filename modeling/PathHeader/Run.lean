import PathHeader.Writer
import PathHeader.Log.Journal

/-! A run over a list of paths, one after another in the order given. A report that the writer
cannot take in full cuts the run: files after it are not looked at. -/
namespace PathHeader

structure Run where
  fs : FileSystem
  writer : Writer
  summary : Summary := {}
  events : List Event := []
  /-- The file that takes the events down as they happen, if there is one. -/
  journal : Option Journal := none
  isCut : Bool := false
  deriving Repr, DecidableEq

namespace Run

def note (run : Run) (event : Event) : Run :=
  let fs := match run.journal with
    | none => run.fs
    | some journal => journal.write event run.fs
  { run with fs, events := run.events ++ [event] }

def report (run : Run) (pieces : List Piece) : Run :=
  let (writer, complete) := run.writer.put pieces
  { run with writer, isCut := !complete }

/-- Checks a file and reports on it. A file whose report was cut is not counted. -/
def file (checker : Checker) (run : Run) (raw : Text) : Run :=
  if run.isCut then run
  else
    let (outcome, fs) := checker.process run.fs raw
    let reported := ({ run with fs }.note (.ofOutcome raw outcome)).report
      (Report.outcome raw outcome)
    if reported.isCut then reported
    else { reported with summary := run.summary.record outcome }

def files (checker : Checker) (run : Run) (raws : List Text) : Run :=
  raws.foldl (file checker) run

def close (run : Run) : Run :=
  if run.isCut then run
  else (run.note (.runComplete run.summary)).report (Report.summary run.summary)

def ofFiles (checker : Checker) (raws : List Text) (fs : FileSystem) (writer : Writer)
    (journal : Option Journal := none) : Run :=
  let start : Run := { fs, writer, journal }
  if raws = [] then start.report Report.noFiles else (start.files checker raws).close

def result? (run : Run) : Option Summary := if run.isCut then none else some run.summary

end Run

end PathHeader
