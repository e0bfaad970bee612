import PathHeader.Lines

/-! The header of a file is its first two lines: the expected text, then a blank line. Repair
touches nothing else, and says what it did. -/
namespace PathHeader

inductive Fix
  | emptyFile
  | missingHeader
  /-- The comment that stood on the first line, without blanks at its end, and what stands now. -/
  | wrongPath (was now : Text)
  | missingLastBlank
  | missingBlank
  deriving Repr, DecidableEq

namespace Fix

def message : Fix → Text
  | .emptyFile => "Added header to empty file".toList
  | .missingHeader => "Added missing header comment".toList
  | .wrongPath _ _ => "Fixed header path".toList
  | .missingLastBlank => "Added missing blank line after header".toList
  | .missingBlank => "Added blank line after header".toList

end Fix

namespace Header

/-- Lines after a repair, with the repairs in the order in which they were made. -/
abbrev Repair := Lines × List Fix

/-- Puts the expected text on the first line. A line that starts with the marker is taken for an
outdated header and replaced; any other is kept below a new header. -/
def repairFirst (marker expected : Text) (ending : Terminator) : Lines → Repair
  | [] => ([expected ++ ending.text, ending.text], [.emptyFile])
  | first :: rest =>
    let shown := Text.trimEnd first
    if !marker.isPrefixOf shown then
      ((expected ++ ending.text) :: ending.text :: first :: rest, [.missingHeader])
    else if shown ≠ expected then
      ((expected ++ (Terminator.ofLine first).text) :: rest, [.wrongPath shown expected])
    else (first :: rest, [])

def repairSecond (ending : Terminator) : Lines → Repair
  | [] => ([], [])
  | [header] =>
    let closed := if Terminator.ofLine header = .none then header ++ ending.text else header
    ([closed, ending.text], [.missingLastBlank])
  | header :: second :: rest =>
    if Text.trimEnd second = [] then (header :: second :: rest, [])
    else (header :: ending.text :: second :: rest, [.missingBlank])

def repair (marker expected : Text) (lines : Lines) : Repair :=
  let ending := lines.ending
  let (withHeader, firstFixes) := repairFirst marker expected ending lines
  let (repaired, secondFixes) := repairSecond ending withHeader
  (repaired, firstFixes ++ secondFixes)

/-- A header that needs no repair, said without the repair. -/
def Valid (expected : Text) (lines : Lines) : Prop :=
  ∃ first second rest, lines = first :: second :: rest ∧
    Text.trimEnd first = expected ∧ Text.trimEnd second = []

end Header

end PathHeader
