import PathHeader.Proofs.Convergence

/-! The fixes that a repair names, taken as edits. They are all that happens to the lines, and each
is named exactly under its own condition on the first two lines. -/
namespace PathHeader

namespace Terminator

/-- A line as it is, or closed with a terminator if it has none. -/
def close (ending : Terminator) (line : Text) : Text :=
  if line.getLast? = some '\n' then line else line ++ ending.text

end Terminator

/-- The edit that a fix stands for. -/
def Fix.edit (expected : Text) (ending : Terminator) : Fix → Lines → Lines
  | .emptyFile, lines => (expected ++ ending.text) :: ending.text :: lines
  | .missingHeader, lines => (expected ++ ending.text) :: ending.text :: lines
  | .wrongPath _ now, first :: rest => (now ++ (Terminator.ofLine first).text) :: rest
  | .missingLastBlank, header :: rest => ending.close header :: ending.text :: rest
  | .missingBlank, header :: rest => header :: ending.text :: rest
  | _, [] => []

namespace Header

variable {marker expected first second : Text} {ending : Terminator} {lines rest : Lines}

/-- The first line of a file that has a header comment, with the path that it should have. -/
def corrected (expected first : Text) : Text :=
  if Text.trimEnd first = expected then first else expected ++ (Terminator.ofLine first).text

def correction (expected first : Text) : List Fix :=
  if Text.trimEnd first = expected then [] else [.wrongPath (Text.trimEnd first) expected]

theorem repairFirst_of_marked (marked : marker <+: Text.trimEnd first) (rest : Lines) :
    repairFirst marker expected ending (first :: rest) =
      (corrected expected first :: rest, correction expected first) := by
  by_cases right : Text.trimEnd first = expected
  · subst right
    simp [repairFirst, corrected, correction, marked]
  · simp [repairFirst, corrected, correction, marked, right]

theorem repair_nil (marker expected : Text) :
    repair marker expected [] = ([expected ++ ['\n'], ['\n']], [.emptyFile]) := by
  have blank : Text.trimEnd ['\n'] = [] := Terminator.lf.trimEnd_text
  simp [repair, repairFirst, repairSecond, Lines.ending, Terminator.text, blank]

theorem repair_of_unmarked (expected : Text) (unmarked : ¬ marker <+: Text.trimEnd first)
    (rest : Lines) :
    let eol := (Lines.ending (first :: rest)).text
    repair marker expected (first :: rest) =
      ((expected ++ eol) :: eol :: first :: rest, [.missingHeader]) := by
  have unmarked : marker.isPrefixOf (Text.trimEnd first) = false := by
    rw [Bool.eq_false_iff, ne_eq, List.isPrefixOf_iff_prefix]
    exact unmarked
  simp [repair, repairFirst, repairSecond, unmarked, Terminator.trimEnd_text]

theorem repair_singleton (expected : Text) (marked : marker <+: Text.trimEnd first) :
    let ending := Lines.ending [first]
    repair marker expected [first] = ([ending.close (corrected expected first), ending.text],
      correction expected first ++ [.missingLastBlank]) := by
  simp only [repair, repairFirst_of_marked marked, repairSecond, Terminator.ofLine_eq_none_iff,
    Terminator.close, ite_not]

theorem repair_cons (expected : Text) (marked : marker <+: Text.trimEnd first) (second : Text)
    (rest : Lines) :
    let eol := (Lines.ending (first :: second :: rest)).text
    repair marker expected (first :: second :: rest) =
      (corrected expected first ::
        (if Text.trimEnd second = [] then second :: rest else eol :: second :: rest),
        correction expected first ++ if Text.trimEnd second = [] then [] else [.missingBlank]) := by
  simp only [repair, repairFirst_of_marked marked, repairSecond]
  split_ifs <;> rfl

theorem ending_text_of_crlf (closed : ['\r', '\n'] <:+ first) (rest : Lines) :
    (Lines.ending (first :: rest)).text = ['\r', '\n'] := by
  have crlf : Terminator.ofLine first = .crlf := by
    rw [Terminator.ofLine, if_pos (List.isSuffixOf_iff_suffix.mpr closed)]
  rw [Lines.ending, if_pos crlf]
  rfl

theorem ending_text_of_not_crlf
    (other : ∀ first rest, lines = first :: rest → ¬ ['\r', '\n'] <:+ first) :
    lines.ending.text = ['\n'] := by
  cases lines with
  | nil => rfl
  | cons first rest =>
    have notCrlf : Terminator.ofLine first ≠ .crlf := by
      have other := other first rest rfl
      unfold Terminator.ofLine
      split_ifs <;> simp_all
    rw [Lines.ending, if_neg notCrlf]
    rfl

theorem foldl_correction (expected first : Text) (rest : Lines) (ending : Terminator) :
    (correction expected first).foldl (fun lines fix => fix.edit expected ending lines)
      (first :: rest) = corrected expected first :: rest := by
  unfold correction corrected
  split_ifs <;> rfl

/-- A repair makes the edits that it names and no others. -/
theorem foldl_edit_repair (marker expected : Text) (lines : Lines) :
    (repair marker expected lines).2.foldl
      (fun edited fix => fix.edit expected lines.ending edited) lines =
      (repair marker expected lines).1 := by
  cases lines with
  | nil =>
    rw [repair_nil]
    rfl
  | cons first rest =>
    by_cases marked : marker <+: Text.trimEnd first
    · cases rest with
      | nil =>
        rw [repair_singleton _ marked, List.foldl_append, foldl_correction]
        rfl
      | cons second rest =>
        rw [repair_cons _ marked, List.foldl_append, foldl_correction]
        dsimp only
        split_ifs <;> rfl
    · rw [repair_of_unmarked _ marked]
      rfl

/-- The fixes tell the repair in full: they are one of eight lists, each fix is named exactly under
its condition on the first two lines, and carried out one after another they lead from the lines to
the repaired lines, in which all other lines stand as they were. -/
theorem repair_script (marker expected : Text) (lines : Lines) :
    let repaired := (repair marker expected lines).1
    let fixes := (repair marker expected lines).2
    let eol := lines.ending.text
    (∀ first rest, lines = first :: rest → ['\r', '\n'] <:+ first → eol = ['\r', '\n']) ∧
    ((∀ first rest, lines = first :: rest → ¬ ['\r', '\n'] <:+ first) → eol = ['\n']) ∧
    fixes.foldl (fun edited fix => fix.edit expected lines.ending edited) lines = repaired ∧
    (∃ was, fixes ∈ [[], [.emptyFile], [.missingHeader], [.wrongPath was expected],
      [.missingLastBlank], [.missingBlank], [.wrongPath was expected, .missingLastBlank],
      [.wrongPath was expected, .missingBlank]]) ∧
    (fixes = [.emptyFile] ↔ lines = []) ∧
    (lines = [] → repaired = [expected ++ eol, eol]) ∧
    ∀ first rest, lines = first :: rest →
      (fixes = [.missingHeader] ↔ ¬ marker <+: Text.trimEnd first) ∧
      (¬ marker <+: Text.trimEnd first → repaired = (expected ++ eol) :: eol :: lines) ∧
      (∀ was now, .wrongPath was now ∈ fixes ↔ marker <+: Text.trimEnd first ∧
        Text.trimEnd first ≠ expected ∧ was = Text.trimEnd first ∧ now = expected) ∧
      (.missingLastBlank ∈ fixes ↔ marker <+: Text.trimEnd first ∧ rest = []) ∧
      (.missingBlank ∈ fixes ↔ marker <+: Text.trimEnd first ∧
        ∃ second more, rest = second :: more ∧ Text.trimEnd second ≠ []) ∧
      (marker <+: Text.trimEnd first → ∃ header,
        (Text.trimEnd first = expected → header = first) ∧
        (Text.trimEnd first ≠ expected → header = expected ++ (Terminator.ofLine first).text) ∧
        (rest = [] → repaired =
          [if header.getLast? = some '\n' then header else header ++ eol, eol]) ∧
        ∀ second more, rest = second :: more → repaired =
          header :: if Text.trimEnd second = [] then rest else eol :: rest) := by
  intro repaired fixes eol
  refine ⟨?_, ending_text_of_not_crlf, foldl_edit_repair marker expected lines, ?_⟩
  · rintro first rest rfl closed
    exact ending_text_of_crlf closed rest
  cases lines with
  | nil =>
    have made := repair_nil marker expected
    simp [repaired, fixes, made, eol, Lines.ending, Terminator.text]
  | cons first rest =>
    by_cases marked : marker <+: Text.trimEnd first
    · cases rest with
      | nil =>
        have made := repair_singleton expected marked
        by_cases right : Text.trimEnd first = expected
        · subst right
          simp [repaired, fixes, made, correction, corrected, marked, Terminator.close, eol]
        · simp [repaired, fixes, made, correction, corrected, right, marked, Terminator.close, eol]
      | cons second more =>
        have made := repair_cons expected marked second more
        by_cases right : Text.trimEnd first = expected
        · subst right
          by_cases blank : Text.trimEnd second = [] <;>
            simp [repaired, fixes, made, correction, corrected, marked, blank, eol]
        · by_cases blank : Text.trimEnd second = [] <;>
            simp [repaired, fixes, made, correction, corrected, right, marked, blank, eol]
    · have made := repair_of_unmarked expected marked rest
      simp [repaired, fixes, made, marked, eol]

example : repair "//".toList "// a.js".toList ["// b.js".toList] =
    (["// a.js\n".toList, "\n".toList],
      [.wrongPath "// b.js".toList "// a.js".toList, .missingLastBlank]) := by cbv

end Header

end PathHeader
