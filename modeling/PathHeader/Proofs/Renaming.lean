import PathHeader.Proofs.Terminators

/-! A file under a new name. A repair under the old path leaves no trace in what a repair under the
new path writes, so that the two come to the same as the second alone; only a carriage return that
ends the text without a line feed can become part of a terminator in between. -/
namespace PathHeader

namespace Terminator

/-- The terminator of a line once it is closed, if nothing at its end joins with a new one. -/
def closed (ending : Terminator) (line : Text) : Terminator :=
  if ofLine line = .none then ending else ofLine line

theorem text_injective {s t : Terminator} (same : s.text = t.text) : s = t := by
  rw [← ofLine_text s, same, ofLine_text]

theorem ending_of_bare {first : Text} (bare : ofLine first = .none) (rest : Lines) :
    Lines.ending (first :: rest) = .lf := by
  rw [Lines.ending, bare, if_neg (by decide)]

/-- Closing a line takes a carriage return at its end for a part of the terminator. -/
theorem ofLine_close_eq_closed_iff (first : Text) (rest : Lines) :
    let ending := Lines.ending (first :: rest)
    ofLine (ending.close first) = ending.closed first ↔ first.getLast? ≠ some '\r' := by
  intro ending
  by_cases bare : ofLine first = .none
  · have lf : ending = .lf := ending_of_bare bare rest
    rw [closed, if_pos bare, close, if_neg ((ofLine_eq_none_iff first).mp bare), lf, text,
      ofLine_newline]
    split_ifs with returned
    · simp [returned]
    · simp [returned]
  · rw [closed, if_neg bare, close_eq_self bare, (ofLine_ne_none_iff first).mp bare]
    simp

theorem trimEnd_close (ending : Terminator) (line : Text) :
    Text.trimEnd (ending.close line) = Text.trimEnd line := by
  rw [close]
  split_ifs
  · rfl
  · exact ending.trimEnd_append_text line

end Terminator

namespace Header

variable {marker old new expected first : Text} {lines rest : Lines}

/-- A header behind which a terminator was written is replaced, and the terminator kept. -/
theorem corrected_written (oldSolid : Text.trimEnd old = old) (oldOpen : old.Open) (new : Text)
    (t : Terminator) : corrected new (old ++ t.text) = new ++ t.text := by
  have shown : Text.trimEnd (old ++ t.text) = old := (t.trimEnd_append_text old).trans oldSolid
  rw [corrected, shown, Terminator.ofLine_append_text oldOpen]
  split_ifs with same
  · rw [same]
  · rfl

theorem corrected_of_eq (right : Text.trimEnd first = expected) :
    corrected expected first = first :=
  if_pos right

theorem corrected_of_ne (wrong : Text.trimEnd first ≠ expected) :
    corrected expected first = expected ++ (Terminator.ofLine first).text := if_neg wrong

theorem close_corrected_of_ne (wrong : Text.trimEnd first ≠ expected) (opened : expected.Open)
    (ending : Terminator) :
    ending.close (corrected expected first) = expected ++ (ending.closed first).text := by
  have line := ofLine_corrected opened first
  rw [Terminator.closed]
  split_ifs with bare
  · rw [bare] at line
    rw [Terminator.close, if_neg ((Terminator.ofLine_eq_none_iff _).mp line),
      corrected_of_ne wrong, bare, Terminator.text, List.append_nil]
  · rw [Terminator.close_eq_self (line.trans_ne bare), corrected_of_ne wrong]

/-- The lines below the header, the first of them blank. -/
def below (ending : Terminator) : Lines → Lines
  | [] => [ending.text]
  | second :: rest =>
    if Text.trimEnd second = [] then second :: rest else ending.text :: second :: rest

theorem exists_below (ending : Terminator) (rest : Lines) :
    ∃ second more, below ending rest = second :: more ∧ Text.trimEnd second = [] := by
  cases rest with
  | nil => exact ⟨_, _, rfl, ending.trimEnd_text⟩
  | cons second more =>
    rw [below]
    split_ifs with blank
    · exact ⟨_, _, rfl, blank⟩
    · exact ⟨_, _, rfl, ending.trimEnd_text⟩

/-- What stands below the header does not depend on the path. -/
theorem repair_of_marked (canonical : Lines.Canonical (first :: rest)) (opened : expected.Open)
    (marked : marker <+: Text.trimEnd first) :
    let ending := Lines.ending (first :: rest)
    (repair marker expected (first :: rest)).1 =
      ending.close (corrected expected first) :: below ending rest := by
  intro ending
  cases rest with
  | nil =>
    rw [repair_singleton _ marked]
    rfl
  | cons second more =>
    obtain ⟨_, ended, _⟩ := Lines.canonical_cons_iff.mp canonical
    have ended : Terminator.ofLine first ≠ .none :=
      (Terminator.ofLine_ne_none_iff first).mpr (ended (List.cons_ne_nil second more))
    rw [repair_cons _ marked,
      Terminator.close_eq_self ((ofLine_corrected opened first).trans_ne ended)]
    rfl

/-- Below a blank line nothing is left to repair. -/
theorem repair_of_blank (marked : marker <+: Text.trimEnd first)
    (blank : ∃ second more, rest = second :: more ∧ Text.trimEnd second = []) :
    (repair marker expected (first :: rest)).1 = corrected expected first :: rest := by
  obtain ⟨second, more, rfl, blank⟩ := blank
  rw [repair_cons _ marked, if_pos blank]

theorem repair_repair_of_written (marked : marker <+: old) (oldSolid : Text.trimEnd old = old)
    (oldOpen : old.Open) (new : Text) (t : Terminator) (lines : Lines) :
    (repair marker new ((old ++ t.text) :: t.text :: lines)).1 =
      (new ++ t.text) :: t.text :: lines := by
  have shown : Text.trimEnd (old ++ t.text) = old := (t.trimEnd_append_text old).trans oldSolid
  have marked : marker <+: Text.trimEnd (old ++ t.text) := by rwa [shown]
  rw [repair_of_blank marked ⟨_, _, rfl, t.trimEnd_text⟩, corrected_written oldSolid oldOpen]

theorem trimEnd_corrected (solid : Text.trimEnd expected = expected) (first : Text) :
    Text.trimEnd (corrected expected first) = expected := by
  rw [corrected]
  split_ifs with right
  · exact right
  · exact (Terminator.trimEnd_append_text expected _).trans solid

/-- Both repairs write what the second alone writes, unless the first one closes a line that shows
its header already and ends in a carriage return. -/
theorem repair_repair_eq_iff (canonical : lines.Canonical) (marked : marker <+: old)
    (oldSolid : Text.trimEnd old = old) (oldOpen : old.Open) (newOpen : new.Open)
    (outdated : ∀ first ∈ lines.head?, Text.trimEnd first ≠ new) :
    (repair marker new (repair marker old lines).1).1 = (repair marker new lines).1 ↔
      ¬ ∃ line, lines = [line] ∧ Text.trimEnd line = old ∧ line.getLast? = some '\r' := by
  cases lines with
  | nil =>
    rw [repair_nil, repair_nil]
    apply iff_of_true
    · exact repair_repair_of_written marked oldSolid oldOpen new .lf []
    · rintro ⟨line, none, _⟩
      cases none
  | cons first rest =>
    by_cases isHeader : marker <+: Text.trimEnd first
    · let ending := Lines.ending (first :: rest)
      have wrong : Text.trimEnd first ≠ new := outdated first rfl
      have shown : Text.trimEnd (ending.close (corrected old first)) = old :=
        (ending.trimEnd_close _).trans (trimEnd_corrected oldSolid first)
      have shownMarked : marker <+: Text.trimEnd (ending.close (corrected old first)) := by
        rwa [shown]
      rw [repair_of_marked canonical oldOpen isHeader,
        repair_of_blank shownMarked (exists_below ending rest),
        repair_of_marked canonical newOpen isHeader, close_corrected_of_ne wrong newOpen,
        List.cons.injEq, and_iff_left rfl]
      by_cases right : Text.trimEnd first = old
      · -- the line is only closed at first, and then its terminator decides
        rw [corrected_of_eq right] at shown ⊢
        rw [corrected_of_ne (shown.trans_ne (right ▸ wrong)), List.append_cancel_left_eq]
        constructor
        · rintro same ⟨line, only, _, returned⟩
          cases only
          exact (Terminator.ofLine_close_eq_closed_iff first []).mp
            (Terminator.text_injective same) returned
        · intro unreturned
          rw [(Terminator.ofLine_close_eq_closed_iff first rest).mpr]
          intro returned
          have last : rest = [] := by
            by_contra more
            have ended := (Lines.canonical_cons_iff.mp canonical).2.1 more
            rw [returned] at ended
            cases ended
          exact unreturned ⟨first, by rw [last], right, returned⟩
      · rw [close_corrected_of_ne right oldOpen, corrected_written oldSolid oldOpen]
        apply iff_of_true rfl
        rintro ⟨line, only, same, _⟩
        cases only
        exact right same
    · rw [repair_of_unmarked _ isHeader, repair_of_unmarked _ isHeader,
        repair_repair_of_written marked oldSolid oldOpen]
      apply iff_of_true rfl
      rintro ⟨line, only, same, _⟩
      cases only
      exact isHeader (same ▸ marked)

end Header

namespace Lines

variable {line t : Text}

theorem split_eq_singleton_iff :
    split t = [line] ↔ t = line ∧ line ≠ [] ∧ '\n' ∉ line.dropLast := by
  rw [split_eq_iff, canonical_cons_iff]
  simp [join, Canonical]

theorem exists_returned_split_iff {expected : Text} :
    (∃ line, split t = [line] ∧ Text.trimEnd line = expected ∧ line.getLast? = some '\r') ↔
      '\n' ∉ t ∧ t.getLast? = some '\r' ∧ Text.trimEnd t = expected := by
  constructor
  · rintro ⟨line, only, shown, returned⟩
    obtain ⟨rfl, _, oneLine⟩ := split_eq_singleton_iff.mp only
    refine ⟨?_, returned, shown⟩
    obtain ⟨before, rfl⟩ := List.getLast?_eq_some_iff.mp returned
    simpa using oneLine
  · rintro ⟨unbroken, returned, shown⟩
    refine ⟨t, split_eq_singleton_iff.mpr ⟨rfl, ?_, ?_⟩, shown, returned⟩
    · rintro rfl
      cases returned
    · exact fun found => unbroken (List.dropLast_subset t found)

end Lines

namespace Header

variable {marker left right : Text} {path : RepoPath}

theorem split_repairText (accepted : Config.isMarker marker = true) (showable : path.Showable)
    (content : Text) : Lines.split (repairText marker path content) =
      (repair marker (path.header marker) (Lines.split content)).1 :=
  (repair_settles accepted showable content).1

theorem repairText_eq_iff (accepted : Config.isMarker marker = true) (showable : path.Showable) :
    repairText marker path left = repairText marker path right ↔
      (repair marker (path.header marker) (Lines.split left)).1 =
        (repair marker (path.header marker) (Lines.split right)).1 := by
  constructor
  · intro same
    rw [← split_repairText accepted showable, same, split_repairText accepted showable]
  · intro same
    rw [repairText, same, repairText]

/-- A file is renamed between two repairs. The second repair writes what it would have written
without the first one, unless the text is a single line that ends in a carriage return and no line
feed, and shows the old header already: closing it makes the carriage return part of a terminator
that the second repair keeps. -/
theorem repairText_renamed_eq_iff (accepted : Config.isMarker marker = true) {old new : RepoPath}
    (oldShowable : old.Showable) (newShowable : new.Showable) {content : Text}
    (outdated : ∀ first ∈ (Lines.split content).head?, Text.trimEnd first ≠ new.header marker) :
    repairText marker new (repairText marker old content) = repairText marker new content ↔
      ¬ ('\n' ∉ content ∧ content.getLast? = some '\r' ∧
        Text.trimEnd content = old.header marker) := by
  have solid := ((RepoPath.showable_iff accepted old).mp oldShowable).2
  rw [repairText_eq_iff accepted newShowable, split_repairText accepted oldShowable,
    ← Lines.exists_returned_split_iff]
  apply repair_repair_eq_iff (Lines.canonical_split content) (List.prefix_append marker _)
    (Text.trimEnd_eq_self solid)
  · exact RepoPath.open_header oldShowable.solid marker
  · exact RepoPath.open_header newShowable.solid marker
  · exact outdated

/-- A header with blanks and a carriage return behind it goes its way through two repairs; a
carriage return that ends the text does not. -/
theorem moved_to_src :
    let slashes := "//".toList
    let old := RepoPath.normalize "lib/a.js".toList
    let new := RepoPath.normalize "src/a.js".toList
    let content : Text := "// lib/a.js \r\nx".toList
    let returned : Text := "// lib/a.js\r".toList
    Config.isMarker slashes = true ∧ old.Showable ∧ new.Showable ∧
      (∀ first ∈ (Lines.split content).head?, Text.trimEnd first ≠ new.header slashes) ∧
      repairText slashes new content = "// src/a.js\r\n\r\nx".toList ∧
      repairText slashes new (repairText slashes old content) = repairText slashes new content ∧
      (∀ first ∈ (Lines.split returned).head?, Text.trimEnd first ≠ new.header slashes) ∧
      repairText slashes new (repairText slashes old returned) ≠
        repairText slashes new returned := by
  intro slashes old new content returned
  have accepted : Config.isMarker slashes = true := by decide
  have oldShowable : old.Showable := by decide
  have newShowable : new.Showable := by decide
  have outdated : ∀ first ∈ (Lines.split content).head?,
      Text.trimEnd first ≠ new.header slashes := by decide
  have returnedOutdated : ∀ first ∈ (Lines.split returned).head?,
      Text.trimEnd first ≠ new.header slashes := by decide
  have shows : '\n' ∉ returned ∧ returned.getLast? = some '\r' ∧
      Text.trimEnd returned = old.header slashes := by decide
  have same := (repairText_renamed_eq_iff accepted oldShowable newShowable outdated).mpr (by decide)
  have differ := (repairText_renamed_eq_iff accepted oldShowable newShowable returnedOutdated).mp
  refine ⟨accepted, oldShowable, newShowable, outdated, ?_, same, returnedOutdated, ?_⟩
  · subst slashes new content
    cbv
  · exact fun equal => differ equal shows

end Header

end PathHeader
