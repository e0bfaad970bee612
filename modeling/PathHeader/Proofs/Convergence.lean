import Mathlib
import PathHeader.Proofs.Judging
import PathHeader.Proofs.Splitting

/-! One repair is enough. The repaired lines are canonical and their header is valid, so that
writing them out and splitting again finds nothing more to do; under a path that no first line can
show, no text is ever valid. -/
namespace PathHeader

/-- A path that a first line can show: neither a line feed nor the trimming of the line breaks it.
-/
structure RepoPath.Showable (p : RepoPath) : Prop where
  filled : p.text ≠ []
  oneLine : '\n' ∉ p.text
  solid : ∀ c ∈ p.text.getLast?, Text.isBlank c = false

theorem RepoPath.showable_iff_all (p : RepoPath) : p.Showable ↔
    p.text ≠ [] ∧ '\n' ∉ p.text ∧ p.text.getLast?.all (fun c => !Text.isBlank c) = true := by
  have last : (∀ c ∈ p.text.getLast?, Text.isBlank c = false) ↔
      p.text.getLast?.all (fun c => !Text.isBlank c) = true := by
    cases p.text.getLast? <;> simp
  rw [← last]
  constructor
  · rintro ⟨filled, oneLine, solid⟩
    exact ⟨filled, oneLine, solid⟩
  · rintro ⟨filled, oneLine, solid⟩
    exact ⟨filled, oneLine, solid⟩

instance (p : RepoPath) : Decidable p.Showable := decidable_of_iff _ p.showable_iff_all.symm

namespace Terminator

theorem isBlank_of_mem_text (t : Terminator) : ∀ c ∈ t.text, Text.isBlank c = true := by
  have blank : t.text.all Text.isBlank = true := by cases t <;> decide
  exact List.all_eq_true.mp blank

theorem trimEnd_append_text (line : Text) (t : Terminator) :
    Text.trimEnd (line ++ t.text) = Text.trimEnd line :=
  Text.trimEnd_append t.isBlank_of_mem_text

theorem trimEnd_text (t : Terminator) : Text.trimEnd t.text = [] := t.trimEnd_append_text []

theorem ofLine_eq_none_iff (line : Text) : ofLine line = .none ↔ line.getLast? ≠ some '\n' := by
  have ended : ['\n'] <:+ line ↔ line.getLast? = some '\n' := by
    rw [List.getLast?_eq_some_iff]
    constructor
    · rintro ⟨before, rfl⟩
      exact ⟨before, rfl⟩
    · rintro ⟨before, rfl⟩
      exact ⟨before, rfl⟩
  have both : ['\r', '\n'] <:+ line → ['\n'] <:+ line := (List.suffix_cons '\r' ['\n']).trans
  simp only [ofLine, List.isSuffixOf_iff_suffix, ← ended, ne_eq]
  split_ifs with crlf lf
  · simp [both crlf]
  · simp [lf]
  · simp [lf]

theorem ofLine_ne_none_iff (line : Text) : ofLine line ≠ .none ↔ line.getLast? = some '\n' := by
  rw [ne_eq, ofLine_eq_none_iff, not_not]

end Terminator

namespace Lines

variable {content : Text} {terminator : Terminator} {rest : Lines}

theorem ending_ne_none (ls : Lines) : ls.ending ≠ .none := by
  cases ls with
  | nil => nofun
  | cons first rest =>
    simp only [ending]
    split_ifs <;> nofun

/-- A text without a line feed becomes a line by a terminator. -/
theorem canonical_append_cons_iff (oneLine : '\n' ∉ content) (closes : terminator ≠ .none) :
    Canonical ((content ++ terminator.text) :: rest) ↔ Canonical rest := by
  have closed : ∃ before, terminator.text = before ++ ['\n'] ∧ '\n' ∉ before := by
    cases terminator with
    | none => contradiction
    | lf => exact ⟨[], rfl, by simp⟩
    | crlf => exact ⟨['\r'], rfl, by simp⟩
  obtain ⟨before, split, absent⟩ := closed
  rw [canonical_cons_iff, split, ← List.append_assoc, List.dropLast_concat, List.mem_append]
  simp [oneLine, absent]

theorem canonical_text_cons_iff (closes : terminator ≠ .none) :
    Canonical (terminator.text :: rest) ↔ Canonical rest := by
  have empty : '\n' ∉ ([] : Text) := List.not_mem_nil
  exact canonical_append_cons_iff empty closes

end Lines

namespace Header

variable {marker expected first : Text} {ending : Terminator} {lines rest : Lines}

theorem canonical_repairFirst (filled : expected ≠ []) (oneLine : '\n' ∉ expected)
    (closes : ending ≠ .none) (canonical : lines.Canonical) :
    (repairFirst marker expected ending lines).1.Canonical := by
  cases lines with
  | nil =>
    rw [repairFirst, Lines.canonical_append_cons_iff oneLine closes,
      Lines.canonical_text_cons_iff closes]
    exact canonical
  | cons first rest =>
    simp only [repairFirst]
    split_ifs with unmarked wrong
    · rw [Lines.canonical_append_cons_iff oneLine closes, Lines.canonical_text_cons_iff closes]
      exact canonical
    · obtain ⟨_, ended, others⟩ := Lines.canonical_cons_iff.mp canonical
      by_cases bare : Terminator.ofLine first = .none
      · -- only the last line can be without a terminator
        have last : rest = [] := by
          by_contra more
          exact (Terminator.ofLine_eq_none_iff first).mp bare (ended more)
        rw [bare, last, Terminator.text, List.append_nil, Lines.canonical_cons_iff]
        refine ⟨⟨filled, fun found => oneLine (List.dropLast_subset expected found)⟩, ?_, ?_⟩
        · exact fun more => absurd rfl more
        · exact last ▸ others
      · rw [Lines.canonical_append_cons_iff oneLine bare]
        exact others
    · exact canonical

theorem canonical_repairSecond (closes : ending ≠ .none) (canonical : lines.Canonical) :
    (repairSecond ending lines).1.Canonical := by
  have blank : ∀ {rest : Lines}, rest.Canonical → Lines.Canonical (ending.text :: rest) :=
    (Lines.canonical_text_cons_iff closes).mpr
  match lines with
  | [] => exact canonical
  | [header] =>
    obtain ⟨⟨filled, oneLine⟩, _, none⟩ := Lines.canonical_cons_iff.mp canonical
    simp only [repairSecond]
    split_ifs with bare
    · have absent : '\n' ∉ header := by
        intro found
        rw [← List.dropLast_append_getLast filled, List.mem_append, List.mem_singleton] at found
        rcases found with within | last
        · exact oneLine within
        · apply (Terminator.ofLine_eq_none_iff header).mp bare
          rw [List.getLast?_eq_some_getLast filled, ← last]
      rw [Lines.canonical_append_cons_iff absent closes]
      exact blank none
    · rw [Lines.canonical_cons_iff]
      refine ⟨⟨filled, oneLine⟩, fun _ => ?_, blank none⟩
      exact (Terminator.ofLine_ne_none_iff header).mp bare
  | header :: second :: rest =>
    simp only [repairSecond]
    split_ifs with isBlank
    · exact canonical
    · obtain ⟨line, ended, others⟩ := Lines.canonical_cons_iff.mp canonical
      rw [Lines.canonical_cons_iff]
      exact ⟨line, fun _ => ended (List.cons_ne_nil second rest), blank others⟩

theorem canonical_repair (filled : expected ≠ []) (oneLine : '\n' ∉ expected)
    (canonical : lines.Canonical) : (repair marker expected lines).1.Canonical :=
  canonical_repairSecond lines.ending_ne_none
    (canonical_repairFirst filled oneLine lines.ending_ne_none canonical)

/-- After the first check the header stands on the first line. -/
theorem repairFirst_shows (solid : Text.trimEnd expected = expected) (marker : Text)
    (ending : Terminator) (lines : Lines) :
    ∃ first rest, (repairFirst marker expected ending lines).1 = first :: rest ∧
      Text.trimEnd first = expected := by
  have shown : ∀ t : Terminator, Text.trimEnd (expected ++ t.text) = expected :=
    fun t => (t.trimEnd_append_text expected).trans solid
  cases lines with
  | nil => exact ⟨_, _, rfl, shown ending⟩
  | cons first rest =>
    simp only [repairFirst]
    split_ifs with unmarked wrong
    · exact ⟨_, _, rfl, shown ending⟩
    · exact ⟨_, _, rfl, shown _⟩
    · exact ⟨_, _, rfl, Classical.not_not.mp wrong⟩

theorem valid_repairSecond (shown : Text.trimEnd first = expected) :
    Valid expected (repairSecond ending (first :: rest)).1 := by
  cases rest with
  | nil =>
    refine ⟨_, _, _, rfl, ?_, ending.trimEnd_text⟩
    split_ifs
    · exact (ending.trimEnd_append_text first).trans shown
    · exact shown
  | cons second more =>
    simp only [repairSecond]
    split_ifs with blank
    · exact ⟨_, _, _, rfl, shown, blank⟩
    · exact ⟨_, _, _, rfl, shown, ending.trimEnd_text⟩

theorem valid_repair (solid : Text.trimEnd expected = expected) (lines : Lines) :
    Valid expected (repair marker expected lines).1 := by
  obtain ⟨first, rest, made, shown⟩ := repairFirst_shows solid marker lines.ending lines
  simp only [repair, made]
  exact valid_repairSecond shown

theorem repair_eq_self (marked : marker <+: expected) (valid : Valid expected lines) :
    repair marker expected lines = (lines, []) := by
  obtain ⟨first, second, rest, rfl, shown, blank⟩ := valid
  have isMarked : marker.isPrefixOf expected = true := List.isPrefixOf_iff_prefix.mpr marked
  simp [repair, repairFirst, repairSecond, shown, blank, isMarked]

/-- A line shows neither a line feed nor a blank at its end. -/
theorem showable_of_valid_split {content : Text} (valid : Valid expected (Lines.split content)) :
    '\n' ∉ expected ∧ ∀ c ∈ expected.getLast?, Text.isBlank c = false := by
  obtain ⟨first, second, rest, split, rfl, _⟩ := valid
  have canonical := Lines.canonical_split content
  rw [split, Lines.canonical_cons_iff] at canonical
  obtain ⟨⟨_, oneLine⟩, _⟩ := canonical
  exact ⟨Lines.newline_notMem_trimEnd oneLine, Text.getLast?_trimEnd first⟩

end Header

theorem RepoPath.getLast?_header (marker : Text) (p : RepoPath) :
    (p.header marker).getLast? = some (p.text.getLast?.getD ' ') := by
  rw [header, List.getLast?_append_cons]
  cases p.text with
  | nil => rfl
  | cons c rest => simp [List.getLast?_cons]

theorem RepoPath.newline_mem_header_iff {marker : Text} (accepted : Config.isMarker marker = true)
    (p : RepoPath) : '\n' ∈ p.header marker ↔ '\n' ∈ p.text := by
  obtain ⟨_, unblank⟩ := (Config.isMarker_iff marker).mp accepted
  have oneLine : '\n' ∉ marker := by
    intro found
    exact absurd (unblank _ found) (by decide)
  simp [header, oneLine]

theorem RepoPath.showable_iff {marker : Text} (accepted : Config.isMarker marker = true)
    (p : RepoPath) : p.Showable ↔
      '\n' ∉ p.header marker ∧ ∀ c ∈ (p.header marker).getLast?, Text.isBlank c = false := by
  rw [newline_mem_header_iff accepted, getLast?_header]
  constructor
  · rintro ⟨filled, absent, solid⟩
    refine ⟨absent, fun c isLast => solid c ?_⟩
    cases isLast
    simp [List.getLast?_eq_some_getLast filled]
  · rintro ⟨absent, solid⟩
    have filled : p.text ≠ [] := by
      intro empty
      have solid := solid ' ' (by simp [empty])
      exact absurd solid (by decide)
    refine ⟨filled, absent, fun c isLast => solid c ?_⟩
    rw [Option.mem_def] at isLast
    simp [isLast]

namespace Header

variable {marker : Text}

/-- The repaired lines come back from the repaired text, and their header is valid. -/
theorem repair_settles (accepted : Config.isMarker marker = true) {path : RepoPath}
    (showable : path.Showable) (content : Text) :
    let repaired := (repair marker (path.header marker) (Lines.split content)).1
    Lines.split (Lines.join repaired) = repaired ∧ Valid (path.header marker) repaired := by
  intro repaired
  obtain ⟨oneLine, solid⟩ := (RepoPath.showable_iff accepted path).mp showable
  have filled : path.header marker ≠ [] := by simp [RepoPath.header]
  have canonical : repaired.Canonical :=
    canonical_repair filled oneLine (Lines.canonical_split content)
  exact ⟨Lines.split_join canonical, valid_repair (Text.trimEnd_eq_self solid) _⟩

/-- One repair settles every text, and it reports nothing exactly if it changes nothing; or else
the path cannot be shown, and no text whatever is valid. -/
theorem repair_settles_or_never_valid (accepted : Config.isMarker marker = true)
    (raw content : Text) :
    let path := RepoPath.normalize raw
    let repaired := repair marker (path.header marker) (Lines.split content)
    (path.Showable →
      Lines.split (Lines.join repaired.1) = repaired.1 ∧
      repair marker (path.header marker) (Lines.split (Lines.join repaired.1)) =
        (repaired.1, []) ∧
      (repaired.2 = [] ↔ Lines.join repaired.1 = content)) ∧
    (¬ path.Showable → repaired.2 ≠ [] ∧
      ∀ root excludedDirs fs,
        (Checker.process ⟨root, marker, excludedDirs⟩ fs raw).1 ≠ .unchanged) := by
  intro path repaired
  have marked : marker <+: path.header marker := List.prefix_append _ _
  constructor
  · intro showable
    obtain ⟨stable, valid⟩ := repair_settles accepted showable content
    have again := repair_eq_self marked valid
    refine ⟨stable, by rw [stable, again], ?_⟩
    constructor
    · intro nothing
      have valid := (repair_snd_eq_nil_iff marked (Lines.split content)).mp nothing
      have kept : repaired = (Lines.split content, []) := repair_eq_self marked valid
      rw [kept, Lines.join_split]
    · intro kept
      -- the text is its own repair, and that needs no other
      rw [kept] at stable
      have same : repaired = repair marker (path.header marker) repaired.1 := by rw [← stable]
      rw [same, again]
  · intro unshowable
    have invalid : ∀ content, ¬ Valid (path.header marker) (Lines.split content) :=
      fun content valid =>
        unshowable ((RepoPath.showable_iff accepted path).mpr (showable_of_valid_split valid))
    constructor
    · intro nothing
      exact invalid content ((repair_snd_eq_nil_iff marked (Lines.split content)).mp nothing)
    · intro root excludedDirs fs unchanged
      obtain ⟨_, judged⟩ := Checker.process_fst_eq_unchanged_iff.mp unchanged
      obtain ⟨found, _, valid⟩ := Checker.judge_eq_valid_iff.mp judged
      exact invalid found valid

/-- A first line that ends in a carriage return alone, and a path that ends in a blank. -/
theorem carriage_return_settles :
    let slashes := "//".toList
    let path := RepoPath.normalize "./a.js".toList
    let lines : Lines := ["// a.js\r\n".toList, "\n".toList]
    Config.isMarker slashes = true ∧ path.Showable ∧
      repair slashes (path.header slashes) (Lines.split "// a.js\r".toList) =
        (lines, [.missingLastBlank]) ∧
      repair slashes (path.header slashes) (Lines.split (Lines.join lines)) = (lines, []) ∧
      ¬ (RepoPath.normalize "a.js ".toList).Showable ∧
      (repair slashes ((RepoPath.normalize "a.js ".toList).header slashes)
        (Lines.split "// a.js \n\n".toList)).2 ≠ [] := by
  intro slashes path lines
  have accepted : Config.isMarker slashes = true := by decide
  have showable : path.Showable := by decide
  have unshowable : ¬ (RepoPath.normalize "a.js ".toList).Showable := by decide
  have once : repair slashes (path.header slashes) (Lines.split "// a.js\r".toList) =
      (lines, [.missingLastBlank]) := by cbv
  have settled := (repair_settles_or_never_valid accepted "./a.js".toList "// a.js\r".toList).1
    showable
  have never := (repair_settles_or_never_valid accepted "a.js ".toList "// a.js \n\n".toList).2
    unshowable
  rw [once] at settled
  exact ⟨accepted, showable, once, settled.2.1, unshowable, never.1⟩

end Header

end PathHeader
