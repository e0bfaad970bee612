import PathHeader.Checker
import PathHeader.Proofs.Decoding

/-! What the check of one file comes to. A repair has nothing to do exactly on a valid header, and
a verdict tells exactly how the file was read and what its lines need. -/
namespace PathHeader

namespace Header

variable {marker expected : Text}

theorem repairSecond_snd_eq_nil_iff (ending : Terminator) (first : Text) (rest : Lines) :
    (repairSecond ending (first :: rest)).2 = [] ↔
      ∃ second more, rest = second :: more ∧ Text.trimEnd second = [] := by
  cases rest with
  | nil => simp [repairSecond]
  | cons second more =>
    rw [repairSecond]
    split <;> simp [*]

theorem repair_snd_eq_nil_iff (marked : marker <+: expected) (lines : Lines) :
    (repair marker expected lines).2 = [] ↔ Valid expected lines := by
  cases lines with
  | nil => simp [repair, repairFirst, Valid]
  | cons first rest =>
    simp only [repair, repairFirst, Valid, List.append_eq_nil_iff, List.cons.injEq]
    split_ifs with unmarked wrong
    · have differs : Text.trimEnd first ≠ expected := by
        rintro rfl
        simp [List.isPrefixOf_iff_prefix.mpr marked] at unmarked
      simp [differs]
    · simp [wrong]
    · have right : Text.trimEnd first = expected := Classical.not_not.mp wrong
      rw [repairSecond_snd_eq_nil_iff]
      simp [right]

end Header

namespace Checker

variable {c : Checker} {raw : Text} {result : Except Cause Bytes} {fixes : List Fix}
  {repaired : Bytes}

theorem marker_prefix_header (c : Checker) (raw : Text) : c.marker <+: c.header raw :=
  List.prefix_append _ _

theorem judgeText_eq_valid_iff {content : Text} : c.judgeText raw content = .valid ↔
    Header.Valid (c.header raw) (Lines.split content) := by
  rw [← Header.repair_snd_eq_nil_iff (c.marker_prefix_header raw)]
  unfold judgeText
  split <;> simp_all

theorem judgeText_eq_faulty_iff {content : Text} :
    c.judgeText raw content = .faulty fixes repaired ↔
      fixes ≠ [] ∧ ∃ lines, Header.repair c.marker (c.header raw) (Lines.split content) =
        (lines, fixes) ∧ repaired = Utf8.encode lines.join := by
  unfold judgeText
  rcases Header.repair c.marker (c.header raw) (Lines.split content) with ⟨lines, _ | ⟨fix, more⟩⟩
  · simp +contextual [eq_comm]
  · constructor
    · rintro ⟨⟩
      exact ⟨List.cons_ne_nil _ _, lines, rfl, rfl⟩
    · rintro ⟨_, _, ⟨⟩, rfl⟩
      rfl

theorem exists_judgeText_eq_faulty_iff {content : Text} :
    (∃ repaired, c.judgeText raw content = .faulty fixes repaired) ↔
      fixes ≠ [] ∧ (Header.repair c.marker (c.header raw) (Lines.split content)).2 = fixes := by
  simp only [judgeText_eq_faulty_iff]
  constructor
  · rintro ⟨_, some, _, made, _⟩
    exact ⟨some, congrArg Prod.snd made⟩
  · rintro ⟨some, made⟩
    exact ⟨_, some, _, Prod.ext rfl made, rfl⟩

theorem judge_encode (c : Checker) (raw content : Text) :
    c.judge raw (.ok (Utf8.encode content)) = c.judgeText raw content := by
  simp only [judge, (Utf8.decode_eq_ok_iff _ content).mpr rfl]

/-- A verdict on the lines is reached exactly if they are a text that could be read. -/
theorem judge_eq_iff {verdict : Verdict} (readable : ∀ failure, verdict ≠ .unreadable failure) :
    c.judge raw result = verdict ↔
      ∃ content, result = .ok (Utf8.encode content) ∧ c.judgeText raw content = verdict := by
  constructor
  · intro judged
    unfold judge at judged
    split at judged
    · exact absurd judged.symm (readable _)
    · split at judged
      · exact absurd judged.symm (readable _)
      · next content decoded =>
        rw [Utf8.decode_eq_ok_iff] at decoded
        exact ⟨content, by rw [decoded], judged⟩
  · rintro ⟨content, rfl, judged⟩
    exact (c.judge_encode raw content).trans judged

/-- Nothing can be said of the lines exactly if the file could not be read as a text. -/
theorem judge_eq_unreadable_iff : (∃ failure, c.judge raw result = .unreadable failure) ↔
    ∀ content, result ≠ .ok (Utf8.encode content) := by
  constructor
  · rintro ⟨failure, judged⟩ content rfl
    rw [judge_encode, judgeText] at judged
    split at judged <;> cases judged
  · intro unreadable
    by_contra readable
    obtain ⟨content, got, _⟩ := (judge_eq_iff (not_exists.mp readable)).mp rfl
    exact unreadable content got

theorem judge_eq_valid_iff : c.judge raw result = .valid ↔
    ∃ content, result = .ok (Utf8.encode content) ∧
      Header.Valid (c.header raw) (Lines.split content) := by
  have readable : ∀ failure, Verdict.valid ≠ .unreadable failure := nofun
  simp only [judge_eq_iff readable, judgeText_eq_valid_iff]

theorem judge_eq_faulty_iff : c.judge raw result = .faulty fixes repaired ↔
    ∃ content lines, result = .ok (Utf8.encode content) ∧ fixes ≠ [] ∧
      Header.repair c.marker (c.header raw) (Lines.split content) = (lines, fixes) ∧
      repaired = Utf8.encode lines.join := by
  have readable : ∀ failure, Verdict.faulty fixes repaired ≠ .unreadable failure := nofun
  simp only [judge_eq_iff readable, judgeText_eq_faulty_iff, exists_and_left]

/-- What processing a file can come to, by the verdict on the file. -/
inductive Processed (c : Checker) (respond : Replacement.Step → Replacement.Response)
    (fs : FileSystem) (raw : Text) : Outcome × FileSystem → Prop where
  | skipped : c.excludes raw = true → Processed c respond fs raw (.skipped, fs)
  | readError {failure : Failure} : c.excludes raw = false →
      c.judge raw (fs.read (c.path raw)) = .unreadable failure →
      Processed c respond fs raw (.readError failure, fs)
  | unchanged : c.excludes raw = false → c.judge raw (fs.read (c.path raw)) = .valid →
      Processed c respond fs raw (.unchanged, fs)
  | fixed {fixes : List Fix} {repaired : Bytes} {after : FileSystem} : c.excludes raw = false →
      c.judge raw (fs.read (c.path raw)) = .faulty fixes repaired →
      Replacement.atPath respond fs (c.path raw) repaired = (none, after) →
      Processed c respond fs raw (.fixed fixes, after)
  | writeError {fixes : List Fix} {repaired : Bytes} {cause : Cause} {after : FileSystem} :
      c.excludes raw = false → c.judge raw (fs.read (c.path raw)) = .faulty fixes repaired →
      Replacement.atPath respond fs (c.path raw) repaired = (some cause, after) →
      Processed c respond fs raw (.writeError fixes (.io cause), after)

theorem processed (c : Checker) (respond : Replacement.Step → Replacement.Response)
    (fs : FileSystem) (raw : Text) : c.Processed respond fs raw (c.processWith respond fs raw) := by
  unfold processWith
  split
  · next excluded => exact .skipped excluded
  · next included =>
    have included := Bool.eq_false_iff.mpr included
    split
    · next judged => exact .readError included judged
    · next judged => exact .unchanged included judged
    · next judged =>
      split
      · next replaced => exact .fixed included judged replaced
      · next replaced => exact .writeError included judged replaced

section
variable {fs : FileSystem}

/-- Every step is carried out unless something outside refuses it. -/
theorem processed_process (c : Checker) (fs : FileSystem) (raw : Text) :
    c.Processed (fun _ => .carriedOut) fs raw (c.process fs raw) :=
  c.processed (fun _ => .carriedOut) fs raw

theorem process_fst_eq_skipped_iff : (c.process fs raw).1 = .skipped ↔ c.excludes raw = true := by
  have processed := c.processed_process fs raw
  generalize c.process fs raw = result at processed
  cases processed <;> simp [*]

theorem process_fst_eq_readError_iff {failure : Failure} :
    (c.process fs raw).1 = .readError failure ↔
      c.excludes raw = false ∧ c.judge raw (fs.read (c.path raw)) = .unreadable failure := by
  have processed := c.processed_process fs raw
  generalize c.process fs raw = result at processed
  cases processed <;> simp [*]

theorem process_fst_eq_unchanged_iff : (c.process fs raw).1 = .unchanged ↔
    c.excludes raw = false ∧ c.judge raw (fs.read (c.path raw)) = .valid := by
  have processed := c.processed_process fs raw
  generalize c.process fs raw = result at processed
  cases processed <;> simp [*]

end

end Checker

end PathHeader
