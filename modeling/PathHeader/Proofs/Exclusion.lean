import Mathlib.Data.List.Forall2
import PathHeader.Proofs.Segments
import PathHeader.Settings.Config

/-! Excluded paths. Cutting a path at its slashes and looking a name up among the pieces is to find
the name in the text between slashes, so that nothing but whole names counts. -/
namespace PathHeader

namespace Text

variable {sep : Char} {piece t : Text}

/-- What stands between two separators is a piece that is neither the first nor the last. -/
theorem delimited_infix_iff (plain : sep ∉ piece) : sep :: piece ++ [sep] <:+: t ↔
    ∃ before after, before ≠ [] ∧ after ≠ [] ∧ splitOn sep t = before ++ piece :: after := by
  constructor
  · rintro ⟨before, after, rfl⟩
    refine ⟨splitOn sep before, splitOn sep after, splitOn_ne_nil sep before,
      splitOn_ne_nil sep after, ?_⟩
    have parted : before ++ (sep :: piece ++ [sep]) ++ after =
        before ++ sep :: (piece ++ sep :: after) := by simp
    rw [parted, splitOn_append_cons, splitOn_append_cons, splitOn_eq_singleton plain]
    rfl
  · rintro ⟨before, after, first, last, split⟩
    have whole := joinWith_splitOn sep t
    rw [split, joinWith_append _ first (List.cons_ne_nil piece after),
      joinWith_cons _ piece last] at whole
    refine ⟨joinWith [sep] before, joinWith [sep] after, ?_⟩
    rw [← whole]
    simp

/-- So every piece stands between separators once the text does. -/
theorem mem_splitOn_iff (plain : sep ∉ piece) :
    piece ∈ splitOn sep t ↔ sep :: piece ++ [sep] <:+: sep :: t ++ [sep] := by
  have ends : splitOn sep (sep :: t ++ [sep]) = [] :: splitOn sep t ++ [[]] := by
    rw [List.cons_append, ← List.nil_append (sep :: (t ++ [sep])), splitOn_append_cons,
      splitOn_append_cons]
    rfl
  rw [delimited_infix_iff plain, ends]
  constructor
  · intro listed
    obtain ⟨before, after, split⟩ := List.append_of_mem listed
    exact ⟨[] :: before, after ++ [[]], by simp, by simp, by simp [split]⟩
  · rintro ⟨before, after, first, last, split⟩
    obtain ⟨opening, before, rfl⟩ := List.exists_cons_of_ne_nil first
    obtain ⟨after, closing, rfl⟩ := (List.eq_nil_or_concat' after).resolve_left last
    have inner : splitOn sep t ++ [[]] = before ++ piece :: after ++ [closing] := by
      simpa using congrArg List.tail split
    rw [(List.append_inj' inner rfl).1]
    exact List.mem_append_right before List.mem_cons_self

end Text

namespace RepoPath

variable {names : List Text} {p : RepoPath} {raw other : Text}

theorem isExcluded_iff : p.isExcluded names = true ↔ ∃ name ∈ names, name ∈ p.segments := by
  simp only [isExcluded, List.any_eq_true, List.contains_iff_mem]
  exact exists_congr fun name => And.comm

theorem isExcluded_iff_delimited (plain : ∀ name ∈ names, '/' ∉ name) : p.isExcluded names = true ↔
    ∃ name ∈ names, '/' :: name ++ ['/'] <:+: '/' :: p.text ++ ['/'] := by
  rw [isExcluded_iff]
  refine exists_congr fun name => and_congr_right fun listed => ?_
  exact Text.mem_splitOn_iff (plain name listed)

/-- The same path, with other characters for some of its separators. -/
def Respells (raw other : Text) : Prop :=
  List.Forall₂ (fun c d => c = d ∨ c ∈ ['/', '\\'] ∧ d ∈ ['/', '\\']) raw other

theorem Respells.normalize_eq (respells : Respells raw other) :
    normalize other = normalize raw := by
  have same : forwardSlashes other = forwardSlashes raw := by
    induction respells with
    | nil => rfl
    | cons first _ ih =>
      simp only [forwardSlashes, List.map_cons] at ih ⊢
      rw [ih]
      congr 1
      simp only [List.mem_cons, List.not_mem_nil, or_false] at first
      rcases first with rfl | ⟨rfl | rfl, rfl | rfl⟩ <;> rfl
  rw [normalize, same, normalize]

/-- Below a path in normal form everything has the segments of that path in front. -/
theorem segments_normalize_append (settled : (normalize raw).text ≠ ['.']) (rest : Text) :
    (normalize ((normalize raw).text ++ '/' :: rest)).segments =
      (normalize raw).segments ++ Text.splitOn '/' (forwardSlashes rest) := by
  have slashed : forwardSlashes ((normalize raw).text ++ '/' :: rest) =
      (normalize raw).text ++ '/' :: forwardSlashes rest := by
    rw [forwardSlashes_append, forwardSlashes_eq_self (backslash_notMem_normalize raw)]
    rfl
  have stays : ¬ ['.', '/'] <+: (normalize raw).text ++ '/' :: forwardSlashes rest := by
    have before := not_prefix_dropCurrent (forwardSlashes raw)
    change ¬ ['.', '/'] <+: (normalize raw).text at before
    generalize (normalize raw).text = text at settled before
    rcases text with _ | ⟨c, _ | ⟨d, text⟩⟩
    · simp
    · simpa [List.cons_prefix_cons, eq_comm] using settled
    · simpa [List.cons_prefix_cons] using before
  rw [segments, normalize, slashed, dropCurrent_eq_self stays, Text.splitOn_append_cons, segments]

/-- Exclusion goes by whole segments. A path is excluded exactly if one of the names stands in it
between slashes; no name that passes the check holds a slash itself. So it matters neither in which
order and how often the names are given nor which separators the path is written with; more names
exclude more, and a directory that is excluded is so with everything below it, unless it is the
current one, which falls out of paths. -/
theorem isExcluded_by_segments (raw : Text) {names : List Text}
    (plain : ∀ name ∈ names, '/' ∉ name) :
    ((normalize raw).isExcluded names = true ↔
      ∃ name ∈ names, '/' :: name ++ ['/'] <:+: '/' :: (normalize raw).text ++ ['/']) ∧
    (∀ more, names ⊆ more → (normalize raw).isExcluded names = true →
      (normalize raw).isExcluded more = true) ∧
    (∀ others, (∀ name, name ∈ others ↔ name ∈ names) →
      (normalize raw).isExcluded others = (normalize raw).isExcluded names) ∧
    (∀ other, Respells raw other →
      (normalize other).isExcluded names = (normalize raw).isExcluded names) ∧
    ((normalize raw).isExcluded names = true → (normalize raw).text ≠ ['.'] →
      ∀ rest, (normalize ((normalize raw).text ++ '/' :: rest)).isExcluded names = true) := by
  have grows : ∀ {fewer more : List Text}, fewer ⊆ more →
      (normalize raw).isExcluded fewer = true → (normalize raw).isExcluded more = true := by
    intro fewer more within excluded
    obtain ⟨name, listed, segment⟩ := isExcluded_iff.mp excluded
    exact isExcluded_iff.mpr ⟨name, within listed, segment⟩
  refine ⟨isExcluded_iff_delimited plain, fun more => grows, ?_, ?_, ?_⟩
  · intro others same
    rw [Bool.eq_iff_iff]
    exact ⟨grows fun name => (same name).mp, grows fun name => (same name).mpr⟩
  · intro other respells
    rw [respells.normalize_eq]
  · intro excluded settled rest
    obtain ⟨name, listed, segment⟩ := isExcluded_iff.mp excluded
    rw [isExcluded_iff, segments_normalize_append settled]
    exact ⟨name, listed, List.mem_append_left _ segment⟩

/-- Backslashes make segments too, and what is below an excluded directory goes with it. -/
theorem vendored_excluded :
    (∀ name ∈ Config.default.excludedDirs, '/' ∉ name) ∧
    (normalize ".\\web\\node_modules".toList).isExcluded Config.default.excludedDirs = true ∧
    (normalize "web/node_modules/lib\\a.js".toList).isExcluded
      Config.default.excludedDirs = true := by
  have valid : Config.default.Valid := (Config.problem?_eq_none_iff _).mp (by cbv)
  have plain : ∀ name ∈ Config.default.excludedDirs, '/' ∉ name :=
    fun name listed => (valid.excludedDirs name listed).2.1
  obtain ⟨whole, _, _, _, below⟩ := isExcluded_by_segments ".\\web\\node_modules".toList plain
  have excluded := whole.mpr
    ⟨"node_modules".toList, List.mem_cons_self, "/web".toList, [], by decide⟩
  exact ⟨plain, excluded, below excluded (by decide) "lib\\a.js".toList⟩

/-- A name that only begins or ends like an excluded one is another name. -/
example : (normalize ".github/node_modules.js".toList).isExcluded
    Config.default.excludedDirs = false := by decide

end RepoPath

end PathHeader
