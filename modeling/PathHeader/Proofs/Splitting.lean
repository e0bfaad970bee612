import Mathlib.Data.List.DropRight
import Mathlib.Data.List.SplitBy
import PathHeader.Lines

/-! Lines as they come out of a text. Splitting and joining undo each other exactly on canonical
lines, and a trimmed line holds no line feed and does not end in a blank. -/
namespace PathHeader

namespace Text

variable {t blanks : Text}

theorem trimEnd_eq_rdropWhile (t : Text) : trimEnd t = t.rdropWhile isBlank := rfl

theorem trimEnd_prefix (t : Text) : trimEnd t <+: t := List.rdropWhile_prefix isBlank t

theorem trimEnd_append (isBlanks : ∀ c ∈ blanks, isBlank c = true) :
    trimEnd (t ++ blanks) = trimEnd t := by
  induction blanks using List.reverseRecOn with
  | nil => rw [List.append_nil]
  | append_singleton blanks c ih =>
    rw [List.forall_mem_append] at isBlanks
    obtain ⟨before, last⟩ := isBlanks
    rw [← List.append_assoc, trimEnd_eq_rdropWhile,
      List.rdropWhile_concat_pos _ _ _ (last c (List.mem_singleton_self c))]
    exact ih before

theorem trimEnd_eq_self (solid : ∀ c ∈ t.getLast?, isBlank c = false) : trimEnd t = t := by
  rw [trimEnd_eq_rdropWhile, List.rdropWhile_eq_self_iff]
  intro filled
  rw [solid _ (List.getLast_mem_getLast? filled)]
  exact Bool.false_ne_true

theorem getLast?_trimEnd (t : Text) : ∀ c ∈ (trimEnd t).getLast?, isBlank c = false := by
  intro c last
  have filled : trimEnd t ≠ [] := List.ne_nil_of_mem (List.mem_of_mem_getLast? last)
  rw [← List.getLast_of_mem_getLast? last]
  exact Bool.eq_false_iff.mpr (List.rdropWhile_last_not isBlank t filled)

end Text

namespace Lines

variable {line t : Text} {ls rest : Lines}

theorem isChain_line_iff : line.IsChain (fun c _ => (c != '\n') = true) ↔ '\n' ∉ line.dropLast := by
  induction line with
  | nil => simp
  | cons c more ih =>
    cases more with
    | nil => simp
    | cons d more =>
      rw [List.isChain_cons_cons, ih, List.dropLast_cons_of_ne_nil (List.cons_ne_nil d more),
        List.mem_cons, not_or, bne_iff_ne, ne_comm]

theorem canonical_cons_iff : Canonical (line :: rest) ↔
    (line ≠ [] ∧ '\n' ∉ line.dropLast) ∧ (rest ≠ [] → line.getLast? = some '\n') ∧
      Canonical rest := by
  unfold Canonical
  rw [List.forall_mem_cons]
  cases rest with
  | nil => simp
  | cons second more =>
    have filled := List.cons_ne_nil second more
    rw [List.dropLast_cons_of_ne_nil filled, List.forall_mem_cons (p := fun line : Text =>
      line.getLast? = some '\n')]
    constructor
    · rintro ⟨⟨first, others⟩, ended, all⟩
      exact ⟨first, fun _ => ended, others, all⟩
    · rintro ⟨first, ended, others, all⟩
      exact ⟨⟨first, others⟩, ended filled, all⟩

theorem canonical_iff_splitBy : Canonical ls ↔
    [] ∉ ls ∧ (∀ line ∈ ls, line.IsChain fun c _ => (c != '\n') = true) ∧
      ls.IsChain fun line next => ∃ (filled : line ≠ []) (_ : next ≠ []),
        (line.getLast filled != '\n') = false := by
  induction ls with
  | nil => simp [Canonical]
  | cons line rest ih =>
    rw [canonical_cons_iff, ih, List.isChain_cons, List.forall_mem_cons, isChain_line_iff,
      List.mem_cons, not_or]
    cases rest with
    | nil => simp [@eq_comm _ ([] : Text)]
    | cons next more =>
      simp only [List.head?_cons, Option.mem_some_iff, forall_eq', bne_eq_false_iff_eq]
      constructor
      · rintro ⟨⟨filled, oneLine⟩, ended, others, all, linked⟩
        have ended := ended (List.cons_ne_nil next more)
        have follows : next ≠ [] := fun empty => others (empty ▸ List.mem_cons_self)
        refine ⟨⟨filled.symm, others⟩, ⟨oneLine, all⟩, ⟨filled, follows, ?_⟩, linked⟩
        exact List.getLast_of_mem_getLast? ended
      · rintro ⟨⟨filled, others⟩, ⟨oneLine, all⟩, ⟨_, _, ended⟩, linked⟩
        refine ⟨⟨Ne.symm filled, oneLine⟩, fun _ => ?_, others, all, linked⟩
        rw [List.getLast?_eq_some_getLast (Ne.symm filled), ended]

theorem join_split (t : Text) : join (split t) = t := List.flatten_splitBy _ t

theorem split_eq_iff : split t = ls ↔ t = join ls ∧ Canonical ls := by
  rw [canonical_iff_splitBy]
  exact List.splitBy_eq_iff

theorem canonical_split (t : Text) : Canonical (split t) := (split_eq_iff.mp rfl).2

theorem split_join (canonical : Canonical ls) : split (join ls) = ls :=
  split_eq_iff.mpr ⟨rfl, canonical⟩

/-- Splitting and joining undo each other. Every text comes back from its lines, and lines come back
from their text exactly if they are canonical, which is just what the lines of a text are. -/
theorem split_join_inverse :
    (∀ t : Text, join (split t) = t) ∧
    (∀ ls : Lines, split (join ls) = ls ↔ Canonical ls) ∧
    ∀ ls : Lines, (∃ t, split t = ls) ↔ Canonical ls := by
  refine ⟨join_split, ?_, ?_⟩
  · intro ls
    constructor
    · intro same
      exact same ▸ canonical_split (join ls)
    · exact split_join
  · intro ls
    constructor
    · rintro ⟨t, rfl⟩
      exact canonical_split t
    · intro canonical
      exact ⟨join ls, split_join canonical⟩

example : split "a\r\n\nb\rc".toList = ["a\r\n".toList, "\n".toList, "b\rc".toList] := by decide

/-- Without its terminator a line holds no line feed. -/
theorem newline_notMem_trimEnd (oneLine : '\n' ∉ line.dropLast) :
    '\n' ∉ Text.trimEnd line := by
  rcases List.eq_nil_or_concat' line with rfl | ⟨before, last, rfl⟩
  · exact List.not_mem_nil
  · rw [List.dropLast_concat] at oneLine
    cases blank : Text.isBlank last with
    | true =>
      rw [Text.trimEnd_append (by simpa using blank)]
      exact fun found => oneLine ((Text.trimEnd_prefix before).mem found)
    | false =>
      rw [Text.trimEnd_eq_self (by simpa using blank)]
      intro found
      rcases List.mem_append.mp found with within | isLast
      · exact oneLine within
      · rw [← List.mem_singleton.mp isLast] at blank
        exact absurd blank (by decide)

end Lines

end PathHeader
