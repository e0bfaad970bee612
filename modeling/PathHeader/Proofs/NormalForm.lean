import PathHeader.Checker
import PathHeader.Proofs.SamePlace

/-! The normal form of a path, as what a loop leaves that drops steps into the current directory.
The loop ends on every path, and of all that stands behind such steps it leaves what begins with
none. -/
namespace PathHeader.RepoPath

variable {t left other : Text} {passes more : Nat}

/-- The loop on a text: so many passes, each of which drops a step from the front, and then none. -/
inductive Drops : Nat → Text → Text → Prop where
  | done {t : Text} : ¬ ['.', '/'] <+: t → Drops 0 t t
  | pass {passes : Nat} {rest left : Text} :
      Drops passes rest left → Drops (passes + 1) ('.' :: '/' :: rest) left

/-- The loop ends on every text, since each pass leaves a shorter one. -/
theorem drops_dropCurrent (t : Text) : ∃ passes, Drops passes t (dropCurrent t) := by
  fun_induction dropCurrent t with
  | case1 rest ih =>
    obtain ⟨passes, drops⟩ := ih
    exact ⟨passes + 1, .pass drops⟩
  | case2 t settled =>
    refine ⟨0, .done ?_⟩
    rintro ⟨rest, rfl⟩
    exact settled rest rfl

theorem drops_iff : Drops passes t left ↔ t = currents passes ++ left ∧ ¬ ['.', '/'] <+: left := by
  constructor
  · intro drops
    induction drops with
    | done settled => exact ⟨rfl, settled⟩
    | pass _ ih =>
      obtain ⟨whole, settled⟩ := ih
      exact ⟨by rw [currents_succ, whole]; rfl, settled⟩
  · rintro ⟨rfl, settled⟩
    induction passes with
    | zero => exact .done settled
    | succ passes ih =>
      rw [currents_succ]
      exact .pass ih

/-- A pass is made exactly where a step stands in front, so that there is one course of the loop. -/
theorem Drops.unique (drops : Drops passes t left) (again : Drops more t other) :
    passes = more ∧ left = other := by
  induction drops generalizing more with
  | done settled =>
    cases again with
    | done _ => exact ⟨rfl, rfl⟩
    | pass _ => exact absurd ⟨_, rfl⟩ settled
  | pass _ ih =>
    cases again with
    | done settled => exact absurd ⟨_, rfl⟩ settled
    | pass again =>
      obtain ⟨rfl, same⟩ := ih again
      exact ⟨rfl, same⟩

/-- Of all texts behind steps into the current directory the loop leaves the one without another. -/
theorem eq_dropCurrent_iff :
    (∃ count, t = currents count ++ left) ∧ ¬ ['.', '/'] <+: left ↔ left = dropCurrent t := by
  obtain ⟨passes, drops⟩ := drops_dropCurrent t
  constructor
  · rintro ⟨⟨count, whole⟩, settled⟩
    exact ((drops_iff.mpr ⟨whole, settled⟩).unique drops).2
  · rintro rfl
    obtain ⟨whole, settled⟩ := drops_iff.mp drops
    exact ⟨⟨passes, whole⟩, settled⟩

/-- A step into the current directory, with a separator of either kind. -/
def IsCurrent (step : Text) : Prop := step = "./".toList ∨ step = ".\\".toList

theorem normalize_current_append {step : Text} (current : IsCurrent step) (raw : Text) :
    normalize (step ++ raw) = normalize raw := by
  have slashed : forwardSlashes step = ['.', '/'] := by
    rcases current with rfl | rfl <;> rfl
  rw [normalize, forwardSlashes_append, slashed]
  rfl

theorem normalize_currents_append {steps : List Text} (current : ∀ step ∈ steps, IsCurrent step)
    (raw : Text) : normalize (steps.flatten ++ raw) = normalize raw := by
  induction steps with
  | nil => rfl
  | cons step rest ih =>
    obtain ⟨first, others⟩ := List.forall_mem_cons.mp current
    rw [List.flatten_cons, List.append_assoc, normalize_current_append first, ih others]

theorem normalize_normalize (raw : Text) : normalize (normalize raw).text = normalize raw := by
  have plain := forwardSlashes_eq_self (backslash_notMem_normalize raw)
  have settled : ¬ ['.', '/'] <+: (normalize raw).text := not_prefix_dropCurrent _
  rw [normalize, plain, dropCurrent_eq_self settled]

/-- The loop ends on every path. With slashes for its backslashes a path is steps into the current
directory and its normal form behind them, and no other text without such a step in front stands
there. The normal form has no backslash and is its own; steps into the current directory in front of
a path, with separators of either kind, change neither its header nor whether it is excluded. -/
theorem normal_form_unique (raw : Text) :
    let normal := (normalize raw).text
    (∃ passes, Drops passes (forwardSlashes raw) normal) ∧
    (∀ left, (∃ count, forwardSlashes raw = currents count ++ left) ∧ ¬ ['.', '/'] <+: left ↔
      left = normal) ∧
    '\\' ∉ normal ∧ (normalize normal).text = normal ∧
    ∀ steps : List Text, (∀ step ∈ steps, IsCurrent step) →
      (normalize (steps.flatten ++ raw)).text = normal ∧
      ∀ c : Checker, c.header (steps.flatten ++ raw) = c.header raw ∧
        c.excludes (steps.flatten ++ raw) = c.excludes raw := by
  intro normal
  refine ⟨drops_dropCurrent _, fun left => eq_dropCurrent_iff, backslash_notMem_normalize raw,
    congrArg text (normalize_normalize raw), fun steps current => ?_⟩
  have same := normalize_currents_append current raw
  refine ⟨congrArg text same, fun c => ?_⟩
  rw [Checker.header, Checker.excludes, same]
  exact ⟨rfl, rfl⟩

/-- A slash behind the last step stays, and so does a point without a slash. -/
example :
    [".", "./", ".//", "../", "", ".\\./.\\..\\a"].map (fun raw => (normalize raw.toList).text) =
    [".", "", "/", "../", "", "../a"].map String.toList := by decide

end PathHeader.RepoPath
