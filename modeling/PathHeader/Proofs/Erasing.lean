import Mathlib.Data.List.Basic
import PathHeader.Terminal.Style

/-! Deleting the codes of styles from a text, from left to right. Behind a text that ends where no
code can have begun, deleting starts anew. -/
namespace PathHeader.Terminal

variable {bare : Bool} {c : Char} {t u rest after shown : Text}

/-- The text behind a code in front: an escape, a bracket, digits and an m. Whether a code can do
without a digit is left to `bare`. -/
def afterCode? (bare : Bool) : Text → Option Text
  | '\x1b' :: '[' :: rest =>
    match rest.dropWhile Char.isDigit with
    | 'm' :: after => if bare ∨ rest.takeWhile Char.isDigit ≠ [] then some after else none
    | _ => none
  | _ => none

/-- An escape, a bracket, digits and an m. -/
def IsCode (bare : Bool) (code : Text) : Prop :=
  ∃ digits : Text, (∀ d ∈ digits, d.isDigit = true) ∧ (bare = true ∨ digits ≠ []) ∧
    code = '\x1b' :: '[' :: (digits ++ ['m'])

theorem afterCode?_eq_some_iff :
    afterCode? bare t = some after ↔ ∃ code, IsCode bare code ∧ t = code ++ after := by
  constructor
  · intro found
    unfold afterCode? at found
    split at found
    · next rest =>
      split at found
      · next left closes =>
        split at found
        · next enough =>
          cases found
          have whole := List.takeWhile_append_dropWhile (p := Char.isDigit) (l := rest)
          rw [closes] at whole
          have numbers := List.all_eq_true.mp (List.all_takeWhile (p := Char.isDigit) (l := rest))
          exact ⟨_, ⟨rest.takeWhile Char.isDigit, numbers, enough, rfl⟩, by simp [whole]⟩
        · cases found
      · cases found
    · cases found
  · rintro ⟨_, ⟨digits, numbers, enough, rfl⟩, rfl⟩
    have closes : 'm'.isDigit = false := rfl
    have digits_eq : (digits ++ 'm' :: after).takeWhile Char.isDigit = digits := by
      simp [List.takeWhile_append_of_pos numbers, closes]
    have behind : (digits ++ 'm' :: after).dropWhile Char.isDigit = 'm' :: after := by
      simp [List.dropWhile_append_of_pos numbers, closes]
    rw [List.cons_append, List.cons_append, List.append_assoc, List.singleton_append, afterCode?,
      behind, digits_eq]
    exact if_pos enough

theorem length_afterCode? (found : afterCode? bare t = some after) : after.length < t.length := by
  obtain ⟨_, ⟨digits, _, _, rfl⟩, rfl⟩ := afterCode?_eq_some_iff.mp found
  simp
  omega

/-- Deletes codes from left to right. A code that comes together over a deleted one stays. -/
def erase (bare : Bool) : Text → Text
  | [] => []
  | c :: rest =>
    match found : afterCode? bare (c :: rest) with
    | some after =>
      have : after.length < (c :: rest).length := length_afterCode? found
      erase bare after
    | none => c :: erase bare rest
termination_by t => t.length
decreasing_by
  · assumption
  · exact Nat.lt_succ_self _

theorem erase_nil : erase bare [] = [] := by rw [erase]

theorem erase_cons (c : Char) (rest : Text) : erase bare (c :: rest) =
    match afterCode? bare (c :: rest) with
    | some after => erase bare after
    | none => c :: erase bare rest := by
  rw [erase]
  split <;> simp [*]

theorem erase_of_some (found : afterCode? bare t = some after) :
    erase bare t = erase bare after := by
  cases t with
  | nil => cases found
  | cons c rest => rw [erase_cons, found]

theorem erase_of_none (none : afterCode? bare (c :: rest) = none) :
    erase bare (c :: rest) = c :: erase bare rest := by
  rw [erase_cons, none]

theorem erase_eq_self (plain : '\x1b' ∉ t) : erase bare t = t := by
  induction t with
  | nil => exact erase_nil
  | cons c rest ih =>
    rw [List.mem_cons, not_or] at plain
    have noCode : afterCode? bare (c :: rest) = none := by
      unfold afterCode?
      split
      · next begins => cases begins; exact absurd rfl plain.1
      · rfl
    rw [erase_of_none noCode, ih plain.2]

/-- No code that began in the text goes on behind it. -/
def Closed (t : Text) : Prop := ∀ c ∈ t.getLast?, c ≠ '\x1b' ∧ c ≠ '[' ∧ c.isDigit = false

theorem Closed.of_suffix (closed : Closed t) (ends : u <:+ t) : Closed u := by
  obtain ⟨front, rfl⟩ := ends
  intro c last
  refine closed c ?_
  rw [List.getLast?_append, Option.mem_def.mp last]
  rfl

/-- Before its m a code has nothing that closes a text. -/
theorem IsCode.not_closed {more : Text} (isCode : IsCode bare (t ++ more)) (given : t ≠ [])
    (open_ : more ≠ []) : ¬ Closed t := by
  obtain ⟨digits, numbers, _, whole⟩ := isCode
  obtain ⟨front, last, rfl⟩ := (List.eq_nil_or_concat' t).resolve_left given
  obtain ⟨middle, final, rfl⟩ := (List.eq_nil_or_concat' more).resolve_left open_
  have before : front ++ [last] ++ middle = '\x1b' :: '[' :: digits := by
    rw [← List.append_assoc, ← List.cons_append, ← List.cons_append] at whole
    exact (List.append_inj' whole rfl).1
  -- The text ends within the code, at the escape, the bracket or a digit.
  have inside : last ∈ '\x1b' :: '[' :: digits := by
    rw [← before]
    simp
  intro closed
  obtain ⟨escape, bracket, digit⟩ := closed last (by simp)
  rcases List.mem_cons.mp inside with rfl | later
  · exact escape rfl
  · rcases List.mem_cons.mp later with rfl | number
    · exact bracket rfl
    · exact absurd (numbers last number) (Bool.eq_false_iff.mp digit)

/-- A code that begins in a closed text also ends there. -/
theorem Closed.exists_behind {code : Text} (closed : Closed t) (given : t ≠ [])
    (isCode : IsCode bare code) (same : t ++ rest = code ++ after) :
    ∃ left, t = code ++ left ∧ after = left ++ rest := by
  obtain ⟨more, rfl, behind⟩ | inside := List.append_eq_append_iff.mp same
  · by_cases none : more = []
    · subst none
      exact ⟨[], by simp, by simpa using behind.symm⟩
    · exact absurd closed (isCode.not_closed given none)
  · exact inside

theorem afterCode?_append (bare : Bool) (closed : Closed (c :: t)) (rest : Text) :
    afterCode? bare (c :: (t ++ rest)) = (afterCode? bare (c :: t)).map (· ++ rest) := by
  ext after
  rw [Option.map_eq_some_iff, afterCode?_eq_some_iff, ← List.cons_append]
  constructor
  · rintro ⟨code, isCode, same⟩
    obtain ⟨left, whole, rfl⟩ := closed.exists_behind (List.cons_ne_nil c t) isCode same
    exact ⟨left, afterCode?_eq_some_iff.mpr ⟨code, isCode, whole⟩, rfl⟩
  · rintro ⟨left, found, rfl⟩
    obtain ⟨code, isCode, whole⟩ := afterCode?_eq_some_iff.mp found
    exact ⟨code, isCode, by rw [whole, List.append_assoc]⟩

/-- Behind a closed text deleting starts anew. -/
theorem erase_append (closed : Closed t) (rest : Text) :
    erase bare (t ++ rest) = erase bare t ++ erase bare rest := by
  fun_induction erase bare t with
  | case1 => rfl
  | case2 c left after found shorter ih =>
    -- The code ends before the text does, and what is behind it in the text is closed as well.
    have later := afterCode?_append bare closed rest
    rw [found] at later
    obtain ⟨code, _, whole⟩ := afterCode?_eq_some_iff.mp found
    rw [List.cons_append, erase_of_some later, ih (closed.of_suffix ⟨code, whole.symm⟩)]
  | case3 c left none ih =>
    have later := afterCode?_append bare closed rest
    rw [none] at later
    rw [List.cons_append, erase_of_none later, ih (closed.of_suffix (List.suffix_cons c left)),
      List.cons_append]

/-- Whatever comes behind it, this is left of the text when codes are deleted. -/
def Shows (bare : Bool) (t shown : Text) : Prop :=
  ∀ rest, erase bare (t ++ rest) = shown ++ erase bare rest

theorem Shows.nil : Shows bare [] [] := fun _ => rfl

theorem Shows.append {more : Text} (shows : Shows bare t shown) (next : Shows bare u more) :
    Shows bare (t ++ u) (shown ++ more) := by
  intro rest
  rw [List.append_assoc, shows, next, List.append_assoc]

theorem Shows.erase_eq (shows : Shows bare t shown) : erase bare t = shown := by
  simpa [erase_nil] using shows []

theorem Closed.shows (closed : Closed t) : Shows bare t (erase bare t) := erase_append closed

theorem IsCode.shows {code : Text} (isCode : IsCode bare code) : Shows bare code [] :=
  fun _ => erase_of_some (afterCode?_eq_some_iff.mpr ⟨code, isCode, rfl⟩)

theorem isCode_code {number : String} (given : number.toList ≠ [])
    (digits : number.toList.all Char.isDigit = true) : IsCode bare (code number) :=
  ⟨number.toList, List.all_eq_true.mp digits, .inr given, rfl⟩

theorem isCode_clear : IsCode bare clear := isCode_code (by decide) rfl

theorem closed_concat (t : Text) (closes : c ≠ '\x1b' ∧ c ≠ '[' ∧ c.isDigit = false) :
    Closed (t ++ [c]) := by
  intro last same
  rw [List.getLast?_concat, Option.mem_some_iff] at same
  exact same ▸ closes

end PathHeader.Terminal
