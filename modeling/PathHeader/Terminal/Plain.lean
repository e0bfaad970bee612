import PathHeader.Text.Utf8

/-! Text without what only a terminal obeys: sequences that an escape character begins, and the
controls that show nothing. Sequences are cut out wherever they come from, so that an argument with
a sequence in it loses that as well. -/
namespace PathHeader.Terminal

inductive Mode
  | ground
  | escape
  | longEscape
  /-- A control sequence, which ends with a letter or a sign near the letters. -/
  | control
  /-- A string for the device, which has parameters and more in front. -/
  | device
  | deviceParameter
  | deviceMark
  /-- A string that the byte 9c ends, also where it is a part of a character. -/
  | string
  /-- A command for the system, which a bell ends. -/
  | command
  deriving Repr, DecidableEq

namespace Mode

def isWithin (low high : Nat) (c : Char) : Bool := low ≤ c.toNat && c.toNat ≤ high

/-- The mode after a character that neither begins nor cancels a sequence. -/
def next (mode : Mode) (c : Char) : Mode :=
  match mode with
  | ground => ground
  | escape =>
    if isWithin 0x20 0x2f c then longEscape
    else if c = '[' then control
    else if c = ']' then command
    else if c = 'P' then device
    else if c = 'X' || c = '^' || c = '_' then string
    else if isWithin 0x30 0x7e c then ground else escape
  | longEscape => if isWithin 0x30 0x7e c then ground else longEscape
  | control => if isWithin 0x40 0x7e c then ground else control
  | device =>
    if isWithin 0x20 0x2f c then deviceMark
    else if isWithin 0x30 0x3f c then deviceParameter
    else if isWithin 0x40 0x7e c then string else device
  | deviceParameter =>
    if isWithin 0x20 0x2f c then deviceMark
    else if isWithin 0x3c 0x7e c then string else deviceParameter
  | deviceMark => if isWithin 0x30 0x7e c then string else deviceMark
  | string => if (Utf8.encode [c]).contains 0x9c then ground else string
  | command => if c.toNat = 7 then ground else command

/-- Whether controls keep their meaning inside the sequence. -/
def obeysControls : Mode → Bool
  | escape => true
  | longEscape => true
  | control => true
  | _ => false

end Mode

def isBlankControl (c : Char) : Bool := c == '\t' || c == '\n' || c == '\x0c' || c == '\r'

def isShown (c : Char) : Bool :=
  Mode.isWithin 0x20 0x7e c || isBlankControl c || 0x80 ≤ c.toNat

/-- A blank control inside a sequence interrupts it: from there on text is shown, until a control
that is not shown leads back into the sequence. -/
structure Position where
  mode : Mode
  isInterrupted : Bool := false
  deriving Repr, DecidableEq

/-- The position after a character, and whether the character is shown. -/
def Position.step (p : Position) (c : Char) : Position × Bool :=
  if c = '\x1b' then (⟨.escape, false⟩, false)
  else if c.toNat = 0x18 || c.toNat = 0x1a then (⟨.ground, false⟩, false)
  else if p.mode = .ground || p.isInterrupted then
    if 0x80 ≤ c.toNat then (⟨.ground, false⟩, true)
    else if isShown c then (p, true)
    else (⟨p.mode, false⟩, false)
  else if p.mode.obeysControls && isBlankControl c then (⟨p.mode, true⟩, true)
  else (⟨p.mode.next c, false⟩, false)

def plainFrom (p : Position) : Text → Text
  | [] => []
  | c :: rest =>
    let (p, shown) := p.step c
    if shown then c :: plainFrom p rest else plainFrom p rest

def plain (t : Text) : Text := plainFrom ⟨.ground, false⟩ t

theorem isShown_of_step {p : Position} {c : Char} (shown : (p.step c).2 = true) :
    isShown c = true := by
  unfold Position.step at shown
  repeat' split at shown
  all_goals simp_all [isShown]

theorem isShown_of_mem_plainFrom (p : Position) (t : Text) {c : Char} (kept : c ∈ plainFrom p t) :
    isShown c = true := by
  induction t generalizing p with
  | nil => simp [plainFrom] at kept
  | cons d rest ih =>
    by_cases shown : (p.step d).2 = true
    · simp only [plainFrom, shown, if_true, List.mem_cons] at kept
      rcases kept with rfl | kept
      · exact isShown_of_step shown
      · exact ih _ kept
    · simp only [plainFrom, shown] at kept
      exact ih _ kept

/-- Nothing is left that a terminal would obey. -/
theorem isShown_of_mem_plain {t : Text} {c : Char} (kept : c ∈ plain t) : isShown c = true :=
  isShown_of_mem_plainFrom _ t kept

/-- Text without such characters stays as it is. -/
theorem plain_eq_self {t : Text} (shown : ∀ c ∈ t, isShown c = true) : plain t = t := by
  have step (c : Char) (h : isShown c = true) :
      Position.step ⟨.ground, false⟩ c = (⟨.ground, false⟩, true) := by
    have notOne (n : Nat) (hidden : isShown (Char.ofNat n) = false) : c.toNat ≠ n := by
      rintro rfl
      rw [Char.ofNat_toNat, h] at hidden
      cases hidden
    have notEscape : c ≠ '\x1b' := fun same => notOne 0x1b (by decide) (by rw [same]; rfl)
    have notCancel : ¬ (c.toNat = 0x18 ∨ c.toNat = 0x1a) := by
      rintro (same | same)
      · exact notOne 0x18 (by decide) same
      · exact notOne 0x1a (by decide) same
    unfold Position.step
    simp [notEscape, notCancel, h]
  induction t with
  | nil => rfl
  | cons c rest ih =>
    have here := step c (shown c (by simp))
    have there := ih fun d mem => shown d (by simp [mem])
    unfold plain at there ⊢
    simp only [plainFrom, here, if_true, there]

theorem plain_plain (t : Text) : plain (plain t) = plain t :=
  plain_eq_self fun _ kept => isShown_of_mem_plain kept

end PathHeader.Terminal
