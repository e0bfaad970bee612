import PathHeader.Text.Basic

/-! A text as its lines, each with the terminator it has. Only a line feed ends a line; a carriage
return before it belongs to the terminator. -/
namespace PathHeader

abbrev Lines := List Text

inductive Terminator
  | none
  | lf
  | crlf
  deriving Repr, DecidableEq

namespace Terminator

def text : Terminator → Text
  | .none => []
  | .lf => ['\n']
  | .crlf => ['\r', '\n']

def ofLine (line : Text) : Terminator :=
  if ['\r', '\n'].isSuffixOf line then .crlf
  else if ['\n'].isSuffixOf line then .lf
  else .none

end Terminator

namespace Lines

/-- Cuts a text after every line feed. -/
def split (t : Text) : Lines := t.splitBy fun c _ => c != '\n'

def join (ls : Lines) : Text := ls.flatten

/-- The terminator of inserted lines: the first line decides between the two. -/
def ending : Lines → Terminator
  | [] => .lf
  | first :: _ => if Terminator.ofLine first = .crlf then .crlf else .lf

/-- Lines that splitting can produce: none is empty, a line feed stands only at the end of a line,
and only the last line may lack it. -/
def Canonical (ls : Lines) : Prop :=
  (∀ line ∈ ls, line ≠ [] ∧ '\n' ∉ line.dropLast) ∧
    ∀ line ∈ ls.dropLast, line.getLast? = some '\n'

instance (ls : Lines) : Decidable (Canonical ls) := inferInstanceAs (Decidable (_ ∧ _))

end Lines

end PathHeader
