import PathHeader.Text.Lower

/-! How much is logged. A level is written in letters of either case. -/
namespace PathHeader

inductive Level
  | error
  | warn
  | info
  | debug
  deriving Repr, DecidableEq

namespace Level

/-- The higher the rank, the more is logged. -/
def rank : Level → Nat
  | error => 1
  | warn => 2
  | info => 3
  | debug => 4

/-- Whether a log kept at a level takes what is said at `said`. -/
def Takes (kept said : Level) : Prop := said.rank ≤ kept.rank

instance (kept said : Level) : Decidable (Takes kept said) := inferInstanceAs (Decidable (_ ≤ _))

def name : Level → Text
  | error => "ERROR".toList
  | warn => "WARN".toList
  | info => "INFO".toList
  | debug => "DEBUG".toList

/-- Reads a level; a text that names none comes back in lower case. -/
def parse (t : Text) : Except Text Level :=
  let small := Text.lower t
  if small = "error".toList then .ok error
  else if small = "warn".toList then .ok warn
  else if small = "info".toList then .ok info
  else if small = "debug".toList then .ok debug
  else .error small

/-- The spellings that settings may use, in lower case. -/
def spellings : List Text := ["error", "warn", "info", "debug"].map String.toList

end Level

end PathHeader
