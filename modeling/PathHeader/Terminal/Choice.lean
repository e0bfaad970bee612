import PathHeader.Text.Utf8

/-! Whether styles are wanted where text is written to. Variables of the environment have the first
say, then it matters whether a terminal reads along. -/
namespace PathHeader.Terminal

abbrev Environment := Text → Option Bytes

namespace Environment

def isFilled (environment : Environment) (name : String) : Bool :=
  match environment name.toList with
  | some (_ :: _) => true
  | _ => false

def forbidsStyles (environment : Environment) : Bool := environment.isFilled "NO_COLOR"

def demandsStyles (environment : Environment) : Bool := environment.isFilled "CLICOLOR_FORCE"

/-- The kind of the terminal is known, and it is one that shows styles. -/
def knowsTerminal (environment : Environment) : Bool :=
  let kind := environment "TERM".toList
  kind.isSome && kind ≠ some (Utf8.encode "dumb".toList)

/-- Whether a terminal may be given styles: no variable turns them off, and its kind is known to
show them, or a variable says that they are welcome. -/
def offersStyles (environment : Environment) : Bool :=
  let choice := environment "CLICOLOR".toList
  choice ≠ some (Utf8.encode ['0']) &&
    (choice.isSome || (environment "CI".toList).isSome || environment.knowsTerminal)

/-- Whether styles are kept in what is written. -/
def keepsStyles (environment : Environment) (isTerminal : Bool) : Bool :=
  !environment.forbidsStyles &&
    (environment.demandsStyles || (isTerminal && environment.offersStyles))

/-- Whether reports are coloured. The variable that forbids it may be empty here, and none can
demand it. -/
def coloursReports (environment : Environment) (isTerminal : Bool) : Bool :=
  isTerminal && (environment "NO_COLOR".toList).isNone && environment.knowsTerminal

end Environment

end PathHeader.Terminal
