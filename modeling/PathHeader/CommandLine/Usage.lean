import PathHeader.CommandLine.Invocation
import PathHeader.Terminal.Style

/-! What the program says about its own use, in styled text. -/
namespace PathHeader

namespace Usage

def programName : Text := "headerfix-pre-commit".toList

def version : Text := programName ++ " 0.1.0\n".toList

/-- How the program is called, with the arguments given between its name and the end. -/
def line (arguments : Text) : Text :=
  Terminal.heading "Usage:".toList ++ ' ' :: Terminal.bold programName ++ ' ' :: arguments

def anyFiles : Text := "[FILES]...".toList

/-- The line about a flag; all of them begin their notes in one column. -/
def flagLine (f : Flag) (note : Text) : Text :=
  [' ', ' '] ++ Terminal.bold ['-', f.letter] ++ [',', ' '] ++ Terminal.bold f.long ++
    List.replicate (9 - f.name.length) ' ' ++ note ++ ['\n']

def help : Text :=
  "Checks and auto-fixes file path headers\n\n".toList ++ line anyFiles ++ "\n\n".toList ++
    Terminal.heading "Arguments:".toList ++
    "\n  [FILES]...  Files to check, relative to the repository root\n\n".toList ++
    Terminal.heading "Options:".toList ++ '\n' :: flagLine .help "Print help".toList ++
    flagLine .version "Print version".toList ++
    "\nExit status is 1 when any file was fixed (re-stage it) or could not be checked.\n".toList

def ofFlag : Flag → Text
  | .help => help
  | .version => version

end Usage

namespace Complaint

def quoted (t : Text) : Text := '\'' :: t ++ ['\'']

def wrong : Text → Text := Terminal.paint ["33"]

def right : Text → Text := Terminal.paint ["32"]

/-- An argument that looks like a flag can be given as a file after two hyphens. -/
def asFile (argument : Text) : Text :=
  "to pass ".toList ++ quoted (wrong argument) ++ " as a value, use ".toList ++
    quoted (right ("-- ".toList ++ argument))

def unexpected (argument tip arguments : Text) : Text :=
  "unexpected argument ".toList ++ quoted (wrong argument) ++ " found\n\n  ".toList ++
    right "tip:".toList ++ ' ' :: tip ++ "\n\n".toList ++ Usage.line arguments

def body : Complaint → Text
  | .unknownName name similar afterFiles =>
    let argument := "--".toList ++ name
    let files := if afterFiles then "<FILES>...".toList else Usage.anyFiles
    match similar with
    | none => unexpected argument (asFile argument) files
    | some f =>
      unexpected argument ("a similar argument exists: ".toList ++ quoted (right f.long))
        (Terminal.bold f.long ++ ' ' :: files)
  | .unknownLetter letter =>
    let argument := '-' :: letter
    unexpected argument (asFile argument) Usage.anyFiles
  | .unneededValue f value =>
    "unexpected value ".toList ++ quoted (wrong value) ++ " for ".toList ++
      quoted (Terminal.bold f.long) ++ " found; no more were expected\n\n".toList ++
      Usage.line (Terminal.bold f.long ++ ' ' :: Usage.anyFiles)
  | .notUtf8 =>
    "invalid UTF-8 was detected in one or more arguments\n\n".toList ++ Usage.line Usage.anyFiles

def message (c : Complaint) : Text :=
  Terminal.paint ["1", "31"] "error:".toList ++ ' ' :: c.body ++
    "\n\nFor more information, try ".toList ++ quoted (Terminal.bold Flag.help.long) ++ ".\n".toList

end Complaint

end PathHeader
