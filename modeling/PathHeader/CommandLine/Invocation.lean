import PathHeader.Text.Utf8
import PathHeader.CommandLine.Similar

/-! The arguments of the program: files, or one of two flags. Arguments that are neither are
complained about. -/
namespace PathHeader

inductive Flag
  | help
  | version
  deriving Repr, DecidableEq

namespace Flag

def all : List Flag := [.help, .version]

def name : Flag → Text
  | .help => "help".toList
  | .version => "version".toList

def letter : Flag → Char
  | .help => 'h'
  | .version => 'V'

def long (f : Flag) : Text := "--".toList ++ f.name

def ofName? (name : Text) : Option Flag := all.find? fun f => f.name == name

def ofLetter? (letter : Char) : Option Flag := all.find? fun f => f.letter == letter

end Flag

inductive Complaint
  /-- No flag of this name; perhaps another was meant. Files may have come before. -/
  | unknownName (name : Text) (similar : Option Flag) (afterFiles : Bool)
  | unknownLetter (letter : Text)
  | unneededValue (flag : Flag) (value : Text)
  | notUtf8
  deriving Repr, DecidableEq

inductive Invocation
  | files (raws : List Text)
  | flag (f : Flag)
  | refused (complaint : Complaint)
  deriving Repr, DecidableEq

namespace Invocation

/-- Acts on a flag, for which the files so far have to be text. -/
def onFlag (files : List Bytes) (f : Flag) : Invocation :=
  if files.all fun file => (Utf8.decode file).isOk then .flag f else .refused .notUtf8

/-- A flag by its name, perhaps with a value after an equals sign, which no flag takes. -/
def onName (files : List Bytes) (argument : Bytes) : Invocation :=
  let equals := 0x3d
  let name := Utf8.lossy (argument.takeWhile (· ≠ equals))
  match Flag.ofName? name, argument.dropWhile (· ≠ equals) with
  | some f, [] => onFlag files f
  | some f, _ :: value => .refused (.unneededValue f (Utf8.lossy value))
  | none, _ =>
    .refused (.unknownName name (Similar.closest? Flag.name name Flag.all) !files.isEmpty)

/-- Flags by their letters, any number of them after one hyphen. The first one decides. -/
def onLetters (files : List Bytes) (letters : Bytes) : Invocation :=
  let (good, bad) := match Utf8.decode letters with
    | .ok _ => (letters, [])
    | .error fault => letters.splitAt fault.start
  match Utf8.lossy good with
  | [] => .refused (.unknownLetter (Utf8.lossy bad))
  | letter :: _ =>
    match Flag.ofLetter? letter with
    | some f => onFlag files f
    | none => .refused (.unknownLetter [letter])

def ofFiles (files : List Bytes) : Invocation :=
  match files.mapM Utf8.decode with
  | .ok raws => .files raws
  | .error _ => .refused .notUtf8

/-- Reads arguments after the files so far. Two hyphens alone end the flags; one hyphen alone is a
file. -/
def read (files : List Bytes) : List Bytes → Invocation
  | [] => ofFiles files
  | argument :: rest =>
    match argument with
    | [0x2d, 0x2d] => ofFiles (files ++ rest)
    | 0x2d :: 0x2d :: name => onName files name
    | 0x2d :: letter :: letters => onLetters files (letter :: letters)
    | file => read (files ++ [file]) rest

def ofArguments (arguments : List Bytes) : Invocation := read [] arguments

end Invocation

end PathHeader
