import PathHeader.CommandLine.Usage
import PathHeader.Run
import PathHeader.Settings.Load
import PathHeader.Terminal.Choice
import PathHeader.Terminal.Plain

/-! The program as a function of what it is called with and of the files around it. Failures before
the first file end it with code two, and then nothing was changed. -/
namespace PathHeader

structure Call where
  arguments : List Bytes
  environment : Terminal.Environment
  /-- The working directory, an absolute path. -/
  directory : Text
  now : Text

/-- A variable whose value is not text counts as not set. -/
def Call.lookup (call : Call) (name : Text) : Option Text :=
  (call.environment name).bind fun bytes => (Utf8.decode bytes).toOption

/-- Log lines for the standard error are coloured unless a variable forbids it with a text that is
not empty. -/
def Call.logStyle (call : Call) : Record.Style :=
  match call.lookup "NO_COLOR".toList with
  | some (_ :: _) => .plain
  | _ => .coloured

def Call.render (call : Call) (isTerminal : Bool) (t : Text) : Text :=
  if call.environment.keepsStyles isTerminal then t else Terminal.plain t

/-- Which of the outputs a terminal reads along with. -/
structure Terminals where
  stdout : Bool := false
  stderr : Bool := false
  deriving Repr, DecidableEq

/-- Where reports go to: the standard output, which takes them all. -/
def Call.writer (call : Call) (terminals : Terminals) : Writer :=
  ⟨call.environment.coloursReports terminals.stdout, none, []⟩

structure Ending where
  code : Nat
  stdout : Bytes
  stderr : Text
  fs : FileSystem

inductive SetupFailure
  | settings (failure : Failure)
  | badLevel (level : Text)
  | logFile (cause : Cause)
  deriving Repr, DecidableEq

/-- A failure with the cause below it once more. -/
def Failure.chain (failure : Failure) : Text :=
  match failure with
  | .io cause => failure.message ++ ": ".toList ++ cause.message
  | .notUtf8 fault => failure.message ++ ": ".toList ++ fault.message
  | .badSetting _ => failure.message

def SetupFailure.message : SetupFailure → Text
  | .settings failure => failure.chain
  | .badLevel level => "Invalid log level: ".toList ++ level
  | .logFile cause => cause.message

inductive Log
  /-- To the standard error, as lines to read. -/
  | shown (level : Level)
  /-- To the end of the file that is held open. -/
  | kept (journal : Journal)
  deriving Repr, DecidableEq

namespace Log

/-- Opens the log that the settings ask for; its file is made if it is missing. -/
def setUp (call : Call) (fs : FileSystem) (config : Config) :
    Except SetupFailure (Log × FileSystem) :=
  match Level.parse config.logLevel, config.logFile with
  | .error level, _ => .error (.badLevel level)
  | .ok level, none => .ok (.shown level, fs)
  | .ok level, some path =>
    match fs.resolve call.directory with
    | .error cause => .error (.logFile cause)
    | .ok directory =>
      match fs.hold directory path with
      | .error cause => .error (.logFile cause)
      | .ok fs => .ok (.kept ⟨level, call.now⟩, fs)

def journal? : Log → Option Journal
  | .shown _ => none
  | .kept journal => some journal

def keep (log : Log) (event : Event) (fs : FileSystem) : FileSystem :=
  match log with
  | .shown _ => fs
  | .kept journal => journal.write event fs

def lines (log : Log) (style : Record.Style) (now : Text) (events : List Event) : Text :=
  match log with
  | .shown level => (level.records events).flatMap (Record.line style now)
  | .kept _ => []

end Log

namespace Program

def setUp (call : Call) (fs : FileSystem) : Except SetupFailure (Config × Log × FileSystem) :=
  match Config.load fs call.directory call.lookup with
  | .error failure => .error (.settings failure)
  | .ok config =>
    match Log.setUp call fs config with
    | .error failure => .error failure
    | .ok (log, fs) => .ok (config, log, fs)

def onFiles (call : Call) (terminals : Terminals) (raws : List Text) (fs : FileSystem) : Ending :=
  match setUp call fs with
  | .error failure =>
    { code := 2, stdout := [], stderr := "headerfix: ".toList ++ failure.message ++ ['\n'], fs }
  | .ok (config, log, fs) =>
    let loaded := Event.configLoaded config
    let run := Run.ofFiles (.ofConfig call.directory config) raws (log.keep loaded fs)
      (call.writer terminals) log.journal?
    { code := run.summary.exitCode, stdout := run.writer.written,
      stderr := log.lines call.logStyle call.now (loaded :: run.events), fs := run.fs }

/-- Unless it is said otherwise, no terminal reads along. -/
def run (call : Call) (fs : FileSystem) (terminals : Terminals := {}) : Ending :=
  match Invocation.ofArguments call.arguments with
  | .files raws => onFiles call terminals raws fs
  | .flag f =>
    { code := 0, stdout := Utf8.encode (call.render terminals.stdout (Usage.ofFlag f)),
      stderr := [], fs }
  | .refused complaint =>
    { code := 2, stdout := [], stderr := call.render terminals.stderr complaint.message, fs }

end Program

end PathHeader
