import PathHeader.Summary

/-! What is logged, apart from how it is written: a level, a message, and fields with names. -/
namespace PathHeader

inductive FieldValue
  | text (t : Text)
  | number (n : Nat)
  deriving Repr, DecidableEq

structure Record where
  level : Level
  message : Text
  fields : List (Text × FieldValue)
  deriving Repr, DecidableEq

/-- Something that happened; paths are in normal form. -/
inductive Event
  | configLoaded (config : Config)
  | skipped (path : RepoPath)
  | unreadable (path : RepoPath) (failure : Failure)
  | valid (path : RepoPath)
  | repaired (path : RepoPath) (fixes : Nat)
  | unwritable (path : RepoPath) (failure : Failure)
  | runComplete (summary : Summary)
  deriving Repr, DecidableEq

def Config.text (config : Config) : Text :=
  let logFile := match config.logFile with
    | none => "None".toList
    | some path => "Some(".toList ++ Text.Quoted.quote path ++ [')']
  "Config \x7b comment_prefix: ".toList ++ Text.Quoted.quote config.marker ++
    ", excluded_dirs: ".toList ++ Text.Quoted.quoteAll config.excludedDirs ++
    ", log_level: ".toList ++ Text.Quoted.quote config.logLevel ++
    ", log_file: ".toList ++ logFile ++ " \x7d".toList

namespace Event

/-- The event of an outcome; every outcome has one. -/
def ofOutcome (raw : Text) (outcome : Outcome) : Event :=
  let path := RepoPath.normalize raw
  match outcome with
  | .skipped => .skipped path
  | .unchanged => .valid path
  | .fixed fixes => .repaired path fixes.length
  | .readError failure => .unreadable path failure
  | .writeError _ failure => .unwritable path failure

def pathField (path : RepoPath) : Text × FieldValue := ("path".toList, .text path.text)

def errorField (failure : Failure) : Text × FieldValue := ("error".toList, .text failure.message)

def record : Event → Record
  | .configLoaded config =>
    ⟨.debug, "loaded configuration".toList, [("config".toList, .text config.text)]⟩
  | .skipped path => ⟨.debug, "skipping excluded path".toList, [pathField path]⟩
  | .unreadable path failure =>
    ⟨.warn, "failed to read file".toList, [pathField path, errorField failure]⟩
  | .valid path => ⟨.debug, "header already valid".toList, [pathField path]⟩
  | .repaired path fixes =>
    ⟨.info, "rewrote header".toList, [pathField path, ("fixes".toList, .number fixes)]⟩
  | .unwritable path failure =>
    ⟨.warn, "failed to write file".toList, [pathField path, errorField failure]⟩
  | .runComplete summary =>
    ⟨.debug, "pre-commit run complete".toList,
      [("checked".toList, .number summary.checked), ("skipped".toList, .number summary.skipped),
        ("fixed".toList, .number summary.fixed), ("failed".toList, .number summary.failed)]⟩

end Event

def Level.records (kept : Level) (events : List Event) : List Record :=
  (events.map Event.record).filter fun record => kept.Takes record.level

end PathHeader
