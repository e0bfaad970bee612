import PathHeader.FileSystem.Operations
import PathHeader.Log.Line

/-! A log that is kept in a file. The file is held open, so that the log follows it when it moves,
and is lost with it. -/
namespace PathHeader

structure Journal where
  level : Level
  /-- The time that its lines show. -/
  now : Text
  deriving Repr, DecidableEq

/-- Takes an event down, if it is important enough for the level. -/
def Journal.write (j : Journal) (event : Event) (fs : FileSystem) : FileSystem :=
  fs.appendHeld (Utf8.encode ((j.level.records [event]).flatMap (Record.json j.now)))

end PathHeader
