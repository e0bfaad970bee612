import PathHeader.Settings.Config
import PathHeader.Toml.Document

/-! Settings come in layers: what a layer sets replaces what the layers below it say. A document and
the environment each make up one layer. -/
namespace PathHeader

structure Layer where
  marker : Option Text := none
  excludedDirs : Option (List Text) := none
  logLevel : Option Text := none
  /-- A layer can also set that there is no log file. -/
  logFile : Option (Option Text) := none
  deriving Repr, DecidableEq

def Config.overlay (base : Config) (layer : Layer) : Config where
  marker := layer.marker.getD base.marker
  excludedDirs := layer.excludedDirs.getD base.excludedDirs
  logLevel := layer.logLevel.getD base.logLevel
  logFile := layer.logFile.getD base.logFile

namespace Layer

/-- The names in a list with commas; blanks around them and empty ones do not count. -/
def names (list : Text) : List Text :=
  ((Text.splitOn ',' list).map Text.trim).filter (· ≠ [])

def markerVariable : Text := "HEADERFIX_COMMENT_PREFIX".toList

def excludedDirsVariable : Text := "HEADERFIX_EXCLUDED_DIRS".toList

def logLevelVariable : Text := "HEADERFIX_LOG_LEVEL".toList

def logFileVariable : Text := "HEADERFIX_LOG_FILE".toList

/-- The layer of the environment. An empty log file means that there is none. -/
def ofEnvironment (lookup : Text → Option Text) : Layer where
  marker := lookup markerVariable
  excludedDirs := (lookup excludedDirsVariable).map names
  logLevel := lookup logLevelVariable
  logFile := (lookup logFileVariable).map fun path => if path = [] then none else some path

open Toml

def string (key : Key) (expected : Expected) : Item → Except Mismatch Text
  | .string _ text => .ok text
  | item => .error (.ofItem key item expected)

def strings (key : Key) : Item → Except Mismatch (List Text)
  | .array _ items => items.mapM (string key .string)
  | .tables elements =>
    elements.mapM fun (span, entries) =>
      string key .string (.table .header (some span) entries)
  | item => .error (.ofItem key item .sequence)

/-- Takes one entry of a document into the layer. Keys without a meaning here are passed over. -/
def take (layer : Layer) (entry : Key × Item) : Except Mismatch Layer :=
  let (key, item) := entry
  if key.text = "comment_prefix".toList then
    (string key .string item).map fun marker => { layer with marker }
  else if key.text = "excluded_dirs".toList then
    (strings key item).map fun names => { layer with excludedDirs := names }
  else if key.text = "log_level".toList then
    (string key .string item).map fun level => { layer with logLevel := level }
  else if key.text = "log_file".toList then
    (string key .path item).map fun path => { layer with logFile := some path }
  else .ok layer

/-- The layer of a document, or the first entry that has the wrong type. -/
def ofEntries (entries : Entries) : Except Mismatch Layer := entries.foldlM take {}

def ofDocument (path document : Text) : Except Problem Layer :=
  match Toml.parse? document with
  | none => .error (.malformedDocument path)
  | some entries =>
    match ofEntries entries with
    | .error mismatch => .error (.wrongType path document mismatch)
    | .ok layer => .ok layer

end Layer

end PathHeader
