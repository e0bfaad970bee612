import PathHeader.Header
import PathHeader.RepoPath
import PathHeader.Replacement
import PathHeader.Settings.Config
import PathHeader.Failure

/-! Checking one file: it is skipped, or read, judged, and repaired if its header is not valid. -/
namespace PathHeader

inductive Outcome
  /-- The file lies in an excluded directory and was not looked at. -/
  | skipped
  | unchanged
  | fixed (fixes : List Fix)
  | readError (failure : Failure)
  /-- The repairs were found but could not be written. -/
  | writeError (fixes : List Fix) (failure : Failure)
  deriving Repr, DecidableEq

namespace Outcome

def isFixed : Outcome → Bool
  | .fixed _ => true
  | _ => false

def isError : Outcome → Bool
  | .readError _ => true
  | .writeError _ _ => true
  | _ => false

end Outcome

/-- What a file's bytes say about its header. -/
inductive Verdict
  | unreadable (failure : Failure)
  | valid
  /-- The repairs, and the bytes with the repairs made. -/
  | faulty (fixes : List Fix) (repaired : Bytes)
  deriving Repr, DecidableEq

structure Checker where
  root : Text
  marker : Text
  excludedDirs : List Text
  deriving Repr, DecidableEq

namespace Checker

def ofConfig (root : Text) (config : Config) : Checker :=
  ⟨root, config.marker, config.excludedDirs⟩

def excludes (c : Checker) (raw : Text) : Bool :=
  (RepoPath.normalize raw).isExcluded c.excludedDirs

/-- The header that a file has to have. It names the path as it was given, in normal form. -/
def header (c : Checker) (raw : Text) : Text := (RepoPath.normalize raw).header c.marker

def path (c : Checker) (raw : Text) : Text := Path.join c.root raw

def judgeText (c : Checker) (raw content : Text) : Verdict :=
  match Header.repair c.marker (c.header raw) (Lines.split content) with
  | (_, []) => .valid
  | (lines, fixes) => .faulty fixes (Utf8.encode lines.join)

def judge (c : Checker) (raw : Text) : Except Cause Bytes → Verdict
  | .error cause => .unreadable (.io cause)
  | .ok bytes =>
    match Utf8.decode bytes with
    | .error fault => .unreadable (.notUtf8 fault)
    | .ok content => c.judgeText raw content

/-- Checks a file while the steps of a replacement are responded to. -/
def processWith (c : Checker) (respond : Replacement.Step → Replacement.Response) (fs : FileSystem)
    (raw : Text) : Outcome × FileSystem :=
  if c.excludes raw then (.skipped, fs)
  else match c.judge raw (fs.read (c.path raw)) with
  | .unreadable failure => (.readError failure, fs)
  | .valid => (.unchanged, fs)
  | .faulty fixes repaired =>
    match Replacement.atPath respond fs (c.path raw) repaired with
    | (none, fs) => (.fixed fixes, fs)
    | (some cause, fs) => (.writeError fixes (.io cause), fs)

def process (c : Checker) (fs : FileSystem) (raw : Text) : Outcome × FileSystem :=
  c.processWith (fun _ => .carriedOut) fs raw

end Checker

end PathHeader
