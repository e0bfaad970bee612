import PathHeader.FileSystem.Canonical
import PathHeader.FileSystem.Operations

/-! Replacing a file's bytes all at once. The new bytes go into a draft beside the file, and the
draft then takes the file's place in a single step. Any step can be refused, by the files themselves
or from outside, so that it can be said what is left behind when a replacement is interrupted. -/
namespace PathHeader

/-- New bytes for the file of some name in a directory, and the mode that it keeps. -/
structure Replacement where
  directory : Place
  name : Text
  bytes : Bytes
  mode : Nat
  deriving Repr, DecidableEq

namespace Replacement

def draftName (name : Text) : Text := '.' :: name ++ ".headerfix.tmp".toList

def target (r : Replacement) : Place := r.name :: r.directory

def draft (r : Replacement) : Place := draftName r.name :: r.directory

/-- The replacement for the file that a path leads to. The file keeps its mode. From here on it goes
by its own path. -/
def ofPath (fs : FileSystem) (path : Text) (bytes : Bytes) : Except Cause Replacement :=
  match fs.canonicalize path with
  | .error cause => .error cause
  | .ok [] => .error .noFileName
  | .ok (name :: directory) => .ok ⟨directory, name, bytes, fs.mode (name :: directory)⟩

inductive Step
  | create
  | write
  | setMode
  /-- Waits until the draft is stored. -/
  | sync
  | rename
  deriving Repr, DecidableEq

def steps : List Step := [.create, .write, .setMode, .sync, .rename]

/-- The files in the middle of a replacement, and the place of the draft that is open. A link under
the draft's name leads elsewhere. -/
structure State where
  fs : FileSystem
  opened : Place
  deriving Repr, DecidableEq

def take (r : Replacement) (s : State) : Step → Except Cause State
  | .create => (s.fs.create r.directory (draftName r.name)).map fun (place, fs) => ⟨fs, place⟩
  | .write => .ok { s with fs := s.fs.append s.opened r.bytes }
  | .setMode => .ok { s with fs := s.fs.setMode s.opened r.mode }
  | .sync => .ok s
  | .rename => (s.fs.rename r.draft r.target).map fun fs => { s with fs }

inductive Response
  | carriedOut
  /-- The step fails. A write may have put some of the bytes into the draft. -/
  | refused (cause : Cause) (written : Nat)
  deriving Repr, DecidableEq

def attempt (r : Replacement) (s : State) (step : Step) : Response → State × Option Cause
  | .carriedOut =>
    match r.take s step with
    | .ok s => (s, none)
    | .error cause => (s, some cause)
  | .refused cause written =>
    match step with
    | .write => ({ s with fs := s.fs.append s.opened (r.bytes.take written) }, some cause)
    | _ => (s, some cause)

/-- Takes the steps one after another, up to the first that fails. -/
def perform (r : Replacement) (respond : Step → Response) : List Step → State → State × Option Cause
  | [], s => (s, none)
  | step :: rest, s =>
    match r.attempt s step (respond step) with
    | (s, none) => perform r respond rest s
    | (s, some cause) => (s, some cause)

/-- Removes a draft that was left behind, if it leads to a file. -/
def cleanUp (r : Replacement) (fs : FileSystem) : FileSystem :=
  if fs.leadsToFile r.directory (draftName r.name) then fs.remove r.draft else fs

/-- All steps: the cause of the failure, if one failed, and the files after it. -/
def run (r : Replacement) (respond : Step → Response) (fs : FileSystem) :
    Option Cause × FileSystem :=
  match r.perform respond steps ⟨fs, r.draft⟩ with
  | (s, none) => (none, s.fs)
  | (s, some cause) => (some cause, r.cleanUp s.fs)

def atPath (respond : Step → Response) (fs : FileSystem) (path : Text) (bytes : Bytes) :
    Option Cause × FileSystem :=
  match ofPath fs path bytes with
  | .error cause => (some cause, fs)
  | .ok r => r.run respond fs

end Replacement

end PathHeader
