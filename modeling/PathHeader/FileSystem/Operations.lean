import PathHeader.FileSystem.Walk
import PathHeader.FileSystem.Mode

/-! Reading, creating, filling, renaming and removing. A file that has been opened is known by its
place, whatever path led there. -/
namespace PathHeader.FileSystem

def read (fs : FileSystem) (path : Text) : Except Cause Bytes :=
  match fs.resolve path with
  | .error cause => .error cause
  | .ok place =>
    match fs.get? place with
    | some (.file bytes mode) => if mayRead mode then .ok bytes else .error .permissionDenied
    | _ => .error .isDirectory

def exists? (fs : FileSystem) (path : Text) : Bool := (fs.resolve path).isOk

def mode (fs : FileSystem) (place : Place) : Nat :=
  match fs.get? place with
  | some (.file _ mode) => mode
  | _ => newFileMode

/-- Walks from a directory to one of its names. The directory is named in full, so that the path may
be too long. -/
def walkName (fs : FileSystem) (creating : Bool) (directory : Place) (name : Text) :
    Except Cause Reached :=
  if maxPath ≤ pathSize (name :: directory) then .error .nameTooLong
  else fs.walk creating maxLinks directory [.name name]

/-- Whether a walk from a directory to one of its names, links followed, ends at a file. -/
def leadsToFile (fs : FileSystem) (directory : Place) (name : Text) : Bool :=
  match fs.walkName false directory name with
  | .ok (.entry place) =>
    match fs.get? place with
    | some (.file _ _) => true
    | _ => false
  | _ => false

/-- Opens for writing what a walk has reached, and makes it if it was missing. Without `keep` the
file is emptied. -/
def openReached (fs : FileSystem) (keep : Bool) : Reached → Except Cause (Place × FileSystem)
  | .vacant place => .ok (place, fs.set place (.file [] newFileMode))
  | .entry place =>
    match fs.get? place with
    | some (.file bytes mode) =>
      if mayWrite mode then .ok (place, fs.set place (.file (if keep then bytes else []) mode))
      else .error .permissionDenied
    | _ => .error .isDirectory

/-- Opens the name in a directory for writing and empties it. A link there is followed. -/
def create (fs : FileSystem) (directory : Place) (name : Text) :
    Except Cause (Place × FileSystem) :=
  match fs.walkName true directory name with
  | .error cause => .error cause
  | .ok reached => fs.openReached false reached

def append (fs : FileSystem) (place : Place) (bytes : Bytes) : FileSystem :=
  match fs.get? place with
  | some (.file old mode) => fs.set place (.file (old ++ bytes) mode)
  | _ => fs

/-- Opens a path from a directory for writing at the end of the file, and holds the file open. -/
def hold (fs : FileSystem) (directory : Place) (path : Text) : Except Cause FileSystem :=
  match fs.walkPath true directory path with
  | .error cause => .error cause
  | .ok reached =>
    (fs.openReached true reached).map fun (place, fs) => { fs with held := some place }

/-- Puts bytes at the end of the file that is held open. They are lost with a file that no longer
has a place. -/
def appendHeld (fs : FileSystem) (bytes : Bytes) : FileSystem :=
  match fs.held with
  | some place => fs.append place bytes
  | none => fs

def setMode (fs : FileSystem) (place : Place) (mode : Nat) : FileSystem :=
  match fs.get? place with
  | some (.file bytes _) => fs.set place (.file bytes mode)
  | _ => fs

/-- Removes a file or a link, itself and not what it stands for. -/
def remove (fs : FileSystem) (place : Place) : FileSystem :=
  { fs.erase place with held := if fs.held = some place then none else fs.held }

/-- Where the file that is held open is once something has moved. -/
def heldAfter (fs : FileSystem) (old new : Place) : Option Place :=
  if fs.held = some old then some new else if fs.held = some new then none else fs.held

/-- Moves a file or a link, itself and not what it stands for, over whatever file or link is at
the new place. -/
def rename (fs : FileSystem) (old new : Place) : Except Cause FileSystem :=
  match fs.get? old, fs.get? new with
  | none, _ => .error .notFound
  | some _, some .directory => .error .isDirectory
  | some entry, _ => .ok { (fs.erase old).set new entry with held := fs.heldAfter old new }

theorem get?_remove (fs : FileSystem) {place : Place} (inside : place ≠ []) (other : Place) :
    (fs.remove place).get? other = if other = place then none else fs.get? other :=
  get?_erase fs inside other

theorem get?_append (fs : FileSystem) {place : Place} {old : Bytes} {mode : Nat}
    (inside : place ≠ []) (file : fs.get? place = some (.file old mode)) (bytes : Bytes)
    (other : Place) :
    (fs.append place bytes).get? other =
      if other = place then some (.file (old ++ bytes) mode) else fs.get? other := by
  simp only [append, file]
  exact get?_set fs inside _ other

theorem get?_setMode (fs : FileSystem) {place : Place} {bytes : Bytes} {old : Nat}
    (inside : place ≠ []) (file : fs.get? place = some (.file bytes old)) (mode : Nat)
    (other : Place) :
    (fs.setMode place mode).get? other =
      if other = place then some (.file bytes mode) else fs.get? other := by
  simp only [setMode, file]
  exact get?_set fs inside _ other

/-- After a rename the entry is at its new place and nowhere else. -/
theorem get?_rename {fs after : FileSystem} {old new : Place} (leaves : old ≠ [])
    (enters : new ≠ []) (renamed : fs.rename old new = .ok after) (other : Place) :
    after.get? other =
      if other = new then fs.get? old else if other = old then none else fs.get? other := by
  unfold rename at renamed
  split at renamed
  · cases renamed
  · cases renamed
  · next entry found _ =>
    cases renamed
    exact (get?_set _ enters entry other).trans (by rw [get?_erase _ leaves, found])

end PathHeader.FileSystem
