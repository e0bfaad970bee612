import PathHeader.FileSystem.Operations

/-! Building a tree by hand: directories, files and links under a starting directory, and taking
them away. Directories that a path needs are made on the way. -/
namespace PathHeader.FileSystem

/-- The steps of a path that make a difference to where it leads. -/
def steps (path : Text) : List Component :=
  (Path.components path).filter fun step => step ≠ .here && step ≠ .slash

/-- Goes through a name into a directory, which is made if nothing has that name. A name that is
taken by something else is refused: the last of a path because it exists. -/
def enter (fs : FileSystem) (place : Place) (isLast : Bool) :
    Component → Except Cause (FileSystem × Place)
  | .name text =>
    match fs.get? (text :: place), fs.walk false maxLinks place [.name text] with
    | none, .error cause => .error cause
    | none, .ok _ => .ok (fs.set (text :: place) .directory, text :: place)
    | some _, .ok (.vacant _) => .error .alreadyExists
    | some _, .ok (.entry next) =>
      if fs.get? next = some .directory then .ok (fs, next)
      else .error (if isLast then .alreadyExists else .notDirectory)
    | some _, .error cause =>
      .error (if isLast || cause = .notFound then .alreadyExists else cause)
  | .up => .ok (fs, place.tail)
  | _ => .ok (fs, place)

/-- Goes along the steps, and makes a directory wherever a name is missing. -/
def makeDirectories (fs : FileSystem) (place : Place) :
    List Component → Except Cause (FileSystem × Place)
  | [] => .ok (fs, place)
  | step :: rest =>
    match fs.enter place rest.isEmpty step with
    | .error cause => .error cause
    | .ok (fs, place) => makeDirectories fs place rest

def addDirectory (fs : FileSystem) (start : Place) (path : Text) : Except Cause FileSystem :=
  if Path.holdsNul path then .error .nulInPath
  else (fs.makeDirectories start (steps path)).map Prod.fst

/-- The tree with the directories above the path's last name, and their place. -/
def withParents (fs : FileSystem) (start : Place) (path : Text) :
    Except Cause (FileSystem × Place) :=
  if Path.holdsNul path then .error .nulInPath
  else fs.makeDirectories start (steps path).dropLast

/-- Writes a file and sets its mode, through a link if one stands at the path. -/
def addFile (fs : FileSystem) (start : Place) (path : Text) (bytes : Bytes) (mode : Nat) :
    Except Cause FileSystem :=
  match fs.withParents start path with
  | .error cause => .error cause
  | .ok (fs, _) =>
    match fs.walkPath true start path with
    | .error cause => .error cause
    | .ok reached =>
      (fs.openReached false reached).map fun (place, fs) => fs.set place (.file bytes mode)

def addLink (fs : FileSystem) (start : Place) (path target : Text) : Except Cause FileSystem :=
  match fs.withParents start path, (steps path).getLast? with
  | .error cause, _ => .error cause
  | .ok (fs, directory), some (.name text) =>
    if Path.holdsNul target then .error .nulInPath
    else if target = [] then .error .notFound
    else if maxName < Utf8.size text then .error .nameTooLong
    else match fs.get? (text :: directory) with
    | none => .ok (fs.set (text :: directory) (.link target))
    | some _ => .error .alreadyExists
  | .ok _, _ => .error .alreadyExists

/-- Removes the entry at the path, a link itself, and everything below a directory. -/
def removeTree (fs : FileSystem) (start : Place) (path : Text) : Except Cause FileSystem :=
  match fs.walk false maxLinks start (steps path).dropLast, (steps path).getLast? with
  | .error cause, _ => .error cause
  | .ok (.entry directory), some (.name text) =>
    if fs.get? directory ≠ some .directory then .error .notDirectory
    else match fs.get? (text :: directory) with
    | none => .error .notFound
    | some _ =>
      .ok { fs with
        entries := fs.entries.filter fun item => !(text :: directory).isSuffixOf item.1 }
  | .ok _, _ => .error .notFound

end PathHeader.FileSystem
