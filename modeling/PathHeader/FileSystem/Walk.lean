import PathHeader.FileSystem.Basic
import PathHeader.FileSystem.Path
import PathHeader.FileSystem.Cause

/-! Walking along a path. Every step but the last leads into a directory, links are followed
wherever they stand, and names, paths and chains of links have greatest lengths. -/
namespace PathHeader.FileSystem

def maxName : Nat := 255

/-- Paths of this many bytes are refused. -/
def maxPath : Nat := 4096

def maxLinks : Nat := 40

/-- The bytes of the path that names the places on the way from the root to a place, and no link. -/
def pathSize (place : Place) : Nat := place.foldr (fun name size => Utf8.size name + 1 + size) 0

/-- Where a walk ends: at an entry, or at a name that its directory does not have. -/
inductive Reached
  | entry (place : Place)
  | vacant (place : Place)
  deriving Repr, DecidableEq

/-- Walks on from a place. With `creating`, a name that closes with a slash is refused unseen. -/
def walk (fs : FileSystem) (creating : Bool) (links : Nat) (place : Place) :
    List Component → Except Cause Reached
  | [] => .ok (.entry place)
  | component :: rest =>
    if fs.get? place ≠ some .directory then .error .notDirectory
    else match component with
    | .here => walk fs creating links place rest
    | .slash => walk fs creating links place rest
    | .up => walk fs creating links place.tail rest
    | .name text =>
      if creating && rest = [.slash] then .error .isDirectory
      else if maxName < Utf8.size text then .error .nameTooLong
      else match fs.get? (text :: place) with
      | none => if rest = [] then .ok (.vacant (text :: place)) else .error .notFound
      | some (.link target) =>
        match links with
        | 0 => .error .tooManyLinks
        | links + 1 =>
          walk fs creating links (if Path.isAbsolute target then [] else place)
            (Path.components target ++ rest)
      | some _ => walk fs creating links (text :: place) rest
  termination_by components => (links, components.length)

/-- Walks along the text of a path, which begins at `start` unless it is absolute. -/
def walkPath (fs : FileSystem) (creating : Bool) (start : Place) (path : Text) :
    Except Cause Reached :=
  if Path.holdsNul path then .error .nulInPath
  else if path = [] then .error .notFound
  else if maxPath ≤ Utf8.size path then .error .nameTooLong
  else
    fs.walk creating maxLinks (if Path.isAbsolute path then [] else start) (Path.components path)

/-- The place of the entry that a path from the root names, all links followed. -/
def resolve (fs : FileSystem) (path : Text) : Except Cause Place :=
  match fs.walkPath false [] path with
  | .ok (.entry place) => .ok place
  | .ok (.vacant _) => .error .notFound
  | .error cause => .error cause

end PathHeader.FileSystem
