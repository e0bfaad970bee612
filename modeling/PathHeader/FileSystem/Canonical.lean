import PathHeader.FileSystem.Walk

/-! Clearing a path of links. The path without links grows name by name, and what each name stands
for is looked up by the whole path so far. That path starts at the root, so it can be too long where
the way itself can still be walked. -/
namespace PathHeader.FileSystem

/-- Whether what is left of a path behind a name asks for a directory there before the next name: by
a step up, or by ending in a slash or a dot. -/
def asksDirectory : List Component → Bool
  | [] => false
  | .name _ :: _ => false
  | .up :: _ => true
  | .here :: rest => rest.isEmpty || asksDirectory rest
  | .slash :: rest => rest.isEmpty || asksDirectory rest

/-- Whether a path is too long by which something on the way is looked up. A directory that is asked
for is looked up once more, with a slash at the end. -/
def straysFrom (fs : FileSystem) (links : Nat) (place : Place) : List Component → Bool
  | [] => false
  | .here :: rest => straysFrom fs links place rest
  | .slash :: rest => straysFrom fs links place rest
  | .up :: rest => straysFrom fs links place.tail rest
  | .name text :: rest =>
    if maxPath ≤ pathSize (text :: place) then true
    else match fs.get? (text :: place) with
    | none => false
    | some (.link target) =>
      match links with
      | 0 => false
      | links + 1 =>
        straysFrom fs links (if Path.isAbsolute target then [] else place)
          (Path.components target ++ rest)
    | some _ =>
      if asksDirectory rest && maxPath ≤ pathSize (text :: place) + 1 then true
      else straysFrom fs links (text :: place) rest
  termination_by components => (links, components.length)

def strays (fs : FileSystem) (path : Text) : Bool :=
  fs.straysFrom maxLinks [] (Path.components path)

/-- The place that a path leads to, found by clearing the path of links. A file is read by its path
first, so that what keeps the path from being walked has come up before. -/
def canonicalize (fs : FileSystem) (path : Text) : Except Cause Place :=
  match fs.resolve path with
  | .error cause => .error cause
  | .ok place => if fs.strays path then .error .nameTooLong else .ok place

end PathHeader.FileSystem
