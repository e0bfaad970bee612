import PathHeader.Text.Basic

/-! Paths as text, and what a walk along them meets. Only the slash separates; a path that starts
with one starts at the root. -/
namespace PathHeader

inductive Component
  | here
  | up
  | name (text : Text)
  /-- A slash at the end of a path: what it names has to be a directory. -/
  | slash
  deriving Repr, DecidableEq

namespace Path

def isAbsolute (path : Text) : Bool := ['/'].isPrefixOf path

/-- No path that holds a NUL can be handed to the system. -/
def holdsNul (path : Text) : Bool := path.any fun c => c.toNat == 0

def component (piece : Text) : Component :=
  if piece = ['.'] then .here else if piece = ['.', '.'] then .up else .name piece

def components (path : Text) : List Component :=
  let steps := ((Text.splitOn '/' path).filter (· ≠ [])).map component
  if ['/'].isSuffixOf path && !steps.isEmpty then steps ++ [.slash] else steps

/-- The path that `path` means from the directory `root`: itself when it is absolute. -/
def join (root path : Text) : Text :=
  if isAbsolute path then path
  else if root = [] || ['/'].isSuffixOf root then root ++ path
  else root ++ '/' :: path

end Path

end PathHeader
