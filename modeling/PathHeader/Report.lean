import PathHeader.Checker
import PathHeader.Summary
import PathHeader.Terminal.Style

/-! What the user is told: a line for every repair and every failure, and a closing line. Icons
are coloured where the writer wants it. -/
namespace PathHeader

inductive Colour
  | red
  | green
  | yellow
  deriving Repr, DecidableEq

inductive Piece
  | text (t : Text)
  /-- From here on the text is bold and has a colour. -/
  | bold (colour : Colour)
  | plain
  deriving Repr, DecidableEq

namespace Piece

/-- The number of a colour among the styles of a terminal. -/
def number : Colour → String
  | .red => "31"
  | .green => "32"
  | .yellow => "33"

/-- The text of a piece with colours; a colour starts from a clean state. -/
def coloured : Piece → Text
  | .text t => t
  | .bold colour => Terminal.clear ++ Terminal.code "1" ++ Terminal.code (number colour)
  | .plain => Terminal.clear

def uncoloured : Piece → Text
  | .text t => t
  | .bold _ => []
  | .plain => []

end Piece

namespace Report

def render (colour : Bool) (pieces : List Piece) : Text :=
  pieces.flatMap (if colour then Piece.coloured else Piece.uncoloured)

def line (t : Text) : Piece := .text (t ++ ['\n'])

def status (icon : Char) (colour : Colour) (message : Text) : List Piece :=
  [.bold colour, .text [icon], .plain, line (' ' :: message)]

def noFiles : List Piece := [line "No files to check".toList]

def fix (path : Text) (f : Fix) : List Piece :=
  status '✅' .green (path ++ ": ".toList ++ f.message) ++
    match f with
    | .wrongPath was now => [line ("   Was: ".toList ++ was), line ("   Now: ".toList ++ now)]
    | _ => []

/-- Files that were skipped or valid are passed over in silence. -/
def outcome (path : Text) : Outcome → List Piece
  | .skipped => []
  | .unchanged => []
  | .fixed fixes => fixes.flatMap (fix path)
  | .readError failure =>
    status '❌' .red ("Error reading ".toList ++ path ++ ": ".toList ++ failure.message)
  | .writeError _ failure =>
    status '❌' .red ("Error writing ".toList ++ path ++ ": ".toList ++ failure.message)

/-- The closing lines, below an empty one; a run without repairs and failures has none. -/
def summary (s : Summary) : List Piece :=
  let repaired := status '✨' .yellow
    "Files were automatically fixed! Run git add to stage the changes.".toList
  let failed := status '❌' .red
    (Text.ofNat s.failed ++ " file(s) could not be checked or fixed.".toList)
  (if s.fixed = 0 ∧ s.failed = 0 then [] else [line []]) ++
    (if s.fixed = 0 then [] else repaired) ++ (if s.failed = 0 then [] else failed)

end Report

end PathHeader
