import PathHeader.Text.Basic

/-! The path of a file below the repository root, in the form in which its header names it. -/
namespace PathHeader

/-- A path in normal form: no backslash, and no step into the current directory in front. -/
structure RepoPath where
  text : Text
  deriving Repr, DecidableEq

namespace RepoPath

def forwardSlashes (raw : Text) : Text := raw.map fun c => if c = '\\' then '/' else c

def dropCurrent : Text → Text
  | '.' :: '/' :: rest => dropCurrent rest
  | t => t

def normalize (raw : Text) : RepoPath := ⟨dropCurrent (forwardSlashes raw)⟩

def segments (p : RepoPath) : List Text := Text.splitOn '/' p.text

def isExcluded (names : List Text) (p : RepoPath) : Bool := p.segments.any names.contains

def header (marker : Text) (p : RepoPath) : Text := marker ++ ' ' :: p.text

theorem backslash_notMem_normalize (raw : Text) : '\\' ∉ (normalize raw).text := by
  have kept : ∀ t : Text, '\\' ∉ t → '\\' ∉ dropCurrent t := by
    intro t
    fun_induction dropCurrent t with
    | case1 rest ih => intro absent; exact ih (by simp_all)
    | case2 t _ => exact id
  apply kept
  simp only [forwardSlashes, List.mem_map, not_exists, not_and]
  intro c _
  split <;> simp_all

end RepoPath

end PathHeader
