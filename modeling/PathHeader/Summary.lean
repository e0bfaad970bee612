import PathHeader.Checker

/-! Counting the outcomes of a run. -/
namespace PathHeader

structure Summary where
  /-- Files whose header was looked at and is valid now. -/
  checked : Nat := 0
  skipped : Nat := 0
  fixed : Nat := 0
  failed : Nat := 0
  deriving Repr, DecidableEq

namespace Summary

def record (s : Summary) : Outcome → Summary
  | .skipped => { s with skipped := s.skipped + 1 }
  | .unchanged => { s with checked := s.checked + 1 }
  | .fixed _ => { s with checked := s.checked + 1, fixed := s.fixed + 1 }
  | .readError _ => { s with failed := s.failed + 1 }
  | .writeError _ _ => { s with failed := s.failed + 1 }

def allValid (s : Summary) : Bool := s.fixed == 0 && s.failed == 0

/-- A repaired file has changed and has to be staged again, so it counts against the run too. -/
def exitCode (s : Summary) : Nat := if s.allValid then 0 else 1

theorem allValid_iff (s : Summary) : s.allValid = true ↔ s.fixed = 0 ∧ s.failed = 0 := by
  simp [allValid]

theorem exitCode_eq_zero_iff (s : Summary) : s.exitCode = 0 ↔ s.fixed = 0 ∧ s.failed = 0 := by
  rw [← allValid_iff]
  unfold exitCode
  split <;> simp_all

end Summary

end PathHeader
