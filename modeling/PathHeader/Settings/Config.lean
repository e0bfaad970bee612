import PathHeader.Settings.Level
import PathHeader.Settings.Problem

/-! Settings with every field filled in, and the check that they pass before they are used. -/
namespace PathHeader

structure Config where
  marker : Text
  excludedDirs : List Text
  logLevel : Text
  /-- The file that takes the log in place of the standard error. -/
  logFile : Option Text
  deriving Repr, DecidableEq

namespace Config

def default : Config where
  marker := "//".toList
  excludedDirs := ["node_modules".toList, ".git".toList]
  logLevel := "warn".toList
  logFile := none

def isMarker (marker : Text) : Bool := !marker.isEmpty && !marker.any Text.isBlank

/-- Only a name without separators can be a segment of a path. -/
def isDirectoryName (name : Text) : Bool :=
  !name.isEmpty && !name.contains '/' && !name.contains '\\'

/-- The first problem: with the marker, a directory name, or the level. -/
def problem? (config : Config) : Option Problem :=
  if !isMarker config.marker then some (.blankMarker config.marker)
  else match config.excludedDirs.find? fun name => !isDirectoryName name with
  | some name => some (.notDirectoryName name)
  | none =>
    if Text.lower config.logLevel ∈ Level.spellings then none
    else some (.unknownLevel (Text.lower config.logLevel))

/-- Settings that every part of the program can work with. -/
structure Valid (config : Config) : Prop where
  marker : config.marker ≠ [] ∧ ∀ c ∈ config.marker, Text.isBlank c = false
  excludedDirs : ∀ name ∈ config.excludedDirs, name ≠ [] ∧ '/' ∉ name ∧ '\\' ∉ name
  logLevel : Text.lower config.logLevel ∈ Level.spellings

theorem isMarker_iff (marker : Text) :
    isMarker marker = true ↔ marker ≠ [] ∧ ∀ c ∈ marker, Text.isBlank c = false := by
  simp [isMarker]

theorem isDirectoryName_iff (name : Text) :
    isDirectoryName name = true ↔ name ≠ [] ∧ '/' ∉ name ∧ '\\' ∉ name := by
  simp [isDirectoryName, and_assoc]

/-- The check passes exactly the settings that are valid. -/
theorem problem?_eq_none_iff (config : Config) : config.problem? = none ↔ config.Valid := by
  constructor
  · intro passed
    unfold problem? at passed
    split at passed
    · cases passed
    · next marker =>
      split at passed
      · cases passed
      · next names =>
        split at passed
        · next level =>
          refine ⟨(isMarker_iff _).mp (by simpa using marker), fun name mem => ?_, level⟩
          rw [List.find?_eq_none] at names
          exact (isDirectoryName_iff name).mp (by simpa using names name mem)
        · cases passed
  · intro valid
    have names : config.excludedDirs.find? (fun name => !isDirectoryName name) = none := by
      rw [List.find?_eq_none]
      intro name mem
      simp [(isDirectoryName_iff name).mpr (valid.excludedDirs name mem)]
    simp [problem?, (isMarker_iff _).mpr valid.marker, names, valid.logLevel]

end Config

end PathHeader
