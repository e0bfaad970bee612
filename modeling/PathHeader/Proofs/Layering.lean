import Mathlib
import PathHeader.Settings.Load
import PathHeader.Proofs.Decoding
import PathHeader.Proofs.DistinctKeys

/-! Settings from their layers. A document says what its entries hold, each field comes from the
highest layer that sets it, and only what results is checked. -/
namespace PathHeader

namespace Toml

namespace Item

def text? : Item → Option Text
  | .string _ text => some text
  | _ => none

/-- The elements of an array. Those of an array of tables are tables with a header. -/
def elements? : Item → Option (List Item)
  | .array _ items => some items
  | .tables elements =>
    some (elements.map fun (span, entries) => .table .header (some span) entries)
  | _ => none

def texts? (item : Item) : Option (List Text) := item.elements?.bind fun items => items.mapM text?

end Item

namespace Entries

variable {Value : Type} {entries : Entries} {entry : Key × Item} {name : Text}
  {read? : Item → Option Value}

end Entries

end Toml

namespace Layer
open Toml

variable {key : Key} {item : Item} {entry : Key × Item} {entries : Entries} {layer after : Layer}

/-- The layer with what an entry sets. -/
def put (layer : Layer) (entry : Key × Item) : Layer where
  marker := if entry.1.text = "comment_prefix".toList then entry.2.text? else layer.marker
  excludedDirs :=
    if entry.1.text = "excluded_dirs".toList then entry.2.texts? else layer.excludedDirs
  logLevel := if entry.1.text = "log_level".toList then entry.2.text? else layer.logLevel
  logFile := if entry.1.text = "log_file".toList then entry.2.text?.map some else layer.logFile

section
variable {path document : Text} {mismatch : Mismatch}

example : ofDocument [] "log_level = 'INFO'\n[more]\nlog_level = 1\n".toList =
    .ok { logLevel := some "INFO".toList } := rfl

end

end Layer

namespace Config

variable {fs : FileSystem} {root document : Text} {lookup : Text → Option Text}
  {base config : Config} {layer other : Layer} {loaded : Except Failure Config}

/-- A problem is about a value of the settings, which is not as it has to be. -/
def Blames (config : Config) : Problem → Prop
  | .blankMarker marker =>
    marker = config.marker ∧ (marker = [] ∨ ∃ c ∈ marker, Text.isBlank c = true)
  | .notDirectoryName name =>
    name ∈ config.excludedDirs ∧ (name = [] ∨ '/' ∈ name ∨ '\\' ∈ name)
  | .unknownLevel level => level = Text.lower config.logLevel ∧ level ∉ Level.spellings
  | _ => False

theorem blames_of_problem {problem : Problem} (found : config.problem? = some problem) :
    config.Blames problem := by
  unfold problem? at found
  split at found
  · next marker =>
    cases found
    refine ⟨rfl, ?_⟩
    simpa [isMarker, or_iff_not_imp_left] using marker
  · split at found
    · next name listed =>
      cases found
      refine ⟨List.mem_of_find?_eq_some listed, ?_⟩
      simpa [isDirectoryName, or_iff_not_imp_left] using List.find?_some listed
    · split at found
      · cases found
      · next level =>
        cases found
        exact ⟨rfl, level⟩

theorem settle_eq_ok_iff : base.settle lookup = .ok config ↔
    config = base.overlay (.ofEnvironment lookup) ∧ config.Valid := by
  unfold settle
  rw [← problem?_eq_none_iff]
  constructor
  · intro settled
    dsimp only at settled
    split at settled
    · cases settled
    · next passed =>
      cases settled
      exact ⟨rfl, passed⟩
  · rintro ⟨rfl, passed⟩
    simp only [passed]

/-- What is loaded has passed the check. -/
theorem valid_of_load (loaded : load fs root lookup = .ok config) : config.Valid := by
  unfold load at loaded
  split at loaded
  · cases loaded
  · exact (settle_eq_ok_iff.mp loaded).2

section
variable {place : Place} {cause : Cause} {bytes : Bytes}

end

/-- An empty marker of a document does no harm below a variable that sets another one. -/
example :
    (default.overlay { marker := some [] }).settle
      (fun name => if name = Layer.markerVariable then some "#".toList else none) =
      .ok { default with marker := "#".toList } := rfl

end Config

end PathHeader
