import PathHeader.Toml.Mismatch

/-! What can be wrong with settings: a value that the check refuses, or a document that cannot be
taken for settings. -/
namespace PathHeader

inductive Problem
  | blankMarker (marker : Text)
  | notDirectoryName (name : Text)
  | unknownLevel (level : Text)
  | malformedDocument (path : Text)
  | wrongType (path document : Text) (mismatch : Toml.Mismatch)
  | other (text : Text)
  deriving Repr, DecidableEq

namespace Problem

def message : Problem → Text
  | .blankMarker marker =>
    "comment_prefix must be non-empty without whitespace, got ".toList ++ Text.Quoted.quote marker
  | .notDirectoryName name =>
    "excluded_dirs entries must be single directory names, got ".toList ++ Text.Quoted.quote name
  | .unknownLevel level =>
    "log_level must be error, warn, info, or debug, got ".toList ++ Text.Quoted.quote level
  | .malformedDocument path => path ++ ": TOML parse error: malformed document\n".toList
  | .wrongType path document mismatch => path ++ ": ".toList ++ mismatch.message document
  | .other text => text

end Problem

end PathHeader
