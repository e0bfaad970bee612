import PathHeader.FileSystem.Cause
import PathHeader.Settings.Problem

/-! Why something could not be done: the files refused, their content is no text, or the settings
are wrong. -/
namespace PathHeader

def Utf8.Fault.message (fault : Utf8.Fault) : Text :=
  match fault.length with
  | some n =>
    "invalid utf-8 sequence of ".toList ++ Text.ofNat n ++ " bytes from index ".toList ++
      Text.ofNat fault.start
  | none => "incomplete utf-8 byte sequence from index ".toList ++ Text.ofNat fault.start

inductive Failure
  | io (cause : Cause)
  | notUtf8 (fault : Utf8.Fault)
  | badSetting (problem : Problem)
  deriving Repr, DecidableEq

namespace Failure

def message : Failure → Text
  | .io cause => "IO error: ".toList ++ cause.message
  | .notUtf8 fault => "Invalid UTF-8: ".toList ++ fault.message
  | .badSetting problem => "Invalid config: ".toList ++ problem.message

end Failure

end PathHeader
