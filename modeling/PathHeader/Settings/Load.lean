import PathHeader.Settings.Layer
import PathHeader.FileSystem.Operations
import PathHeader.Failure

/-! Loading the settings of a repository: defaults below the document at its root, if there is one,
below the environment. A document that cannot be used stops the loading; values are checked only
once the layers are merged. -/
namespace PathHeader.Config

def documentName : Text := ".headerfix.toml".toList

/-- The settings of the document with these bytes, over the defaults. -/
def ofDocument (path : Text) (bytes : Bytes) : Except Failure Config :=
  match Utf8.decode bytes with
  | .error _ => .error (.io .notUtf8)
  | .ok document =>
    match Layer.ofDocument path document with
    | .error problem => .error (.badSetting problem)
    | .ok layer => .ok (default.overlay layer)

def base (fs : FileSystem) (root : Text) : Except Failure Config :=
  let path := Path.join root documentName
  if !fs.exists? path then .ok default
  else match fs.read path with
  | .error cause => .error (.io cause)
  | .ok bytes => ofDocument path bytes

/-- Lays the environment over the settings and checks them. -/
def settle (base : Config) (lookup : Text → Option Text) : Except Failure Config :=
  let config := base.overlay (.ofEnvironment lookup)
  match config.problem? with
  | some problem => .error (.badSetting problem)
  | none => .ok config

def load (fs : FileSystem) (root : Text) (lookup : Text → Option Text) : Except Failure Config :=
  match base fs root with
  | .error failure => .error failure
  | .ok base => settle base lookup

end PathHeader.Config
