import PathHeader.Log.Event
import PathHeader.Terminal.Style

/-! How a record is written: as a line to read, or as an object of JSON on a line of its own. -/
namespace PathHeader

def FieldValue.shown : FieldValue → Text
  | .text t => t
  | .number n => Text.ofNat n

namespace Json

def twoDigits (n : Nat) : Text :=
  let digits := Nat.toDigits 16 n
  List.replicate (2 - digits.length) '0' ++ digits

def escape (c : Char) : Text :=
  if c = '"' then ['\\', '"']
  else if c = '\\' then ['\\', '\\']
  else if c = '\n' then ['\\', 'n']
  else if c = '\r' then ['\\', 'r']
  else if c = '\t' then ['\\', 't']
  else if c.toNat = 8 then ['\\', 'b']
  else if c.toNat = 12 then ['\\', 'f']
  else if c.toNat < 32 then "\\u00".toList ++ twoDigits c.toNat
  else [c]

def string (t : Text) : Text := '"' :: t.flatMap escape ++ ['"']

def value : FieldValue → Text
  | .text t => string t
  | .number n => Text.ofNat n

/-- An object; its members come with their values written out. -/
def object (members : List (Text × Text)) : Text :=
  '\x7b' :: Text.joinWith [','] (members.map fun (name, value) => string name ++ ':' :: value) ++
    ['\x7d']

end Json

namespace Record

structure Style where
  time : Text → Text
  level : Level → Text → Text
  name : Text → Text
  equals : Text → Text

namespace Style

def plain : Style := ⟨id, fun _ => id, id, id⟩

def colourOf : Level → String
  | .error => "31"
  | .warn => "33"
  | .info => "32"
  | .debug => "34"

/-- Dim times and equals signs, coloured levels, and names in italics. -/
def coloured : Style :=
  ⟨Terminal.paint ["2"], fun level => Terminal.paint [colourOf level], Terminal.paint ["3"],
    Terminal.paint ["2"]⟩

end Style

/-- The time, the level moved right, the message and the fields. -/
def line (style : Style) (now : Text) (r : Record) : Text :=
  style.time now ++ ' ' :: style.level r.level (Text.padLeft 5 r.level.name) ++ ' ' :: r.message ++
    r.fields.flatMap (fun (name, value) =>
      ' ' :: style.name name ++ style.equals ['='] ++ value.shown) ++ ['\n']

def json (now : Text) (r : Record) : Text :=
  let fields := ("message".toList, Json.string r.message) ::
    r.fields.map fun (name, value) => (name, Json.value value)
  Json.object [("timestamp".toList, Json.string now), ("level".toList, Json.string r.level.name),
    ("fields".toList, Json.object fields)] ++ ['\n']

end Record

end PathHeader
