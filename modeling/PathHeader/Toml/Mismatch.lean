import PathHeader.Toml.Item
import PathHeader.Text.Quoted
import PathHeader.Text.Utf8

/-! A value of a kind that was not asked for. The message shows the line of the document with marks
below the value. -/
namespace PathHeader.Toml

/-- The kind of a value that was found. Dates and times count as maps. -/
inductive Found
  | integer (value : Int)
  | float (value : Decimal.Binary64)
  | boolean (value : Bool)
  | string (text : Text)
  | sequence
  | map
  deriving Repr, DecidableEq

namespace Found

def ofItem : Item → Found
  | .string _ text => .string text
  | .integer _ value => .integer value
  | .float _ value => .float value
  | .boolean _ value => .boolean value
  | .moment _ => .map
  | .array _ _ => .sequence
  | .table _ _ _ => .map
  | .tables _ => .sequence

def ticked (t : Text) : Text := '\x60' :: t ++ ['\x60']

def text : Found → Text
  | .integer value => "integer ".toList ++ ticked (Text.ofInt value)
  | .float value => "floating point ".toList ++ ticked value.text
  | .boolean true => "boolean ".toList ++ ticked "true".toList
  | .boolean false => "boolean ".toList ++ ticked "false".toList
  | .string text => "string ".toList ++ Text.Quoted.quote text
  | .sequence => "sequence".toList
  | .map => "map".toList

end Found

inductive Expected
  | string
  | sequence
  | path
  deriving Repr, DecidableEq

def Expected.text : Expected → Text
  | .string => "a string".toList
  | .sequence => "a sequence".toList
  | .path => "path string".toList

/-- Where an item is said to stand: a table without a header stands at its key, and an array of
tables reaches from the start of the first to the end of the last. -/
def Item.span (key : Key) : Item → Span
  | .string span _ => span
  | .integer span _ => span
  | .float span _ => span
  | .boolean span _ => span
  | .moment span => span
  | .array span _ => span
  | .table _ span _ => span.getD key.span
  | .tables elements =>
    match elements.head?, elements.getLast? with
    | some first, some last => ⟨first.1.fromEnd, last.1.toEnd⟩
    | _, _ => key.span

structure Mismatch where
  found : Found
  expected : Expected
  span : Span
  deriving Repr, DecidableEq

def Mismatch.ofItem (key : Key) (item : Item) (expected : Expected) : Mismatch :=
  ⟨.ofItem item, expected, item.span key⟩

structure Site where
  line : Nat
  before : Text
  /-- The whole line, without its line feed. -/
  source : Text

def Site.of (document : Text) (span : Span) : Site :=
  let (above, ahead) := document.splitAt (document.length - span.fromEnd)
  let before := (above.reverse.takeWhile (· ≠ '\n')).reverse
  ⟨above.count '\n' + 1, before, before ++ ahead.takeWhile (· ≠ '\n')⟩

def Span.size (document : Text) (span : Span) : Nat :=
  Utf8.size ((document.drop (document.length - span.fromEnd)).take (span.fromEnd - span.toEnd))

/-- The marks below a line: one for each byte of the value as far as the line reaches, and one at
least. -/
def Site.marks (site : Site) (size : Nat) : Text :=
  List.replicate (max 1 (min size (Utf8.size site.source - site.before.length))) '^'

def Mismatch.message (document : Text) (m : Mismatch) : Text :=
  let site := Site.of document m.span
  let number := Text.ofNat site.line
  let gutter := List.replicate number.length ' '
  "TOML parse error at line ".toList ++ number ++ ", column ".toList ++
    Text.ofNat (site.before.length + 1) ++ ['\n'] ++
    gutter ++ " |\n".toList ++
    number ++ " | ".toList ++ site.source ++ ['\n'] ++
    gutter ++ " | ".toList ++ List.replicate site.before.length ' ' ++
    site.marks (m.span.size document) ++ ['\n'] ++
    "invalid type: ".toList ++ m.found.text ++ ", expected ".toList ++ m.expected.text ++ ['\n']

end PathHeader.Toml
