import PathHeader.Toml.Number

/-! Values of TOML. Brackets and braces may stand in one another to a greatest depth; everything
else is read at once. -/
namespace PathHeader.Toml

/-- A value without parts. Dates and times come before numbers, which begin alike. -/
def scalar? (t : Text) : Option (Item × Text) :=
  let placed (make : Span → Item) (rest : Text) : Item × Text :=
    (make ⟨t.length, rest.length⟩, rest)
  match t with
  | 't' :: 'r' :: 'u' :: 'e' :: rest => some (placed (.boolean · true) rest)
  | 'f' :: 'a' :: 'l' :: 's' :: 'e' :: rest => some (placed (.boolean · false) rest)
  | _ =>
    match string? t, moment? t, number? t with
    | some (text, rest), _, _ => some (placed (.string · text) rest)
    | none, some moment, _ => moment.map (placed .moment)
    | none, none, some (.integer value, rest) => some (placed (.integer · value) rest)
    | none, none, some (.float value, rest) => some (placed (.float · value) rest)
    | none, none, none => none

/-- The items of an array, after its bracket. A comma may follow the last one. Every round takes a
character, so `fuel` of the text's length is enough here and for the members of a table. -/
def elements? (item? : Text → Option (Item × Text)) :
    (fuel : Nat) → Text → Option (List Item × Text)
  | 0, _ => none
  | fuel + 1, t =>
    match skipTrivia false t with
    | ']' :: rest => some ([], rest)
    | ahead => do
      let (item, rest) ← item? ahead
      match skipTrivia false rest with
      | ']' :: rest => some ([item], rest)
      | ',' :: rest =>
        let (more, rest) ← elements? item? fuel rest
        some (item :: more, rest)
      | _ => none

/-- A key, an equals sign and a value, put into a table. -/
def member? (item? : Text → Option (Item × Text)) (entries : Entries) (t : Text) :
    Option (Entries × Text) := do
  let ((parents, key), rest) ← key? t
  let rest ← expect? '=' rest
  let (item, rest) ← item? (skipWs rest)
  let entries ← entries.insertDotted parents key item
  some (entries, rest)

/-- The members of a table between braces, at least one. No comma follows the last one. -/
def members? (item? : Text → Option (Item × Text)) :
    (fuel : Nat) → Entries → Text → Option (Entries × Text)
  | 0, _, _ => none
  | fuel + 1, entries, t => do
    let (entries, rest) ← member? item? entries t
    match skipWs rest with
    | '\x7d' :: rest => some (entries, rest)
    | ',' :: rest => members? item? fuel entries rest
    | _ => none

/-- Arrays and tables in one another, counted from the outside. -/
def maxDepth : Nat := 79

def item? : (depth : Nat) → Text → Option (Item × Text)
  | 0, t => scalar? t
  | depth + 1, t =>
    match t with
    | '[' :: rest => do
      let (items, rest) ← elements? (item? depth) (rest.length + 1) rest
      some (.array ⟨t.length, rest.length⟩ items, rest)
    | '\x7b' :: rest => do
      let (entries, rest) ← match skipWs rest with
        | '\x7d' :: rest => some ([], rest)
        | _ => members? (item? depth) (rest.length + 1) [] rest
      some (.table .inline (some ⟨t.length, rest.length⟩) entries, rest)
    | _ => scalar? t

def value? (t : Text) : Option (Item × Text) := item? maxDepth t

end PathHeader.Toml
