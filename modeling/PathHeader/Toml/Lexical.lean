import PathHeader.Toml.Item

/-! The characters of TOML: blanks, line ends, comments, strings and keys. A reader takes the text
ahead and answers with what it read and the text that is left. -/
namespace PathHeader.Toml

def isWs (c : Char) : Bool := c == ' ' || c == '\t'

/-- Every character but the controls; the tab is allowed. -/
def isPlain (c : Char) : Bool := c == '\t' || (0x20 ≤ c.toNat && c.toNat != 0x7f)

def isBare (c : Char) : Bool := c.isAlphanum || c == '_' || c == '-'

def skipWs (t : Text) : Text := t.dropWhile isWs

def newline? : Text → Option Text
  | '\n' :: rest => some rest
  | '\r' :: '\n' :: rest => some rest
  | _ => none

/-- The rest of a line that may only hold blanks and a comment. -/
def lineEnd? (t : Text) : Option Text :=
  let ahead := match skipWs t with
    | '#' :: rest => rest.dropWhile isPlain
    | rest => rest
  match ahead with
  | [] => some []
  | _ => newline? ahead

def skipBlank : Text → Text
  | [] => []
  | '\r' :: '\n' :: rest => skipBlank rest
  | c :: rest => if isWs c || c == '\n' then skipBlank rest else c :: rest

def skipTrivia (inComment : Bool) : Text → Text
  | [] => []
  | '\r' :: '\n' :: rest => skipTrivia false rest
  | c :: rest =>
    if inComment && isPlain c then skipTrivia true rest
    else if isWs c || c == '\n' then skipTrivia false rest
    else if c == '#' then skipTrivia true rest
    else c :: rest

def hexValue? (digits : List Char) : Option Nat :=
  digits.foldl (fun value c => value.bind fun n =>
    if c.isDigit then some (n * 16 + (c.toNat - '0'.toNat))
    else if 'a' ≤ c ∧ c ≤ 'f' then some (n * 16 + (c.toNat - 'a'.toNat + 10))
    else if 'A' ≤ c ∧ c ≤ 'F' then some (n * 16 + (c.toNat - 'A'.toNat + 10))
    else none) (some 0)

/-- The character with a hexadecimal number, unless the number is a surrogate or too high. -/
def numbered? (digits : List Char) : Option Char :=
  (hexValue? digits).bind fun n => if n.isValidChar then some (Char.ofNat n) else none

def escape? : Text → Option (Char × Text)
  | 'b' :: rest => some ('\x08', rest)
  | 't' :: rest => some ('\t', rest)
  | 'n' :: rest => some ('\n', rest)
  | 'f' :: rest => some ('\x0c', rest)
  | 'r' :: rest => some ('\r', rest)
  | '"' :: rest => some ('"', rest)
  | '\\' :: rest => some ('\\', rest)
  | 'u' :: a :: b :: c :: d :: rest => (numbered? [a, b, c, d]).map (·, rest)
  | 'U' :: a :: b :: c :: d :: e :: f :: g :: h :: rest =>
    (numbered? [a, b, c, d, e, f, g, h]).map (·, rest)
  | _ => none

/-- A string with escapes, after its quote. Every round takes a character, so `fuel` of the text's
length is enough for this reader and for the next two. -/
def basicBody : (fuel : Nat) → Text → Option (Text × Text)
  | 0, _ => none
  | fuel + 1, t =>
    match t with
    | '"' :: rest => some ([], rest)
    | '\\' :: rest => do
      let (c, rest) ← escape? rest
      let (more, rest) ← basicBody fuel rest
      some (c :: more, rest)
    | c :: rest =>
      if isPlain c then (basicBody fuel rest).map fun (more, rest) => (c :: more, rest) else none
    | [] => none

/-- The quotes right before three closing ones belong to the string, two at most. -/
def closing (quote : Char) : Text → Text × Text
  | first :: second :: rest =>
    if first = quote ∧ second = quote then ([quote, quote], rest)
    else if first = quote then ([quote], second :: rest)
    else ([], first :: second :: rest)
  | [last] => if last = quote then ([quote], []) else ([], [last])
  | [] => ([], [])

/-- A string of several lines with escapes, after its three quotes. A backslash at the end of a
line drops the blanks and line ends that follow. -/
def basicBlock : (fuel : Nat) → Text → Option (Text × Text)
  | 0, _ => none
  | fuel + 1, t =>
    match t with
    | '"' :: '"' :: '"' :: rest => some (closing '"' rest)
    | '\\' :: rest =>
      match newline? (skipWs rest) with
      | some rest => basicBlock fuel (skipBlank rest)
      | none => do
        let (c, rest) ← escape? rest
        let (more, rest) ← basicBlock fuel rest
        some (c :: more, rest)
    | c :: rest =>
      match newline? t with
      | some rest => (basicBlock fuel rest).map fun (more, rest) => ('\n' :: more, rest)
      | none =>
        if isPlain c then (basicBlock fuel rest).map fun (more, rest) => (c :: more, rest)
        else none
    | [] => none

/-- A string of several lines without escapes, after its three apostrophes. -/
def literalBlock : (fuel : Nat) → Text → Option (Text × Text)
  | 0, _ => none
  | fuel + 1, t =>
    match t with
    | '\'' :: '\'' :: '\'' :: rest => some (closing '\'' rest)
    | c :: rest =>
      match newline? t with
      | some rest => (literalBlock fuel rest).map fun (more, rest) => ('\n' :: more, rest)
      | none =>
        if isPlain c then (literalBlock fuel rest).map fun (more, rest) => (c :: more, rest)
        else none
    | [] => none

def literalBody (t : Text) : Option (Text × Text) :=
  let inner := fun c => isPlain c && c != '\''
  match t.dropWhile inner with
  | '\'' :: rest => some (t.takeWhile inner, rest)
  | _ => none

/-- A string of any of the four kinds. A line end right after three quotes is dropped. -/
def string? : Text → Option (Text × Text)
  | '"' :: '"' :: '"' :: rest =>
    let rest := (newline? rest).getD rest
    basicBlock (rest.length + 1) rest
  | '"' :: rest => basicBody (rest.length + 1) rest
  | '\'' :: '\'' :: '\'' :: rest =>
    let rest := (newline? rest).getD rest
    literalBlock (rest.length + 1) rest
  | '\'' :: rest => literalBody rest
  | _ => none

def keyPart? (t : Text) : Option (Text × Text) :=
  match t with
  | '"' :: rest => basicBody (rest.length + 1) rest
  | '\'' :: rest => literalBody rest
  | _ =>
    match t.takeWhile isBare with
    | [] => none
    | bare => some (bare, t.dropWhile isBare)

def maxKeyParts : Nat := 79

/-- The parts of a key with points between them; blanks may stand around each part. -/
def keyParts? : (most : Nat) → Text → Option (List Key × Text)
  | 0, _ => none
  | most + 1, t => do
    let t := skipWs t
    let (text, rest) ← keyPart? t
    let key : Key := ⟨text, ⟨t.length, rest.length⟩⟩
    match skipWs rest with
    | '.' :: rest =>
      let (keys, rest) ← keyParts? most rest
      some (key :: keys, rest)
    | rest => some ([key], rest)

def key? (t : Text) : Option ((List Key × Key) × Text) := do
  let (keys, rest) ← keyParts? maxKeyParts t
  let last ← keys.getLast?
  some ((keys.dropLast, last), rest)

end PathHeader.Toml
