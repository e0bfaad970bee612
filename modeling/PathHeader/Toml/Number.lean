import PathHeader.Toml.Lexical

/-! Numbers, dates and times of TOML. Single underscores may stand between digits; whole numbers
have 64 bits with a sign, and a date has to be one of the calendar. -/
namespace PathHeader.Toml

/-- Digits after the first one, without the underscores between them. -/
def moreDigits (isDigit : Char → Bool) : Text → Option (Text × Text)
  | [] => some ([], [])
  | '_' :: c :: rest =>
    if isDigit c then (moreDigits isDigit rest).map fun (more, rest) => (c :: more, rest) else none
  | c :: rest =>
    if isDigit c then (moreDigits isDigit rest).map fun (more, rest) => (c :: more, rest)
    else if c = '_' then none
    else some ([], c :: rest)

def digits? (isDigit : Char → Bool) : Text → Option (Text × Text)
  | [] => none
  | c :: rest =>
    if isDigit c then (moreDigits isDigit rest).map fun (more, rest) => (c :: more, rest) else none

/-- A whole part: a zero stands alone. -/
def whole? : Text → Option (Text × Text)
  | '0' :: rest => some (['0'], rest)
  | t => digits? Char.isDigit t

def sign : Text → Option Bool × Text
  | '+' :: rest => (some false, rest)
  | '-' :: rest => (some true, rest)
  | t => (none, t)

def value (base : Nat) (digits : Text) : Nat :=
  digits.foldl (fun n c => n * base + ((hexValue? [c]).getD 0)) 0

def maxInteger : Nat := 0x7fffffffffffffff

def integer? (negative : Bool) (magnitude : Nat) : Option Int :=
  if magnitude ≤ maxInteger + (if negative then 1 else 0) then
    some (if negative then -(magnitude : Int) else magnitude)
  else none

inductive Number
  | integer (value : Int)
  | float (value : Decimal.Binary64)
  deriving Repr, DecidableEq

/-- Digits after a prefix that names the base; these numbers have no sign. -/
def based? (base : Nat) (isDigit : Char → Bool) (t : Text) : Option (Number × Text) := do
  let (digits, rest) ← digits? isDigit t
  let n ← integer? false (value base digits)
  some (.integer n, rest)

/-- An exponent with its letter, zero where there is none. -/
def exponent? : Text → Option (Int × Text)
  | c :: rest =>
    if c = 'e' ∨ c = 'E' then do
      let (negative, rest) := sign rest
      let (digits, rest) ← digits? Char.isDigit rest
      let size : Int := value 10 digits
      some (if negative = some true then -size else size, rest)
    else some (0, c :: rest)
  | [] => some (0, [])

/-- The value of a decimal. One too large for a finite value is refused, unless it is negative. -/
def float? (negative : Bool) (digits : Text) (power : Int) : Option Number :=
  match Decimal.Binary64.ofDecimal negative (value 10 digits) power with
  | .infinite false => none
  | x => some (.float x)

def decimal? (negative : Bool) (t : Text) : Option (Number × Text) := do
  let (whole, rest) ← whole? t
  match rest with
  | '.' :: rest =>
    let (fraction, rest) ← digits? Char.isDigit rest
    let (power, rest) ← exponent? rest
    let number ← float? negative (whole ++ fraction) (power - fraction.length)
    some (number, rest)
  | _ =>
    if rest.head? = some 'e' ∨ rest.head? = some 'E' then
      let (power, rest) ← exponent? rest
      let number ← float? negative whole power
      some (number, rest)
    else
      let n ← integer? negative (value 10 whole)
      some (.integer n, rest)

def isHexDigit (c : Char) : Bool := (hexValue? [c]).isSome

def isOctDigit (c : Char) : Bool := '0' ≤ c && c ≤ '7'

def isBinDigit (c : Char) : Bool := c == '0' || c == '1'

def number? (t : Text) : Option (Number × Text) :=
  let (signed, ahead) := sign t
  let negative := signed = some true
  match signed, ahead with
  | _, 'i' :: 'n' :: 'f' :: rest => some (.float (.infinite negative), rest)
  | _, 'n' :: 'a' :: 'n' :: rest => some (.float .nan, rest)
  | none, '0' :: 'x' :: rest => based? 16 isHexDigit rest
  | none, '0' :: 'o' :: rest => based? 8 isOctDigit rest
  | none, '0' :: 'b' :: rest => based? 2 isBinDigit rest
  | _, _ => decimal? negative ahead

/-- Two digits whose number is not above `most`. -/
def pair? (most : Nat) : Text → Option (Nat × Text)
  | a :: b :: rest =>
    if a.isDigit && b.isDigit && value 10 [a, b] ≤ most then some (value 10 [a, b], rest) else none
  | _ => none

def expect? (c : Char) : Text → Option Text
  | first :: rest => if first = c then some rest else none
  | [] => none

def daysOf (year month : Nat) : Nat :=
  let leap := year % 4 = 0 ∧ (year % 100 ≠ 0 ∨ year % 400 = 0)
  if month = 2 then (if leap then 29 else 28)
  else if month = 4 ∨ month = 6 ∨ month = 9 ∨ month = 11 then 30
  else 31

/-- Minutes and seconds after the hour's colon, with a fraction of any length. -/
def restOfTime? (t : Text) : Option Text := do
  let (_, rest) ← pair? 59 t
  let rest ← expect? ':' rest
  let (_, rest) ← pair? 60 rest
  match rest with
  | '.' :: c :: rest => if c.isDigit then some (rest.dropWhile Char.isDigit) else none
  | '.' :: [] => none
  | rest => some rest

def hour? (t : Text) : Option Text := do
  let (_, rest) ← pair? 23 t
  expect? ':' rest

/-- The distance from universal time, if there is one. -/
def offset? : Text → Option Text
  | [] => some []
  | c :: rest =>
    if c = 'Z' ∨ c = 'z' then some rest
    else if c = '+' ∨ c = '-' then do
      let rest ← hour? rest
      let (_, rest) ← pair? 59 rest
      some rest
    else some (c :: rest)

/-- Month and day after the year's hyphen, then perhaps a time. -/
def restOfDate? (year : Nat) (t : Text) : Option Text := do
  let (month, rest) ← pair? 12 t
  let rest ← expect? '-' rest
  let (day, rest) ← pair? 31 rest
  if month = 0 ∨ day = 0 ∨ daysOf year month < day then none
  else
    let time := match rest with
      | c :: rest => if c = 'T' ∨ c = 't' ∨ c = ' ' then hour? rest else none
      | [] => none
    match time with
    | none => some rest
    | some rest => do
      let rest ← restOfTime? rest
      offset? rest

/-- A date or a time where the text ahead begins like one: then nothing else can be meant, and a
fault in it is one of the document. -/
def moment? (t : Text) : Option (Option Text) :=
  match t with
  | a :: b :: c :: d :: '-' :: rest =>
    if a.isDigit && b.isDigit && c.isDigit && d.isDigit then
      some (restOfDate? (value 10 [a, b, c, d]) rest)
    else none
  | _ => (hour? t).map restOfTime?

end PathHeader.Toml
