import PathHeader.Text.Basic
import PathHeader.Text.Hidden

/-! Text between double quotes. Quotes, backslashes and the common controls have a short escape,
hidden characters are shown by their number, and everything else stands for itself. -/
namespace PathHeader.Text.Quoted

/-- The hidden character by its number: lower-case hexadecimal without padding, in braces. -/
def numbered (c : Char) : Text := "\\u\x7b".toList ++ Nat.toDigits 16 c.toNat ++ "\x7d".toList

def escape (c : Char) : Text :=
  if c = '"' then ['\\', '"']
  else if c = '\\' then ['\\', '\\']
  else if c = '\n' then ['\\', 'n']
  else if c = '\r' then ['\\', 'r']
  else if c = '\t' then ['\\', 't']
  else if c.toNat = 0 then ['\\', '0']
  else if isHidden c then numbered c
  else [c]

def quote (t : Text) : Text := '"' :: t.flatMap escape ++ ['"']

/-- Quoted texts between brackets, with a comma and a space between neighbours. -/
def quoteAll (ts : List Text) : Text := '[' :: joinWith [',', ' '] (ts.map quote) ++ [']']

end PathHeader.Text.Quoted
