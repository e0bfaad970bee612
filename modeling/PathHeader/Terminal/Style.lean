import PathHeader.Text.Basic

/-! Styled text. A style begins with codes that a terminal obeys and does not show, and ends with
the code that clears them all. -/
namespace PathHeader.Terminal

def code (number : String) : Text := ['\x1b', '['] ++ number.toList ++ ['m']

def clear : Text := code "0"

def paint (numbers : List String) (t : Text) : Text := numbers.flatMap code ++ t ++ clear

def bold : Text → Text := paint ["1"]

def heading : Text → Text := paint ["1", "4"]

end PathHeader.Terminal
