import PathHeader.Text.Basic
import PathHeader.Text.Lower.Table

/-! Lower case by the full Unicode rules: the capital I with a dot becomes two characters, and a
capital sigma takes its final form at the end of a word. -/
namespace PathHeader.Text

def isCased (c : Char) : Bool := CodeRange.anyContains casedRanges c.toNat

def isCaseIgnorable (c : Char) : Bool := CodeRange.anyContains caseIgnorableRanges c.toNat

/-- The small letters of a character, whatever stands around it. -/
def lowerChar (c : Char) : Text :=
  if c.toNat = 0x130 then ['i', '\u0307']
  else match caseRuns.find? fun run => decide (run.Covers c.toNat) with
    | some run => [Char.ofNat (c.toNat + run.shift).toNat]
    | none => [c]

/-- Whether a cased character comes first once the case-ignorable ones are passed over. -/
def startsCased (t : Text) : Bool :=
  match t.dropWhile isCaseIgnorable with
  | [] => false
  | c :: _ => isCased c

/-- Lower case of `rest`, which follows the characters of `before`, the nearest of them first. -/
def lowerAfter (before : Text) : Text → Text
  | [] => []
  | c :: rest =>
    let small :=
      if c = 'Σ' then
        if startsCased before && !startsCased rest then ['ς'] else ['σ']
      else lowerChar c
    small ++ lowerAfter (c :: before) rest

def lower (t : Text) : Text := lowerAfter [] t

end PathHeader.Text
