import PathHeader.Text.Basic
import PathHeader.Decimal.Binary64

/-! How alike two words are, after Jaro: characters match when they are equal and not too far apart,
and matched characters out of order count half. -/
namespace PathHeader.Similar

/-- Indices of characters further apart than this do not match. -/
def window (left right : Text) : Nat := max left.length right.length / 2 - 1

/-- The first index of a free match of `c`, the character at `index`, among the characters that are
left, the next of which is at `here`. -/
def match? (c : Char) (window index : Nat) (taken : List Nat) (here : Nat) : Text → Option Nat
  | [] => none
  | d :: rest =>
    if c = d ∧ index ≤ here + window ∧ here ≤ index + window ∧ here ∉ taken then some here
    else match? c window index taken (here + 1) rest

/-- The matched characters of `left` in their order, each with the index that it matches. -/
def matchesFrom (right : Text) (window index : Nat) (taken : List Nat) : Text → List (Char × Nat)
  | [] => []
  | c :: rest =>
    match match? c window index taken 0 right with
    | some found => (c, found) :: matchesFrom right window (index + 1) (found :: taken) rest
    | none => matchesFrom right window (index + 1) taken rest

def pairs (left right : Text) : List (Char × Nat) :=
  matchesFrom right (window left right) 0 [] left

/-- Half the number of matched characters that differ when both sides are read in order. -/
def transpositions (pairs : List (Char × Nat)) (right : Text) : Nat :=
  let matched := (List.range right.length).zip right |>.filter fun item =>
    pairs.any fun pair => pair.2 == item.1
  ((pairs.map Prod.fst).zip (matched.map Prod.snd)).countP (fun pair => pair.1 != pair.2) / 2

/-- A similarity between nothing and one, in binary floating point. -/
structure Degree where
  numerator : Nat
  denominator : Nat
  deriving Repr, DecidableEq

namespace Degree

def nearest (numerator denominator : Nat) : Degree :=
  match Decimal.Binary64.ofFraction false numerator denominator with
  | .finite _ significand exponent =>
    let (n, d) := Decimal.Binary64.scaled significand 1 (-exponent)
    ⟨n, d⟩
  | _ => ⟨0, 1⟩

def add (d e : Degree) : Degree :=
  nearest (d.numerator * e.denominator + e.numerator * d.denominator)
    (d.denominator * e.denominator)

def third (d : Degree) : Degree := nearest d.numerator (d.denominator * 3)

def isAbove (d e : Degree) : Bool :=
  decide (e.numerator * d.denominator < d.numerator * e.denominator)

end Degree

/-- The mean of three shares: the matched part of either word, and the matches in order. Every step
is rounded, so a mean of exactly seven tenths can come out above the threshold. -/
def degree (left right : Text) : Degree :=
  let found := pairs left right
  let m := found.length
  let inOrder := m - transpositions found right
  if m = 0 then ⟨0, 1⟩
  else (((Degree.nearest m left.length).add (.nearest m right.length)).add
    (.nearest inOrder m)).third

def threshold : Degree := .nearest 7 10

/-- The choice whose name is most like the word, the last of equals. -/
def closest? {Choice : Type} (name : Choice → Text) (word : Text) (choices : List Choice) :
    Option Choice :=
  (choices.foldl (fun best choice =>
    let here := degree word (name choice)
    let isBetter := match best with
      | none => here.isAbove threshold
      | some (top, _) => here.isAbove threshold && !Degree.isAbove top here
    if isBetter then some (here, choice) else best) none).map Prod.snd

end PathHeader.Similar
