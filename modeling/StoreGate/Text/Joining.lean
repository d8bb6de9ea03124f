import StoreGate.Text.Composition
import StoreGate.Text.JoiningTable

/-!
# Joiners

Two characters show nothing and only say how the letters around them are joined. A label may have
them where they make a difference: both after a sign that leaves out a vowel, and the one that parts
letters also between two letters that would join without it.

* `Text.joinersFit` — the rule for a label.
-/

namespace StoreGate

namespace Text

/-- Parts the letters around it. -/
def parter : Char := '\u200c'

/-- Joins the letters around it. -/
def joiner : Char := '\u200d'

/-- The class of the signs that leave out a vowel. -/
def viramaClass : Nat := 9

/-- Letters join across a mark that takes no place. -/
def isTransparent (c : Char) : Bool := inRanges nonspacingRanges c.toNat || c.toNat == 0x1E94B

/-- The nearest letter in a list joins what follows it. -/
def joinsAfter (nearestFirst : List Char) : Bool :=
  match nearestFirst.dropWhile isTransparent with
  | c :: _ => inRanges dualJoiningRanges c.toNat || inRanges leftJoiningRanges c.toNat
  | [] => false

/-- The nearest letter in a list joins what goes before it. -/
def joinsBefore (nearestFirst : List Char) : Bool :=
  match nearestFirst.dropWhile isTransparent with
  | c :: _ => inRanges dualJoiningRanges c.toNat || inRanges rightJoiningRanges c.toNat
  | [] => false

/-- A character may stand between the characters `before`, nearest first, and `after`. -/
def joinerFits (before : List Char) (c : Char) (after : List Char) : Bool :=
  if c = parter ∨ c = joiner then
    match before with
    | [] => false
    | p :: _ =>
      markClass p == viramaClass || (c == parter && joinsAfter before && joinsBefore after)
  else true

/-- Every joiner of a label fits; `before` are the characters before it, nearest first. -/
def joinersFit (before : List Char) : List Char → Bool
  | [] => true
  | c :: rest => joinerFits before c rest && joinersFit (c :: before) rest

end Text

end StoreGate
