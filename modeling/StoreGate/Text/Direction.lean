import StoreGate.Text.DirectionTable
import StoreGate.Text.LowerCase
import StoreGate.Text.MarkTable

/-!
# Direction of labels

Where the labels of a name run from left to right in one script and from right to left in another,
the order of what is shown may not be that of what is written. A label keeps to its direction if it
begins with a letter, has nothing in it that runs against this letter, and ends so that what
follows it stays in place.

* `Text.keepsDirection` — the rule for one label.
* `Text.directionsAgree` — the rule for the labels of a name: it is asked only where something runs
  from right to left.
-/

namespace StoreGate

namespace Text

inductive Direction where
  | left
  | right
  | arabicNumber
  | europeanNumber
  /-- Goes along with what stands around it. -/
  | neutral
  /-- Goes along with the letter before it. -/
  | mark
deriving DecidableEq, Repr

/-- The direction of a character that names may have. -/
def direction (c : Char) : Direction :=
  let n := c.toNat
  if inRanges rightRanges n then .right
  else if inRanges arabicNumberRanges n then .arabicNumber
  else if inRanges europeanNumberRanges n then .europeanNumber
  else if inRanges neutralRanges n then .neutral
  else if inRanges nonspacingRanges n && !inRanges leftMarkRanges n then .mark
  else .left

/-- A character that runs from right to left. -/
def runsLeft (c : Char) : Bool :=
  decide (0x590 ≤ c.toNat) && (direction c == .right || direction c == .arabicNumber)

/-- The directions of a label without the marks at its end. -/
def directionsOf (label : List Char) : List Direction :=
  ((label.map direction).reverse.dropWhile (· == .mark)).reverse

/-- A label from left to right has nothing from right to left and ends with a letter or number; one
from right to left has no letter from left to right and no numbers of two kinds, and ends with a
letter or number. -/
def keepsDirection (label : List Char) : Bool :=
  let ds := directionsOf label
  match label.head?.map direction with
  | none => true
  | some .left =>
    (ds.getLast?.all fun d => d == .left || d == .europeanNumber) &&
      !ds.contains .right && !ds.contains .arabicNumber
  | some .right =>
    (ds.getLast?.all fun d => d == .right || d == .arabicNumber || d == .europeanNumber) &&
      !ds.contains .left && !(ds.contains .arabicNumber && ds.contains .europeanNumber)
  | some _ => false

/-- The labels of a name keep their directions, if any of them runs from right to left. -/
def directionsAgree (labels : List (List Char)) : Bool :=
  !labels.any (·.any runsLeft) || labels.all keepsDirection

end Text

end StoreGate
