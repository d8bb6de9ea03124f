import StoreGate.Text.Direction
import StoreGate.Text.Joining
import StoreGate.Text.Percent
import StoreGate.Text.PrintTable
import StoreGate.Text.Punycode
import StoreGate.Url.ReplacementTable

/-!
# Names of hosts

A name is compared by its letters, not by the forms they are written in: capital letters are
lowered, wide, circled or raised ones are replaced by plain ones, characters that show nothing are
left out, and what is left is brought into normal form C. Between points stand the labels, and a
label beyond ASCII is written in Punycode behind a mark. A label that has the mark already has to be
what would have been written.

* `HostName.ascii?` — the one written form of a name.
-/

namespace StoreGate

namespace HostName

/-- A character that no name has: blanks, control characters and the marks of addresses. -/
def isForbidden (c : Char) : Bool :=
  decide (c.toNat ≤ 0x20) || c.toNat == 0x7F ||
    ['#', '%', '/', ':', '<', '>', '?', '@', '[', '\\', ']', '^', '|'].contains c

def isAscii (c : Char) : Bool := decide (c.toNat < 0x80)

/-! ## Replacements -/

/-- The letters of Cherokee stand in names as capital letters. -/
def isKeptCapital (c : Char) : Bool := decide (0x13A0 ≤ c.toNat) && decide (c.toNat ≤ 0x13F5)

/-- What the tables have in place of a character. -/
def replacement? (n : Nat) : Option (List Char) :=
  match letterReplacements.find? fun r => decide (r.1 ≤ n) && decide (n < r.1 + r.2.length) with
  | some r => r.2.toList[n - r.1]?.map fun c => [c]
  | none =>
    match textReplacements.find? fun r => decide (r.1 ≤ n) && decide (n < r.1 + r.2.length) with
    | some r => r.2[n - r.1]?.map String.toList
    | none => none

/-- A character that no name has and nothing replaces. -/
def isRefused (c : Char) : Bool :=
  (Text.inRanges Text.unprintableRanges c.toNat && c != Text.parter && c != Text.joiner) ||
    Text.inRanges refusedRanges c.toNat

/-- What stands in a name for a character, if anything can. -/
def plainForm? (c : Char) : Option (List Char) :=
  if isAscii c then some [c.toLower]
  else if Text.inRanges ignoredRanges c.toNat then some []
  else
    match replacement? c.toNat with
    | some cs => some cs
    | none =>
      if isRefused c then none
      else if isKeptCapital c then some [c]
      else some (Text.lowerChar c)

/-- A name with its replacements, in normal form C. -/
def plain? (cs : List Char) : Option (List Char) :=
  if cs.all isAscii then some (cs.map Char.toLower)
  else (cs.mapM plainForm?).map fun forms => Text.composed forms.flatten

/-! ## Labels -/

/-- The mark before a label in Punycode. -/
def punycodeMark : List Char := ['x', 'n', '-', '-']

/-- The length of a label beyond ASCII is limited. -/
def longestLabel : Nat := 1000

/-- A mark of any kind, which cannot begin a label. -/
def isMark (c : Char) : Bool :=
  Text.inRanges Text.nonspacingRanges c.toNat || Text.inRanges Text.spacingMarkRanges c.toNat

/-- A label may be shown as it is: it begins with no mark, and its joiners fit. -/
def isLabel (label : List Char) : Bool :=
  label.all isAscii ||
    (decide (label.length ≤ longestLabel) && !label.head?.any isMark && Text.joinersFit [] label)

/-- A label that nothing is replaced in. -/
def isPlain (label : List Char) : Bool :=
  (label.all fun c => plainForm? c == some [c]) && Text.composed label == label

/-- The label that a text in Punycode stands for, if this label would be written so. -/
def decodeLabel? (text : List Char) : Option (List Char) :=
  match Punycode.decode? text with
  | none => none
  | some label =>
    if !label.all isAscii && isPlain label && Punycode.encode label == text then some label
    else none

/-- A label as it is shown: in its own letters, whether it was written so or in Punycode. -/
def shown? (label : List Char) : Option (List Char) :=
  match punycodeMark.isPrefixOf? label with
  | none => some label
  | some text => decodeLabel? text

/-- A label with the characters of ASCII alone. -/
def written (label : List Char) : List Char :=
  if label.all isAscii then label else punycodeMark ++ Punycode.encode label

/-! ## Names -/

/-- The written form of a name whose replacements have been made. -/
def ofPlain? (name : List Char) : Option (List Char) :=
  match (Percent.splitOn '.' name).mapM shown? with
  | none => none
  | some labels =>
    if labels.all isLabel && Text.directionsAgree labels && !name.any isForbidden then
      some (List.intercalate ['.'] (labels.map written))
    else none

/-- A name with the characters of ASCII alone. -/
def ascii? (cs : List Char) : Option (List Char) := (plain? cs).bind ofPlain?

example : ascii? "Frontend-1.Example".toList = some "frontend-1.example".toList := by
  decide +kernel

end HostName

end StoreGate
