import StoreGate.Text.CompositionTable
import StoreGate.Text.LowerCase
import StoreGate.Text.MarkTable

/-!
# Normal form C

A letter with marks can be written as several characters, the marks in one order or another, or as
one character for the whole. Normal form C takes everything apart, puts the marks of each letter in
the order of their classes, and joins whatever has a character of its own.

* `Text.composed` — a text in normal form C. Characters that the form replaces by others one for
  one, or always leaves apart, are not looked for: where they matter, they have been replaced.
-/

namespace StoreGate

namespace Text

/-- The class of a mark; zero for a character that begins anew. -/
def markClass (c : Char) : Nat :=
  let n := c.toNat
  if n < 0x300 then 0
  else
    match markClassRanges.find? fun r => decide (r.1 ≤ n) && decide (n ≤ r.2.1) with
    | some r => r.2.2
    | none => 0

/-! ## Syllables of Hangul

A syllable has one of 19 consonants, one of 21 vowels, and one of 27 final consonants or none. -/

/-- A syllable without its final consonant and this one, or its first consonant and its vowel. -/
def syllableParts? (n : Nat) : Option (Nat × Nat) :=
  if n < 0xAC00 ∨ 0xD7A3 < n then none
  else
    let i := n - 0xAC00
    if i % 28 = 0 then some (0x1100 + i / 588, 0x1161 + i % 588 / 28)
    else some (n - i % 28, 0x11A7 + i % 28)

/-- The syllable of a consonant and a vowel, or of a syllable and a final consonant. -/
def syllable? (a b : Nat) : Option Nat :=
  if 0x1100 ≤ a ∧ a ≤ 0x1112 ∧ 0x1161 ≤ b ∧ b ≤ 0x1175 then
    some (0xAC00 + ((a - 0x1100) * 21 + (b - 0x1161)) * 28)
  else if 0xAC00 ≤ a ∧ a ≤ 0xD7A3 ∧ (a - 0xAC00) % 28 = 0 ∧ 0x11A8 ≤ b ∧ b ≤ 0x11C2 then
    some (a + (b - 0x11A7))
  else none

/-! ## Pairs -/

namespace CompositionRow

/-- The first characters, each with its composite. -/
def pairs (r : CompositionRow) : List (Char × Char) := r.firsts.toList.zip r.composites.toList

end CompositionRow

/-- The two characters that a composite is made of. -/
def parts? (c : Char) : Option (Char × Char) :=
  if c.toNat < 0xC0 then none
  else
    match syllableParts? c.toNat with
    | some (a, b) => some (Char.ofNat a, Char.ofNat b)
    | none =>
      compositionRows.findSome? fun r =>
        (r.pairs.find? fun p => p.2 == c).map fun p => (p.1, Char.ofNat r.second)

/-- The composite of two characters. -/
def composite? (a b : Char) : Option Char :=
  if b.toNat < 0x300 then none
  else
    match syllable? a.toNat b.toNat with
    | some n => some (Char.ofNat n)
    | none =>
      compositionRows.findSome? fun r =>
        if r.second = b.toNat then (r.pairs.find? fun p => p.1 == a).map (·.2) else none

/-! ## The form -/

/-- A character taken apart in at most so many steps. -/
def apart : Nat → Char → List Char
  | 0, c => [c]
  | steps + 1, c =>
    match parts? c with
    | none => [c]
    | some (a, b) => apart steps a ++ [b]

/-- The steps that take any character apart. -/
def apartSteps : Nat := 3

/-- Puts a character in front of a text, behind the marks that go before it. -/
def insertMark (c : Char) : List Char → List Char
  | [] => [c]
  | d :: rest =>
    if 0 < markClass d ∧ markClass d < markClass c then d :: insertMark c rest else c :: d :: rest

/-- A text with the marks of each letter in the order of their classes; marks of one class stay in
their order. -/
def marksInOrder (cs : List Char) : List Char := cs.foldr insertMark []

/-- Joins a letter, whose marks so far do not join it and are given last first, with what follows.
A mark reaches the letter past the marks of lower classes only. -/
def joinMarks (letter : Char) (marks : List Char) : List Char → List Char
  | [] => letter :: marks.reverse
  | c :: rest =>
    let reaches := match marks with
      | [] => true
      | m :: _ => decide (markClass m < markClass c)
    match if reaches then composite? letter c else none with
    | some x => joinMarks x marks rest
    | none =>
      if markClass c = 0 then letter :: marks.reverse ++ joinMarks c [] rest
      else joinMarks letter (c :: marks) rest

/-- Joins what has a character of its own; marks at the start have no letter to join. -/
def joinAll : List Char → List Char
  | [] => []
  | c :: rest => if markClass c = 0 then joinMarks c [] rest else c :: joinAll rest

/-- A text in normal form C. -/
def composed (cs : List Char) : List Char :=
  joinAll (marksInOrder (cs.flatMap (apart apartSteps)))

/-- A plain letter is not taken apart. -/
theorem apart_of_lt {c : Char} (h : c.toNat < 0xC0) (steps : Nat) : apart steps c = [c] := by
  cases steps with
  | zero => rfl
  | succ steps => simp [apart, parts?, h]

end Text

end StoreGate
