import StoreGate.Text.CaseTable

/-!
# Lower case

The full lower case of Unicode: each character by its own mapping, one of them to two characters,
and a capital sigma by its place, final if it ends a word.

* `Text.lowerChars` — the lower case of a text.
* `Text.containsChars_iff` — the search for a part of a text finds exactly the parts.
-/

namespace StoreGate

namespace Text

def inRanges (ranges : List (Nat × Nat)) (n : Nat) : Bool :=
  ranges.any fun r => decide (r.1 ≤ n) && decide (n ≤ r.2)

def isCased (c : Char) : Bool := inRanges casedRanges c.toNat

def isCaseIgnorable (c : Char) : Bool := inRanges caseIgnorableRanges c.toNat

/-- The capital letter whose lower case depends on its place. -/
def capitalSigma : Char := 'Σ'

/-- The lower case of one character away from its neighbours. -/
def lowerChar (c : Char) : List Char :=
  if c.toNat < 0x80 then [c.toLower]
  else if c.toNat = 0x130 then ['i', '\u0307']
  else
    match lowerRuns.find? (·.contains c.toNat) with
    | some r => [Char.ofNat ((c.toNat : Int) + r.shift).toNat]
    | none => [c]

/-- The next character that counts for the end of a word is a letter. -/
def letterFollows (cs : List Char) : Bool :=
  match cs.dropWhile isCaseIgnorable with
  | c :: _ => isCased c
  | [] => false

/-- The lower case of a sigma between the characters `before`, nearest first, and `after`. -/
def lowerSigma (before after : List Char) : Char :=
  if letterFollows before && !letterFollows after then 'ς' else 'σ'

/-- The lower case of a text after the characters `before`, nearest first. -/
def lowerAfter (before : List Char) : List Char → List Char
  | [] => []
  | c :: rest =>
    (if c = capitalSigma then [lowerSigma before rest] else lowerChar c) ++
      lowerAfter (c :: before) rest

def lowerChars (cs : List Char) : List Char := lowerAfter [] cs

/-- The lower case of a text. -/
def lower (s : String) : String := String.ofList (lowerChars s.toList)

/-! ## Substrings -/

/-- Whether `needle` stands somewhere in `text`. -/
def containsChars (needle : List Char) : List Char → Bool
  | [] => needle.isEmpty
  | c :: rest => needle.isPrefixOf (c :: rest) || containsChars needle rest

def contains (text needle : String) : Bool := containsChars needle.toList text.toList

theorem containsChars_iff {needle text : List Char} :
    containsChars needle text = true ↔ needle <:+: text := by
  induction text with
  | nil => cases needle <;> simp [containsChars]
  | cons c rest ih =>
    simp only [containsChars, Bool.or_eq_true, List.isPrefixOf_iff_prefix, ih,
      List.infix_cons_iff]

end Text

end StoreGate
