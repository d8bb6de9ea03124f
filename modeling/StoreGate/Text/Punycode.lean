/-!
# Host labels beyond ASCII

Punycode writes a label with the characters of ASCII alone: first those that are in the label, then,
after a hyphen, the places and numbers of the others as differences of growing numbers, each with
digits whose weights adapt to the differences seen before.

* `Punycode.encode`, `Punycode.decode?` — one way and back.
-/

namespace StoreGate

namespace Punycode

/-! ## Digits -/

/-- The digits: `a` to `z`, then `0` to `9`. -/
def digit (n : Nat) : Char := if n < 26 then Char.ofNat (97 + n) else Char.ofNat (22 + n)

def digitValue? (c : Char) : Option Nat :=
  let n := c.toNat
  if 97 ≤ n ∧ n ≤ 122 then some (n - 97)
  else if 65 ≤ n ∧ n ≤ 90 then some (n - 65)
  else if 48 ≤ n ∧ n ≤ 57 then some (n - 22)
  else none

/-- The least digit at a place that is not the last one. -/
def threshold (place bias : Nat) : Nat := max 1 (min 26 (36 * (place + 1) - bias))

/-- Scales a difference down to the range of one digit; gives the number of steps too. -/
def scaleDown : Nat → Nat → Nat × Nat
  | 0, delta => (0, delta)
  | fuel + 1, delta =>
    if 455 < delta then
      let (steps, rest) := scaleDown fuel (delta / 35)
      (steps + 1, rest)
    else (0, delta)

/-- The bias after a difference; `count` characters have been placed. -/
def adapt (delta count : Nat) (first : Bool) : Nat :=
  let delta := if first then delta / 700 else delta / 2
  let (steps, rest) := scaleDown delta.log2 (delta + delta / count)
  36 * steps + 36 * rest / (rest + 38)

/-- The digits of a difference. -/
def writeDelta (bias : Nat) : Nat → Nat → Nat → List Char
  | 0, _, _ => []
  | fuel + 1, place, q =>
    let t := threshold place bias
    if q < t then [digit q]
    else digit (t + (q - t) % (36 - t)) :: writeDelta bias fuel (place + 1) ((q - t) / (36 - t))

/-! ## Encoding -/

structure Writer where
  written : List Char
  delta : Nat
  bias : Nat
  /-- The characters placed so far. -/
  placed : Nat

/-- Goes past one character of the label while the characters with number `n` are placed. -/
def Writer.pass (basic n : Nat) (w : Writer) (c : Char) : Writer :=
  if c.toNat < n then { w with delta := w.delta + 1 }
  else if c.toNat = n then
    { written := w.written ++ writeDelta w.bias (w.delta.log2 + 2) 0 w.delta
      delta := 0
      bias := adapt w.delta (w.placed + 1) (decide (w.placed = basic))
      placed := w.placed + 1 }
  else w

/-- Places the characters with the given numbers, which increase from `n` on. -/
def placeAll (label : List Char) (basic : Nat) : List Nat → Nat → Writer → Writer
  | [], _, w => w
  | m :: rest, n, w =>
    let w := { w with delta := w.delta + (m - n) * (w.placed + 1) }
    let w := label.foldl (Writer.pass basic m) w
    placeAll label basic rest (m + 1) { w with delta := w.delta + 1 }

def isBasic (c : Char) : Bool := decide (c.toNat < 0x80)

/-- The numbers of the other characters, each once, in order. -/
def otherNumbers (label : List Char) : List Nat :=
  ((label.filter fun c => !isBasic c).map Char.toNat).mergeSort.eraseDups

def encode (label : List Char) : List Char :=
  let basic := label.filter isBasic
  let w := placeAll label basic.length (otherNumbers label) 0x80 ⟨[], 0, 72, basic.length⟩
  (if basic.isEmpty then [] else basic ++ ['-']) ++ w.written

/-! ## Decoding -/

/-- One difference at the start, and what follows it. -/
def readDelta? (bias : Nat) : Nat → Nat → List Char → Option (Nat × List Char)
  | _, _, [] => none
  | place, weight, c :: rest =>
    match digitValue? c with
    | none => none
    | some d =>
      let t := threshold place bias
      if d < t then some (d * weight, rest)
      else
        (readDelta? bias (place + 1) (weight * (36 - t)) rest).map
          fun (q, r) => (d * weight + q, r)

/-- Places the characters that the digits name; `n` and `i` are the number and the place of the
last one, `label` what has been placed. -/
def readAll? : Nat → Nat → Nat → Nat → List Char → List Char → Option (List Char)
  | 0, _, _, _, label, _ => some label
  | _, _, _, _, label, [] => some label
  | fuel + 1, n, i, bias, label, c :: rest =>
    match readDelta? bias 0 1 (c :: rest) with
    | none => none
    | some (delta, rest) =>
      let size := label.length + 1
      let n' := n + (i + delta) / size
      let place := (i + delta) % size
      if 0x10FFFF < n' ∨ (0xD800 ≤ n' ∧ n' ≤ 0xDFFF) then none
      else
        readAll? fuel n' (place + 1) (adapt delta size (decide (i = 0)))
          (label.take place ++ Char.ofNat n' :: label.drop place) rest

/-- The label that a text of ASCII stands for. -/
def decode? (cs : List Char) : Option (List Char) :=
  let tail := (cs.reverse.takeWhile fun c => c != '-').reverse
  let basic := cs.take (cs.length - tail.length - 1)
  if basic.all isBasic then readAll? (cs.length + 1) 0x80 0 72 basic tail else none

example : encode ['b', 'ü', 'c', 'h', 'e', 'r'] = "bcher-kva".toList := by decide +kernel

example : decode? "bcher-kva".toList = some ['b', 'ü', 'c', 'h', 'e', 'r'] := by decide +kernel

end Punycode

end StoreGate
