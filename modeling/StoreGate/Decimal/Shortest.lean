import StoreGate.Decimal.Double

/-!
# The fewest digits that read back

`Double.shortest` gives, for a finite positive double, the decimal `digits · 10 ^ exponent` with the
fewest digits among those that round to the double, and of two such decimals the nearer one.

A decimal rounds to the double exactly if it lies in the interval between the two midpoints to the
neighbouring doubles, the midpoints included when the significand is even. The grids of 1, 2, … 17
digits are tried in turn; if any point of a grid lies in the interval, so does one of the double's
two neighbours on that grid.
-/

namespace StoreGate

/-- The decimal `digits · 10 ^ exponent`. -/
structure Decimal where
  digits : Nat
  exponent : Int
deriving DecidableEq, Repr

namespace Double

/-- The reals that round to `significand · 2 ^ exponent`, as integers in units of
`2 ^ (exponent - 2)`: the lower end, the value itself and the upper end. -/
def roundingInterval (significand : Nat) (exponent : Int) : Nat × Nat × Nat :=
  let below :=
    if significand = Nat.pow 2 52 ∧ leastExponent < exponent then 4 * significand - 1
    else 4 * significand - 2
  (below, 4 * significand, 4 * significand + 2)

/-- The value `a · 10 ^ -k · 2 ^ e` as a quotient. -/
def onGrid (a : Nat) (k e : Int) : Nat × Nat :=
  let (num, den) := ratio a e
  if 0 ≤ k then (num, den * Nat.pow 10 k.toNat) else (num * Nat.pow 10 (-k).toNat, den)

/-- The point of the grid of spacing `10 ^ k` to write for the double, if one rounds to it. -/
def gridPoint? (significand : Nat) (exponent : Int) (k : Int) : Option Nat :=
  let (low, mid, high) := roundingInterval significand exponent
  let unit := exponent - 2
  let (num, den) := onGrid mid k unit
  let (lowNum, lowDen) := onGrid low k unit
  let (highNum, highDen) := onGrid high k unit
  let even := significand % 2 == 0
  let inside (p : Nat) : Bool :=
    if even then decide (lowNum ≤ p * lowDen) && decide (p * highDen ≤ highNum)
    else decide (lowNum < p * lowDen) && decide (p * highDen < highNum)
  let below := num / den
  let above := below + 1
  match inside below && decide (0 < below), inside above with
  | true, true =>
    let twice := 2 * (num % den)
    if twice < den ∨ (twice = den ∧ below % 2 = 0) then some below else some above
  | true, false => some below
  | false, true => some above
  | false, false => none

/-- The exponent of the leading decimal digit: the greatest `k` with `10 ^ k ≤ num / den`, searched
downwards from `k + fuel`. -/
def leadingExponent (num den : Nat) : Nat → Int → Int
  | 0, k => k
  | fuel + 1, k =>
    let (n, d) :=
      if 0 ≤ k then (num, den * Nat.pow 10 k.toNat) else (num * Nat.pow 10 (-k).toNat, den)
    if d ≤ n then k else leadingExponent num den fuel (k - 1)

/-- Removes the zeros at the end of a decimal's digits. -/
def Decimal.trimZeros : Nat → Decimal → Decimal
  | 0, d => d
  | fuel + 1, d =>
    if d.digits % 10 = 0 then trimZeros fuel ⟨d.digits / 10, d.exponent + 1⟩ else d

/-- The first of the grids `10 ^ k`, `10 ^ (k - 1)`, … with a point that rounds to the double. -/
def firstGrid (significand : Nat) (exponent : Int) : Nat → Int → Decimal
  | 0, k => ⟨0, k⟩
  | fuel + 1, k =>
    match gridPoint? significand exponent k with
    | some p => ⟨p, k⟩
    | none => firstGrid significand exponent fuel (k - 1)

/-- The shortest decimal that reads back as `significand · 2 ^ exponent`. -/
def shortest (significand : Nat) (exponent : Int) : Decimal :=
  if significand = 0 then ⟨0, 0⟩
  else
    let (num, den) := ratio significand exponent
    let estimate : Int := (((significand.log2 : Int) + exponent) * 30103).fdiv 100000 + 1
    let leading := leadingExponent num den 4 estimate
    Decimal.trimZeros 20 (firstGrid significand exponent 18 leading)

example : shortest 7205759403792794 (-56) = ⟨1, -1⟩ := by decide +kernel

example : shortest 1 (-1074) = ⟨5, -324⟩ := by decide +kernel

end Double

end StoreGate
