/-!
# Binary floating point, exactly

A `Double` is an IEEE 754 binary64 value written as an integer significand times a power of two.
Every operation is exact integer arithmetic followed by one rounding, `Double.ofRatio`, to the
nearest value, ties to the even significand.

* `Double.nearestEven` — the integer nearest to a quotient.
* `Double.truncated`, `Double.rounded` — the way back to integers, clamped to a range.
-/

namespace StoreGate

/-- An IEEE 754 binary64 value; a finite one is `± significand · 2 ^ exponent`. -/
inductive Double where
  | finite (negative : Bool) (significand : Nat) (exponent : Int)
  | infinite (negative : Bool)
  | nan
deriving DecidableEq, Repr

namespace Double

/-- The exponent of the finest spacing. -/
def leastExponent : Int := -1074

/-- The exponent of the coarsest spacing of finite values. -/
def greatestExponent : Int := 971

def zero : Double := .finite false 0 leastExponent

instance : Inhabited Double := ⟨zero⟩

/-! ## Rounding -/

/-- The integer nearest to `num / den`; a tie goes to the even one. -/
def nearestEven (num den : Nat) : Nat :=
  let floor := num / den
  let twice := 2 * (num % den)
  if den < twice ∨ (twice = den ∧ floor % 2 = 1) then floor + 1 else floor

/-- The quotient `num / den` measured in units of `2 ^ exponent`, again as a quotient. -/
def inUnits (num den : Nat) (exponent : Int) : Nat × Nat :=
  if 0 ≤ exponent then (num, den * Nat.pow 2 exponent.toNat)
  else (num * Nat.pow 2 (-exponent).toNat, den)

/-- The exponent of the spacing of doubles around `num / den`: a positive quotient measured in that
unit has 53 bits, or fewer at the bottom of the range. -/
def spacing (num den : Nat) : Int :=
  let fine : Int := (num.log2 : Int) - (den.log2 : Int) - 53
  let (n, d) := inUnits num den fine
  max leastExponent (if n < d * Nat.pow 2 53 then fine else fine + 1)

/-- The double nearest to `± num / den`. -/
def ofRatio (negative : Bool) (num den : Nat) : Double :=
  if num = 0 then .finite negative 0 leastExponent
  else
    let exponent := spacing num den
    let (n, d) := inUnits num den exponent
    let significand := nearestEven n d
    let (significand, exponent) :=
      if significand = Nat.pow 2 53 then (Nat.pow 2 52, exponent + 1) else (significand, exponent)
    if greatestExponent < exponent then .infinite negative
    else .finite negative significand exponent

def ofInt (n : Int) : Double := ofRatio (decide (n < 0)) n.natAbs 1

/-- The exact value of a finite magnitude as a quotient. -/
def ratio (significand : Nat) (exponent : Int) : Nat × Nat :=
  if 0 ≤ exponent then (significand * Nat.pow 2 exponent.toNat, 1)
  else (significand, Nat.pow 2 (-exponent).toNat)

/-! ## Arithmetic -/

def isNegative : Double → Bool
  | .finite n _ _ => n
  | .infinite n => n
  | .nan => false

def isFinite : Double → Bool
  | .finite _ _ _ => true
  | _ => false

def isZero : Double → Bool
  | .finite _ 0 _ => true
  | _ => false

def neg : Double → Double
  | .finite n m e => .finite (!n) m e
  | .infinite n => .infinite (!n)
  | .nan => .nan

def mul : Double → Double → Double
  | .nan, _ => .nan
  | _, .nan => .nan
  | .infinite n, y => if y.isZero then .nan else .infinite (n != y.isNegative)
  | x, .infinite n => if x.isZero then .nan else .infinite (x.isNegative != n)
  | .finite n m e, .finite n' m' e' =>
    let (a, b) := ratio m e
    let (a', b') := ratio m' e'
    ofRatio (n != n') (a * a') (b * b')

/-- Quotient of finite values; the divisor is not zero where it is used. -/
def div : Double → Double → Double
  | .finite n m e, .finite n' m' e' =>
    if m' = 0 then (if m = 0 then .nan else .infinite (n != n'))
    else
      let (a, b) := ratio m e
      let (a', b') := ratio m' e'
      ofRatio (n != n') (a * b') (b * a')
  | _, _ => .nan

/-- The value in units of `2 ^ leastExponent`, the common grid of all finite doubles. -/
def gridValue (negative : Bool) (significand : Nat) (exponent : Int) : Int :=
  let magnitude : Nat := significand * Nat.pow 2 (exponent - leastExponent).toNat
  if negative then -(magnitude : Int) else magnitude

/-- The order of values: false as soon as one side is not a number. -/
def le : Double → Double → Bool
  | .nan, _ => false
  | _, .nan => false
  | .infinite true, _ => true
  | _, .infinite false => true
  | .infinite false, _ => false
  | _, .infinite true => false
  | .finite n m e, .finite n' m' e' => decide (gridValue n m e ≤ gridValue n' m' e')

/-- Strictly above zero. -/
def isPositive : Double → Bool
  | .finite false m _ => decide (0 < m)
  | .infinite false => true
  | _ => false

/-! ## Back to integers -/

def clamp (lo hi n : Int) : Int := max lo (min hi n)

/-- Drops the fraction and clamps into `lo … hi`; what is not a number gives zero. -/
def truncated (lo hi : Int) : Double → Int
  | .nan => 0
  | .infinite true => lo
  | .infinite false => hi
  | .finite n m e =>
    let (a, b) := ratio m e
    let q : Int := (a / b : Nat)
    clamp lo hi (if n then -q else q)

/-- The nearest integer, halves away from zero, clamped into `lo … hi`. -/
def rounded (lo hi : Int) : Double → Int
  | .nan => 0
  | .infinite true => lo
  | .infinite false => hi
  | .finite n m e =>
    let (a, b) := ratio m e
    let q : Int := ((2 * a + b) / (2 * b) : Nat)
    clamp lo hi (if n then -q else q)

example : ofRatio false 1 10 = .finite false 7205759403792794 (-56) := by decide +kernel

example : ofInt (2 ^ 53 + 1) = .finite false (2 ^ 52) 1 := by decide +kernel

end Double

end StoreGate
