import StoreGate.Decimal.Double

/-!
# Read decimals

Texts of integers and doubles as numbers. `Double.ofDecimal` is correctly rounded, whatever the
number of digits; `Double.read?` accepts a sign, digits with an optional point and exponent, and
the words for infinity and for what is not a number. `Decimal.readInt?` accepts a sign and digits.
-/

namespace StoreGate

namespace Decimal

def isDigit (c : Char) : Bool := decide ('0' ≤ c) && decide (c ≤ '9')

def digitValue (c : Char) : Nat := c.toNat - '0'.toNat

/-- The number that a list of digits spells, after the digits read before. -/
def ofDigits (digits : List Char) : Nat :=
  digits.foldl (fun n c => 10 * n + digitValue c) 0

/-- One or more digits and nothing else. -/
def readNat? (cs : List Char) : Option Nat :=
  if cs.isEmpty || !cs.all isDigit then none else some (ofDigits cs)

/-- Digits after an optional sign. -/
def readInt? : List Char → Option Int
  | '+' :: cs => (readNat? cs).map fun n => (n : Int)
  | '-' :: cs => (readNat? cs).map fun n => -(n : Int)
  | cs => (readNat? cs).map fun n => (n : Int)

/-- A signed number within `lo … hi`. -/
def readIntIn? (lo hi : Int) (cs : List Char) : Option Int :=
  (readInt? cs).filter fun n => decide (lo ≤ n) && decide (n ≤ hi)

/-- An unsigned number of at most `hi`; a plus sign may stand before it. -/
def readNatUpTo? (hi : Nat) : List Char → Option Nat
  | '+' :: cs => (readNat? cs).filter fun n => decide (n ≤ hi)
  | cs => (readNat? cs).filter fun n => decide (n ≤ hi)

end Decimal

namespace Double

/-- The double nearest to `± digits · 10 ^ exponent`. Exponents far outside the range of doubles are
settled without computing the power. -/
def ofDecimal (negative : Bool) (digits : Nat) (exponent : Int) : Double :=
  if digits = 0 then .finite negative 0 leastExponent
  else
    let size : Int := (digits.log2 : Int) * 30103 / 100000
    if 400 < size + exponent then .infinite negative
    else if size + exponent < -400 then .finite negative 0 leastExponent
    else if 0 ≤ exponent then ofRatio negative (digits * Nat.pow 10 exponent.toNat) 1
    else ofRatio negative digits (Nat.pow 10 (-exponent).toNat)

/-- The exponent part: nothing, or `e` with an optional sign and at least one digit. -/
def readExponent? : List Char → Option Int
  | [] => some 0
  | c :: cs => if c = 'e' ∨ c = 'E' then Decimal.readInt? cs else none

/-- Digits with an optional point, at least one digit, and an optional exponent. -/
def readUnsigned? (negative : Bool) (cs : List Char) : Option Double :=
  let whole := cs.takeWhile Decimal.isDigit
  let rest := cs.dropWhile Decimal.isDigit
  let (fraction, rest) :=
    match rest with
    | '.' :: rest => (rest.takeWhile Decimal.isDigit, rest.dropWhile Decimal.isDigit)
    | rest => ([], rest)
  if whole.isEmpty && fraction.isEmpty then none
  else
    (readExponent? rest).map fun e =>
      ofDecimal negative (Decimal.ofDigits (whole ++ fraction)) (e - (fraction.length : Int))

def lowered (cs : List Char) : List Char := cs.map Char.toLower

/-- A number after an optional sign, or one of the words `inf`, `infinity`, `nan` in any case. -/
def read? (cs : List Char) : Option Double :=
  let (negative, body) :=
    match cs with
    | '+' :: rest => (false, rest)
    | '-' :: rest => (true, rest)
    | _ => (false, cs)
  if lowered body = ['i', 'n', 'f'] ∨ lowered body = ['i', 'n', 'f', 'i', 'n', 'i', 't', 'y'] then
    some (.infinite negative)
  else if lowered body = ['n', 'a', 'n'] then some .nan
  else readUnsigned? negative body

example : read? ['1', '.', '5', 'e', '3'] = some (ofInt 1500) := by decide +kernel

end Double

end StoreGate
