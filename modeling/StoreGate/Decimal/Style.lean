import StoreGate.Decimal.Shortest

/-!
# Written decimals

Numbers as text: plain digits for natural numbers and integers, and the two ways in which doubles
are written. `DecimalStyle` records the decisions of a way of writing: for which leading exponents
the digits stand around a point, and whether a whole number keeps `.0`.
-/

namespace StoreGate

namespace Decimal

/-- The decimal digits of a natural number. -/
def natDigits (n : Nat) : List Char := Nat.toDigits 10 n

def intDigits : Int → List Char
  | .ofNat n => natDigits n
  | .negSucc n => '-' :: natDigits (n + 1)

def natText (n : Nat) : String := String.ofList (natDigits n)

def intText (n : Int) : String := String.ofList (intDigits n)

/-- A natural number in at least `width` digits. -/
def padded (width n : Nat) : List Char :=
  let digits := natDigits n
  List.replicate (width - digits.length) '0' ++ digits

end Decimal

/-- How the digits of a double are laid out. -/
structure DecimalStyle where
  /-- The leading exponents whose numbers stand around a point; all of them if there is no range. -/
  positional : Option (Int × Int)
  /-- A whole number keeps `.0`. -/
  keepsPoint : Bool
deriving Repr

namespace DecimalStyle

/-- Doubles in data: a point from `0.00001` to sixteen whole digits, otherwise an exponent. -/
def data : DecimalStyle := ⟨some (-5, 15), true⟩

/-- Doubles in a header: never an exponent, and whole numbers without a point. -/
def plain : DecimalStyle := ⟨none, false⟩

/-- The digits with a point where the exponent `point` of the last digit puts it. -/
def positionalDigits (style : DecimalStyle) (digits : List Char) (exponent : Int) : List Char :=
  if 0 ≤ exponent then
    digits ++ List.replicate exponent.toNat '0' ++ (if style.keepsPoint then ['.', '0'] else [])
  else
    let places := (-exponent).toNat
    if digits.length ≤ places then
      '0' :: '.' :: (List.replicate (places - digits.length) '0' ++ digits)
    else
      digits.take (digits.length - places) ++ '.' :: digits.drop (digits.length - places)

/-- An exponent with its sign, a plus sign included. -/
def exponentDigits (n : Int) : List Char :=
  'e' :: if 0 ≤ n then '+' :: Decimal.intDigits n else Decimal.intDigits n

/-- One digit, a point before the others, and the exponent of the first. -/
def scientificDigits (digits : List Char) (leading : Int) : List Char :=
  match digits with
  | [] => []
  | d :: [] => d :: exponentDigits leading
  | d :: rest => d :: '.' :: rest ++ exponentDigits leading

/-- The text of a magnitude. -/
def magnitude (style : DecimalStyle) (significand : Nat) (exponent : Int) : List Char :=
  let d := Double.shortest significand exponent
  let digits := Decimal.natDigits d.digits
  let leading := d.exponent + (digits.length : Int) - 1
  match style.positional with
  | none => style.positionalDigits digits d.exponent
  | some (lo, hi) =>
    if lo ≤ leading ∧ leading ≤ hi then style.positionalDigits digits d.exponent
    else scientificDigits digits leading

/-- The text of a double. -/
def write (style : DecimalStyle) : Double → List Char
  | .finite negative m e => (if negative then ['-'] else []) ++ style.magnitude m e
  | .infinite negative => (if negative then ['-'] else []) ++ ['i', 'n', 'f']
  | .nan => ['N', 'a', 'N']

def text (style : DecimalStyle) (x : Double) : String := String.ofList (style.write x)

example : data.text (Double.ofInt 1) = "1.0" := by decide +kernel

example : data.text (Double.ofInt (10 ^ 16)) = "1e+16" := by decide +kernel

example : data.text (Double.ofRatio true 3 200000) = "-0.000015" := by decide +kernel

example : plain.text (Double.ofInt (10 ^ 22)) = "10000000000000000000000" := by decide +kernel

end DecimalStyle

end StoreGate
