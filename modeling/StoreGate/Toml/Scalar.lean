import StoreGate.Toml.Table
import StoreGate.Text.Pattern
import StoreGate.Time.Civil
import StoreGate.Decimal.Reading
import StoreGate.Json.Parser

/-!
# Words of a settings file

A value that is neither text, array nor table is one word: a truth value, an integer in one of four
bases, a number with a point or an exponent, or a moment. Underscores may stand between digits.

* `Toml.ofWord?` — the value of a word.
-/

namespace StoreGate

namespace Toml

/-! ## Numbers -/

/-- A digit of the given base. -/
def isDigitBelow (base : Nat) (c : Char) : Bool :=
  match Document.hexValue? c with
  | some n => decide (n < base)
  | none => false

/-- Digits with single underscores between them. -/
def digitsPattern (first rest : Char → Bool) : Pattern :=
  .both (.one first) (.many (.both (.maybe (.exactly '_')) (.one rest)))

def signPattern : Pattern := .maybe (.either (.exactly '+') (.exactly '-'))

/-- A decimal integer; it has no leading zero. -/
def decimalPattern : Pattern :=
  .both signPattern (.either (.exactly '0')
    (digitsPattern (fun c => Decimal.isDigit c && c != '0') Decimal.isDigit))

/-- Digits after a point or in an exponent; they may begin with zeros. -/
def tailPattern : Pattern := digitsPattern Decimal.isDigit Decimal.isDigit

def exponentPattern : Pattern :=
  .both (.one fun c => c == 'e' || c == 'E') (.both signPattern tailPattern)

/-- A decimal integer with a fraction, an exponent, or both. -/
def doublePattern : Pattern :=
  .both decimalPattern (.either exponentPattern
    (.both (.exactly '.') (.both tailPattern (.maybe exponentPattern))))

def withoutUnderscores (cs : List Char) : List Char := cs.filter fun c => c != '_'

/-- The number that digits of a base spell. -/
def ofBase (base : Nat) (digits : List Char) : Nat :=
  digits.foldl (fun n c => base * n + (Document.hexValue? c).getD 0) 0

/-- An integer of 64 bits. -/
def inRange? (n : Int) : Option Toml :=
  if Json.minInt64 ≤ n ∧ n ≤ Json.maxInt64 then some (.int n) else none

/-- An integer after the mark of its base. -/
def ofBaseWord? (base : Nat) (cs : List Char) : Option Toml :=
  if (digitsPattern (isDigitBelow base) (isDigitBelow base)).matchesChars cs then
    inRange? (ofBase base (withoutUnderscores cs))
  else none

def isInfinite (x : Double) : Bool :=
  match x with
  | .infinite false => true
  | _ => false

/-- A number; one that is too great is none. -/
def ofNumberWord? (cs : List Char) : Option Toml :=
  if decimalPattern.matchesChars cs then
    (Decimal.readInt? (withoutUnderscores cs)).bind inRange?
  else if doublePattern.matchesChars cs then
    ((Double.read? (withoutUnderscores cs)).filter fun x => !isInfinite x).map .double
  else none

/-! ## Moments -/

/-- Two digits that spell a number of at most `hi`. -/
def isTwoDigits (hi : Nat) (a b : Char) : Bool :=
  Decimal.isDigit a && Decimal.isDigit b && decide (Decimal.ofDigits [a, b] ≤ hi)

def isDate (cs : List Char) : Bool :=
  match cs with
  | [a, b, c, d, '-', m, n, '-', e, f] =>
    [a, b, c, d, m, n, e, f].all Decimal.isDigit &&
      Date.isValid ⟨Decimal.ofDigits [a, b, c, d], Decimal.ofDigits [m, n],
        Decimal.ofDigits [e, f]⟩
  | _ => false

/-- What follows the fraction of a second, if there is one. -/
def afterFraction? : List Char → Option (List Char)
  | '.' :: c :: rest => if Decimal.isDigit c then some (rest.dropWhile Decimal.isDigit) else none
  | ['.'] => none
  | cs => some cs

/-- An offset from UTC, or nothing. -/
def isOffset : List Char → Bool
  | [] => true
  | [c] => c == 'Z' || c == 'z'
  | [sign, a, b, ':', c, d] =>
    (sign == '+' || sign == '-') && isTwoDigits 23 a b && isTwoDigits 59 c d
  | _ => false

/-- What follows a time of day. -/
def afterTime? : List Char → Option (List Char)
  | a :: b :: ':' :: c :: d :: ':' :: e :: f :: rest =>
    if isTwoDigits 23 a b && isTwoDigits 59 c d && isTwoDigits 60 e f then afterFraction? rest
    else none
  | _ => none

/-- A time of day with or without an offset. -/
def isTimeWithOffset (cs : List Char) : Bool :=
  match afterTime? cs with
  | some rest => isOffset rest
  | none => false

/-- A date, a time of day, or both with `T` between them. -/
def isMoment (cs : List Char) : Bool :=
  isDate cs || afterTime? cs == some [] ||
    (isDate (cs.take 10) &&
      match cs.drop 10 with
      | c :: rest => (c == 'T' || c == 't') && isTimeWithOffset rest
      | [] => false)

/-! ## Words -/

/-- The characters of a word. -/
def isWordChar (c : Char) : Bool :=
  c.isAlphanum || c == '+' || c == '-' || c == '_' || c == '.' || c == ':'

def specialWords : List (List Char × Toml) := [
  (['t', 'r', 'u', 'e'], .bool true),
  (['f', 'a', 'l', 's', 'e'], .bool false),
  (['i', 'n', 'f'], .double (.infinite false)),
  (['+', 'i', 'n', 'f'], .double (.infinite false)),
  (['-', 'i', 'n', 'f'], .double (.infinite true)),
  (['n', 'a', 'n'], .double .nan),
  (['+', 'n', 'a', 'n'], .double .nan),
  (['-', 'n', 'a', 'n'], .double .nan)]

/-- The value of a word. -/
def ofWord? (cs : List Char) : Option Toml :=
  match specialWords.find? fun w => w.1 == cs with
  | some w => some w.2
  | none =>
    if isMoment cs then some (.moment (String.ofList cs))
    else
      match cs with
      | '0' :: 'x' :: rest => ofBaseWord? 16 rest
      | '0' :: 'o' :: rest => ofBaseWord? 8 rest
      | '0' :: 'b' :: rest => ofBaseWord? 2 rest
      | _ => ofNumberWord? cs

end Toml

end StoreGate
