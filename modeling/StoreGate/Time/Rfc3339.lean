import StoreGate.Text.Blank
import StoreGate.Decimal.Reading
import StoreGate.Json.Decode
import StoreGate.Time.Instant

/-!
# Read timestamps

`Instant.parse?` reads a date, a time and an offset from UTC. The form is that of RFC 3339 with some
freedom: numbers may have fewer digits, blanks may stand before numbers and separators, a blank or
`t` may separate date and time, the offset may be written `UTC`, without a colon, or with the
typographic minus, and digits of the fraction after the ninth are dropped.
-/

namespace StoreGate

namespace Instant

/-! ## Pieces -/

/-- One to `width` digits at the start, and what follows. -/
def number? (width : Nat) (cs : List Char) : Option (Nat × List Char) :=
  let digits := (cs.take width).takeWhile Decimal.isDigit
  if digits.isEmpty then none else some (Decimal.ofDigits digits, cs.drop digits.length)

/-- A number within `lo … hi` after blanks. -/
def field? (lo hi : Nat) (cs : List Char) : Option (Nat × List Char) :=
  (number? 2 (Text.trimStart cs)).filter fun r => decide (lo ≤ r.1) && decide (r.1 ≤ hi)

/-- A separator after blanks. -/
def separator? (c : Char) (cs : List Char) : Option (List Char) :=
  match Text.trimStart cs with
  | d :: rest => if d = c then some rest else none
  | [] => none

/-- A year after blanks: up to four digits, or any number of them after a sign. -/
def year? (cs : List Char) : Option (Int × List Char) :=
  match Text.trimStart cs with
  | '-' :: rest => (number? rest.length rest).map fun (n, r) => (-(n : Int), r)
  | '+' :: rest => (number? rest.length rest).map fun (n, r) => ((n : Int), r)
  | rest => (number? 4 rest).map fun (n, r) => ((n : Int), r)

/-- The fraction of a second in nanoseconds, if a point begins one. -/
def fraction? : List Char → Option (Nat × List Char)
  | '.' :: rest =>
    let digits := (rest.take 9).takeWhile Decimal.isDigit
    if digits.isEmpty then none
    else
      some (Decimal.ofDigits digits * Nat.pow 10 (9 - digits.length),
        rest.dropWhile Decimal.isDigit)
  | rest => some (0, rest)

/-- Two digits. -/
def twoDigits? : List Char → Option (Nat × List Char)
  | a :: b :: rest =>
    if Decimal.isDigit a && Decimal.isDigit b then
      some (10 * Decimal.digitValue a + Decimal.digitValue b, rest)
    else none
  | _ => none

/-- The sign of an offset. -/
def sign? : List Char → Option (Int × List Char)
  | '+' :: rest => some (1, rest)
  | '-' :: rest => some (-1, rest)
  | '−' :: rest => some (-1, rest)
  | _ => none

/-- The offset from UTC in seconds. -/
def offset? (cs : List Char) : Option (Int × List Char) :=
  match cs with
  | 'Z' :: rest | 'z' :: rest => some (0, rest)
  | _ =>
    if (cs.take 3).map Char.toUpper = ['U', 'T', 'C'] then some (0, cs.drop 3)
    else
      match sign? cs with
      | none => none
      | some (sign, rest) =>
        match twoDigits? rest with
        | none => none
        | some (hours, rest) =>
          match twoDigits? (rest.dropWhile fun c => c == ':' || Text.isBlank c) with
          | none => none
          | some (minutes, rest) =>
            if 60 ≤ minutes ∨ 24 ≤ hours then none
            else some (sign * (hours * 3600 + minutes * 60 : Nat), rest)

/-! ## Timestamps -/

def date? (cs : List Char) : Option (Date × List Char) := do
  let (year, cs) ← year? cs
  let cs ← separator? '-' cs
  let (month, cs) ← field? 1 12 cs
  let cs ← separator? '-' cs
  let (day, cs) ← field? 1 31 cs
  let d : Date := ⟨year, month, day⟩
  if d.isValid then some (d, cs) else none

/-- Seconds of the day and nanoseconds; the sixtieth second of a minute is a leap second. -/
def time? (cs : List Char) : Option (Nat × Nat × List Char) := do
  let (hour, cs) ← field? 0 23 cs
  let cs ← separator? ':' cs
  let (minute, cs) ← field? 0 59 cs
  let cs ← separator? ':' cs
  let (second, cs) ← field? 0 60 cs
  let (nano, cs) ← fraction? cs
  let leap := if second = 60 then 1 else 0
  some (hour * 3600 + minute * 60 + (second - leap), nano + leap * nanosPerSecond, cs)

def parseChars? (cs : List Char) : Option Instant := do
  let (date, cs) ← date? cs
  let cs ←
    match cs with
    | 'T' :: rest | 't' :: rest | ' ' :: rest => some rest
    | _ => none
  let (inDay, nano, cs) ← time? cs
  let (offset, cs) ← offset? (Text.trimStart cs)
  if !cs.all Text.isBlank then none
  else
    let second := date.days * secondsPerDay + inDay - offset
    if leastSecond ≤ second ∧ second ≤ greatestSecond then some ⟨second, nano⟩ else none

/-- The instant that a timestamp names. -/
def parse? (s : String) : Option Instant := parseChars? s.toList

/-! ## As data -/

def json (i : Instant) : Json := .str i.rfc3339

def decode : Decoder Instant := Decode.word "timestamp" parse?

end Instant

end StoreGate
