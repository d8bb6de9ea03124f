import StoreGate.Decimal.Style

/-!
# Calendar dates

Days of the proleptic Gregorian calendar, counted from 1970-01-01, and back. Both directions use
years that begin in March, so that the leap day is the last day of its year.
-/

namespace StoreGate

structure Date where
  year : Int
  month : Nat
  day : Nat
deriving DecidableEq, Repr

namespace Date

def isLeapYear (year : Int) : Bool :=
  year % 4 == 0 && (year % 100 != 0 || year % 400 == 0)

def daysInMonth (year : Int) (month : Nat) : Nat :=
  if month = 2 then (if isLeapYear year then 29 else 28)
  else if month = 4 ∨ month = 6 ∨ month = 9 ∨ month = 11 then 30
  else 31

/-- The years that are represented. -/
def leastYear : Int := -262143

def greatestYear : Int := 262142

/-- The date is on the calendar. -/
def isValid (d : Date) : Bool :=
  decide (leastYear ≤ d.year) && decide (d.year ≤ greatestYear) &&
    decide (1 ≤ d.month) && decide (d.month ≤ 12) &&
    decide (1 ≤ d.day) && decide (d.day ≤ daysInMonth d.year d.month)

/-- Days since 1970-01-01. -/
def days (d : Date) : Int :=
  let year := if d.month ≤ 2 then d.year - 1 else d.year
  let era := year.fdiv 400
  let yearOfEra := year - era * 400
  let month : Int := if d.month ≤ 2 then (d.month : Int) + 9 else (d.month : Int) - 3
  let dayOfYear := (153 * month + 2) / 5 + (d.day : Int) - 1
  let dayOfEra := yearOfEra * 365 + yearOfEra / 4 - yearOfEra / 100 + dayOfYear
  era * 146097 + dayOfEra - 719468

/-- The date that many days after 1970-01-01. -/
def ofDays (n : Int) : Date :=
  let n := n + 719468
  let era := n.fdiv 146097
  let dayOfEra := n - era * 146097
  let yearOfEra := (dayOfEra - dayOfEra / 1460 + dayOfEra / 36524 - dayOfEra / 146096) / 365
  let dayOfYear := dayOfEra - (365 * yearOfEra + yearOfEra / 4 - yearOfEra / 100)
  let month := (5 * dayOfYear + 2) / 153
  let day := dayOfYear - (153 * month + 2) / 5 + 1
  let year := yearOfEra + era * 400
  if month < 10 then ⟨year, (month + 3).toNat, day.toNat⟩
  else ⟨year + 1, (month - 9).toNat, day.toNat⟩

/-- A year in four digits, or with a sign and at least four if it does not fit. -/
def yearDigits (year : Int) : List Char :=
  if 0 ≤ year ∧ year ≤ 9999 then Decimal.padded 4 year.toNat
  else (if year < 0 then '-' else '+') :: Decimal.padded 4 year.natAbs

/-- Year, month and day with dashes between them. -/
def digits (d : Date) : List Char :=
  yearDigits d.year ++ '-' :: (Decimal.padded 2 d.month ++ '-' :: Decimal.padded 2 d.day)

example : days ⟨1970, 1, 1⟩ = 0 := by decide

example : days ⟨2024, 2, 29⟩ = 19782 ∧ ofDays 19782 = ⟨2024, 2, 29⟩ := by decide

example : days ⟨-1, 12, 31⟩ = -719529 ∧ ofDays (-719529) = ⟨-1, 12, 31⟩ := by decide

end Date

end StoreGate
