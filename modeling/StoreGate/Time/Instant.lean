import StoreGate.Time.Civil

/-!
# Instants

An `Instant` is a second of UTC, counted from 1970-01-01, and nanoseconds within it. Nanoseconds of
a whole second or more belong to a leap second, which is the end of the second it follows.

* `Instant.le` — time order; a second before its nanoseconds.
* `Instant.writtenText` — date and time to the second, as statements and rows write them.
* `Instant.rfc3339` — with as many groups of three digits as the fraction needs.
-/

namespace StoreGate

structure Instant where
  second : Int
  nano : Nat
deriving DecidableEq, Repr

namespace Instant

def nanosPerSecond : Nat := 1000000000

def secondsPerDay : Int := 86400

instance : Inhabited Instant := ⟨0, 0⟩

/-! ## Order -/

def le (a b : Instant) : Bool :=
  decide (a.second < b.second) || (decide (a.second = b.second) && decide (a.nano ≤ b.nano))

instance : LE Instant := ⟨fun a b => le a b = true⟩

instance (a b : Instant) : Decidable (a ≤ b) := inferInstanceAs (Decidable (le a b = true))

theorem le_iff (a b : Instant) :
    a ≤ b ↔ a.second < b.second ∨ a.second = b.second ∧ a.nano ≤ b.nano := by
  show le a b = true ↔ _
  simp [le]

theorem le_refl (a : Instant) : a ≤ a := (le_iff a a).2 (.inr ⟨rfl, Nat.le_refl a.nano⟩)

theorem le_trans {a b c : Instant} (hab : a ≤ b) (hbc : b ≤ c) : a ≤ c := by
  rw [le_iff] at *
  omega

/-- The first and the last second of the calendar. -/
def leastSecond : Int := Date.days ⟨Date.leastYear, 1, 1⟩ * secondsPerDay

def greatestSecond : Int := Date.days ⟨Date.greatestYear, 12, 31⟩ * secondsPerDay + 86399

/-- The last instant of the calendar. -/
def latest : Instant := ⟨greatestSecond, 999999999⟩

/-! ## Differences -/

/-- All nanoseconds since 1970-01-01. -/
def nanos (i : Instant) : Int := i.second * nanosPerSecond + i.nano

/-- The instant that many nanoseconds after 1970-01-01. -/
def ofNanos (n : Int) : Instant :=
  ⟨n.fdiv nanosPerSecond, (n - n.fdiv nanosPerSecond * nanosPerSecond).toNat⟩

/-- A later instant, or nothing past the end of the calendar. -/
def plus? (i : Instant) (nanoseconds : Nat) : Option Instant :=
  let j := ofNanos (i.nanos + nanoseconds)
  if greatestSecond < j.second then none else some j

/-! ## Text -/

def date (i : Instant) : Date := Date.ofDays (i.second.fdiv secondsPerDay)

/-- Hours, minutes and seconds; a leap second is the sixtieth. -/
def clock (i : Instant) : Nat × Nat × Nat :=
  let inDay := (i.second - i.second.fdiv secondsPerDay * secondsPerDay).toNat
  (inDay / 3600, inDay / 60 % 60, inDay % 60 + i.nano / nanosPerSecond)

def clockDigits (i : Instant) : List Char :=
  let (h, m, s) := i.clock
  Decimal.padded 2 h ++ ':' :: (Decimal.padded 2 m ++ ':' :: Decimal.padded 2 s)

/-- Date and time to the second with a blank between them. -/
def writtenDigits (i : Instant) : List Char := i.date.digits ++ ' ' :: i.clockDigits

def writtenText (i : Instant) : String := String.ofList i.writtenDigits

/-- The fraction of a second in as many groups of three digits as it needs. -/
def fractionDigits (i : Instant) : List Char :=
  let nano := i.nano % nanosPerSecond
  if nano = 0 then []
  else if nano % 1000000 = 0 then '.' :: Decimal.padded 3 (nano / 1000000)
  else if nano % 1000 = 0 then '.' :: Decimal.padded 6 (nano / 1000)
  else '.' :: Decimal.padded 9 nano

def rfc3339 (i : Instant) : String :=
  String.ofList (i.date.digits ++ 'T' :: i.clockDigits ++ i.fractionDigits ++ ['Z'])

example : (⟨1714521600, 120000000⟩ : Instant).rfc3339 = "2024-05-01T00:00:00.120Z" := by
  decide +kernel

end Instant

end StoreGate
