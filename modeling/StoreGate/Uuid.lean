import StoreGate.Json.Printer

/-!
# Identifiers made up at random

A `Uuid` is a number of 128 bits, written with thirty-two hexadecimal digits. `Uuid.random` marks a
random number as one of version 4.
-/

namespace StoreGate

structure Uuid where
  bits : Nat
deriving DecidableEq, Repr, Inhabited

namespace Uuid

/-- The number with the marks of version 4 over six of its bits. -/
def random (n : Nat) : Uuid :=
  let low := n % Nat.pow 2 62 + Nat.pow 2 63
  let middle := n / Nat.pow 2 62 % Nat.pow 2 12 + 4 * Nat.pow 2 12
  let high := n / Nat.pow 2 74 % Nat.pow 2 48
  ⟨(high * Nat.pow 2 16 + middle) * Nat.pow 2 64 + low⟩

/-- The digit at a place, the first place being the highest. -/
def digit (u : Uuid) (place : Nat) : Char :=
  Json.hexDigit (u.bits / Nat.pow 16 (31 - place) % 16)

def digits (u : Uuid) : List Char := (List.range 32).map u.digit

/-- Digits alone. -/
def simple (u : Uuid) : String := String.ofList u.digits

/-- Digits in five groups. -/
def hyphenated (u : Uuid) : String :=
  let d := u.digits
  String.ofList (d.take 8 ++ '-' :: ((d.drop 8).take 4 ++ '-' :: ((d.drop 12).take 4 ++
    '-' :: ((d.drop 16).take 4 ++ '-' :: d.drop 20))))

example : (random 0).hyphenated = "00000000-0000-4000-8000-000000000000" := by decide +kernel

end Uuid

end StoreGate
