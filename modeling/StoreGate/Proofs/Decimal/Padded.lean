import Mathlib.Data.String.Basic
import StoreGate.Decimal.Style

/-!
# The order of padded numbers

Numbers that are written in equally many digits compare as texts as they compare as numbers. That
holds with anything behind them, so that it holds of several such numbers in a row.

* `Decimal.padded_succ` — a number has one digit more than its tenth.
* `Decimal.padded_append_lt_iff` — padded numbers with texts behind them.
* `Decimal.padded_cons_lt_iff` — the same with a separator in between.
-/

namespace StoreGate

namespace Decimal

/-! ## Digits -/

/-- A number in one digit more is its tenth and then the last digit. -/
theorem padded_succ {width : Nat} (hwidth : 0 < width) (n : Nat) :
    padded (width + 1) n = padded width (n / 10) ++ [Nat.digitChar (n % 10)] := by
  unfold padded natDigits
  by_cases hn : n < 10
  · have hzeros : List.replicate width '0' = List.replicate (width - 1) '0' ++ ['0'] := by
      rw [← List.replicate_succ', Nat.sub_add_cancel hwidth]
    rw [Nat.toDigits_of_lt_base hn, Nat.div_eq_of_lt hn, Nat.toDigits_of_lt_base (by decide),
      Nat.mod_eq_of_lt hn]
    exact congrArg (· ++ [Nat.digitChar n]) hzeros
  · rw [Nat.toDigits_of_base_le (by decide) (Nat.not_lt.1 hn)]
    simp

theorem digitChar_lt_iff {a b : Nat} (ha : a < 10) (hb : b < 10) :
    Nat.digitChar a < Nat.digitChar b ↔ a < b := by
  have hall : ∀ a < 10, ∀ b < 10, (Nat.digitChar a < Nat.digitChar b ↔ a < b) := by decide
  exact hall a ha b hb

theorem digitChar_inj {a b : Nat} (ha : a < 10) (hb : b < 10) :
    Nat.digitChar a = Nat.digitChar b ↔ a = b := by
  have hall : ∀ a < 10, ∀ b < 10, (Nat.digitChar a = Nat.digitChar b ↔ a = b) := by decide
  exact hall a ha b hb

/-! ## Order -/

theorem lt_iff_div_mod (a b : Nat) :
    a < b ↔ a / 10 < b / 10 ∨ a / 10 = b / 10 ∧ a % 10 < b % 10 := by
  omega

theorem eq_iff_div_mod (a b : Nat) : a = b ↔ a / 10 = b / 10 ∧ a % 10 = b % 10 := by
  omega

/-- **Padded numbers with texts behind them** compare as the numbers, and then as the texts. -/
theorem padded_append_lt_iff {width : Nat} (hwidth : 0 < width) {a b : Nat} (ha : a < 10 ^ width)
    (hb : b < 10 ^ width) (xs ys : List Char) :
    padded width a ++ xs < padded width b ++ ys ↔ a < b ∨ a = b ∧ xs < ys := by
  induction width, hwidth using Nat.le_induction generalizing a b xs ys with
  | base =>
      have hone : ∀ n < 10, padded 1 n = [Nat.digitChar n] := by decide
      rw [hone a ha, hone b hb, List.singleton_append, List.singleton_append,
        List.cons_lt_cons_iff, digitChar_lt_iff ha hb, digitChar_inj ha hb]
  | succ width hwidth ih =>
      have hshort : ∀ n < 10 ^ (width + 1), n / 10 < 10 ^ width := fun n hn =>
        Nat.div_lt_of_lt_mul (by rwa [Nat.pow_succ'] at hn)
      have hlast : ∀ n, n % 10 < 10 := fun n => Nat.mod_lt n (by decide)
      rw [padded_succ hwidth, padded_succ hwidth, List.append_assoc, List.append_assoc,
        ih (hshort a ha) (hshort b hb), List.singleton_append, List.singleton_append,
        List.cons_lt_cons_iff, digitChar_lt_iff (hlast a) (hlast b),
        digitChar_inj (hlast a) (hlast b), lt_iff_div_mod a b, eq_iff_div_mod a b]
      rw [and_or_left, or_assoc, and_assoc]

/-- A separator after a padded number is of no account. -/
theorem padded_cons_lt_iff {width : Nat} (hwidth : 0 < width) {a b : Nat} (ha : a < 10 ^ width)
    (hb : b < 10 ^ width) (separator : Char) (xs ys : List Char) :
    padded width a ++ separator :: xs < padded width b ++ separator :: ys ↔
      a < b ∨ a = b ∧ xs < ys := by
  rw [padded_append_lt_iff hwidth ha hb, List.cons_lt_cons_iff]
  simp

theorem padded_lt_iff {width : Nat} (hwidth : 0 < width) {a b : Nat} (ha : a < 10 ^ width)
    (hb : b < 10 ^ width) : padded width a < padded width b ↔ a < b := by
  have h := padded_append_lt_iff hwidth ha hb [] []
  simpa using h

end Decimal

end StoreGate
