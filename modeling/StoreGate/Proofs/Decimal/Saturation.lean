import Mathlib.Data.String.Basic
import StoreGate.Decimal.Double

/-!
# Integers that are too great

An integer of more than 53 bits is rounded on its way to a double, but not below the power of two
that it begins with. So an integer that does not fit between two bounds comes back as the nearer of
them, if the bounds are no greater than that power.

* `Double.le_nearestEven` — rounding does not go below what is whole.
* `Double.ofRatio_of_log2` — a great integer as a double.
* `Double.truncated_ofInt_of_ge`, `Double.truncated_ofInt_of_le` — back to the bounds.
-/

namespace StoreGate

namespace Double

theorem le_nearestEven (num den : Nat) : num / den ≤ nearestEven num den := by
  unfold nearestEven
  dsimp only
  split <;> omega

/-- The unit of an integer of more than 53 bits. -/
theorem spacing_of_log2 {n k : Nat} (hn : n ≠ 0) (hlog : n.log2 = k + 53) :
    spacing n 1 = (k + 1 : Nat) := by
  have hfine : ((n.log2 : Int) - ((1 : Nat).log2 : Int) - 53) = k := by
    have hone : (1 : Nat).log2 = 0 := by decide
    omega
  have hlow : ¬ n < 1 * Nat.pow 2 k * Nat.pow 2 53 := by
    have hpow : 2 ^ (k + 53) ≤ n := hlog ▸ Nat.log2_self_le hn
    have hunits : 1 * Nat.pow 2 k * Nat.pow 2 53 = 2 ^ (k + 53) := by
      rw [Nat.one_mul]
      exact (Nat.pow_add 2 k 53).symm
    omega
  have hunits : inUnits n 1 k = (n, 1 * Nat.pow 2 k) := by
    rw [inUnits, if_pos (Int.natCast_nonneg k), Int.toNat_natCast]
  unfold spacing
  dsimp only
  rw [hfine, hunits]
  dsimp only
  rw [if_neg hlow, leastExponent]
  omega

/-- The unit of an integer that begins with the power `2 ^ (k + 53)`, and the integer in that
unit. -/
theorem pow_le_units {n k : Nat} (hn : n ≠ 0) (hlog : n.log2 = k + 53) :
    inUnits n 1 (k + 1 : Nat) = (n, 2 ^ (k + 1)) ∧ 2 ^ 52 ≤ n / 2 ^ (k + 1) := by
  constructor
  · rw [inUnits, if_pos (Int.natCast_nonneg _), Int.toNat_natCast, Nat.one_mul]
    rfl
  · rw [Nat.le_div_iff_mul_le (Nat.two_pow_pos _), ← Nat.pow_add, Nat.add_left_comm, ← hlog]
    exact Nat.log2_self_le hn

/-- A double is made of the quotient in its unit, rounded; a carry makes the unit twice as great. -/
theorem ofRatio_cases {negative : Bool} {num den a d : Nat} {unit : Int} {x : Double}
    (hnum : num ≠ 0) (hspacing : spacing num den = unit) (hunits : inUnits num den unit = (a, d))
    (hx : ofRatio negative num den = x) :
    x = .infinite negative ∨ x = .finite negative (nearestEven a d) unit ∨
      x = .finite negative (Nat.pow 2 52) (unit + 1) := by
  unfold ofRatio at hx
  rw [if_neg hnum] at hx
  extract_lets e at hx
  have he : e = unit := hspacing
  split at hx
  next _ _ hpair =>
  rw [he, hunits] at hpair
  obtain ⟨rfl, rfl⟩ := Prod.mk.inj hpair
  extract_lets m at hx
  split at hx
  next _ _ hcarry =>
  split at hcarry
  · obtain ⟨rfl, rfl⟩ := Prod.mk.inj hcarry
    split at hx
    · exact .inl hx.symm
    · exact .inr (.inr (by rw [← hx, he]))
  · obtain ⟨rfl, rfl⟩ := Prod.mk.inj hcarry
    split at hx
    · exact .inl hx.symm
    · exact .inr (.inl (by rw [← hx, he]))

/-- **A great integer as a double** is no less than the power of two that it begins with. -/
theorem ofRatio_of_log2 (negative : Bool) {n k : Nat} (hn : n ≠ 0) (hlog : n.log2 = k + 53) :
    ofRatio negative n 1 = .infinite negative ∨
      ∃ m e : Nat, ofRatio negative n 1 = .finite negative m e ∧ 2 ^ (k + 53) ≤ m * 2 ^ e := by
  obtain ⟨hunits, hwhole⟩ := pow_le_units hn hlog
  have hsignificand := Nat.le_trans hwhole (le_nearestEven n (2 ^ (k + 1)))
  have hgreat : ∀ m e : Nat, 2 ^ 52 ≤ m → k + 1 ≤ e → 2 ^ (k + 53) ≤ m * 2 ^ e := fun m e hm he =>
    calc 2 ^ (k + 53) = 2 ^ 52 * 2 ^ (k + 1) := by
          rw [← Nat.pow_add, show 52 + (k + 1) = k + 53 by omega]
      _ ≤ m * 2 ^ e := Nat.mul_le_mul hm (Nat.pow_le_pow_right Nat.two_pos he)
  rcases ofRatio_cases hn (spacing_of_log2 hn hlog) hunits rfl with h | h | h
  · exact .inl h
  · exact .inr ⟨_, k + 1, h, hgreat _ _ hsignificand (Nat.le_refl _)⟩
  · exact .inr ⟨_, k + 1 + 1, h, hgreat _ _ (Nat.le_refl _) (Nat.le_succ _)⟩

variable {lo hi n : Int} {k : Nat}

theorem truncated_finite (negative : Bool) (m e : Nat) :
    truncated lo hi (.finite negative m e) =
      clamp lo hi (if negative then -((m * 2 ^ e : Nat) : Int) else (m * 2 ^ e : Nat)) := by
  have hratio : ratio m e = (m * 2 ^ e, 1) := by
    rw [ratio, if_pos (Int.natCast_nonneg e), Int.toNat_natCast]
    rfl
  unfold truncated
  dsimp only
  rw [hratio]
  dsimp only
  rw [Nat.div_one]

/-- An integer that reaches a power of two begins with one that is no smaller. -/
theorem exists_ofRatio {n bound : Nat} (negative : Bool) (hbound : bound = 2 ^ (k + 53))
    (h : bound ≤ n) : ofRatio negative n 1 = .infinite negative ∨
      ∃ m e : Nat, ofRatio negative n 1 = .finite negative m e ∧ bound ≤ m * 2 ^ e := by
  have hn : n ≠ 0 := Nat.ne_of_gt (Nat.lt_of_lt_of_le (hbound ▸ Nat.two_pow_pos (k + 53)) h)
  have hlog : k + 53 ≤ n.log2 := (Nat.le_log2 hn).2 (hbound ▸ h)
  rcases ofRatio_of_log2 negative hn (k := n.log2 - 53) (by omega) with hread | ⟨m, e, hread, hme⟩
  · exact .inl hread
  · refine .inr ⟨m, e, hread, Nat.le_trans ?_ hme⟩
    rw [hbound]
    exact Nat.pow_le_pow_right Nat.two_pos (by omega)

section Bounds

variable {bound : Nat} (hbound : bound = 2 ^ (k + 53))

include hbound

/-- **Too great an integer** comes back as the upper bound. -/
theorem truncated_ofInt_of_ge (hn : bound ≤ n) (hle : lo ≤ hi) (hhi : hi ≤ bound) :
    (ofInt n).truncated lo hi = hi := by
  have hsign : decide (n < 0) = false := decide_eq_false (by omega)
  rw [ofInt, hsign]
  rcases exists_ofRatio false hbound (n := n.natAbs) (by omega) with h | ⟨m, e, h, hme⟩
  · rw [h]
    rfl
  · rw [h, truncated_finite, if_neg Bool.false_ne_true, clamp]
    generalize m * 2 ^ e = value at hme
    omega

/-- **Too small an integer** comes back as the lower bound. -/
theorem truncated_ofInt_of_le (hn : n < -bound) (hlo : -bound ≤ lo) :
    (ofInt n).truncated lo hi = lo := by
  have hsign : decide (n < 0) = true := decide_eq_true (by omega)
  rw [ofInt, hsign]
  rcases exists_ofRatio true hbound (n := n.natAbs) (by omega) with h | ⟨m, e, h, hme⟩
  · rw [h]
    rfl
  · rw [h, truncated_finite, if_pos rfl, clamp]
    generalize m * 2 ^ e = value at hme
    omega

end Bounds

end Double

end StoreGate
