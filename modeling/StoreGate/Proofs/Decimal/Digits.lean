import Mathlib.Data.List.Basic
import Mathlib.Data.List.Induction
import Mathlib.Data.String.Basic
import StoreGate.Decimal.Reading
import StoreGate.Decimal.Style

/-!
# Numbers read back from their digits

* `Decimal.readNat?_natDigits` — a written number is read back.
* `Decimal.readNatUpTo?_eq_some` — what is read is in bounds and is digits, perhaps with a plus.
* `Decimal.length_intDigits_le` — a number is written as short as it can be read.
* `Decimal.eq_zero_of_head?_natDigits` — only zero is written with a zero in front.
-/

namespace StoreGate

namespace Decimal

theorem isDigit_of_mem_natDigits {n : Nat} {c : Char} (h : c ∈ natDigits n) : isDigit c = true := by
  have hdigit : c.isDigit = true := Nat.isDigit_of_mem_toDigits (by decide) (by decide) h
  simpa [Char.isDigit, isDigit, Char.le_def] using hdigit

theorem natDigits_ne_nil (n : Nat) : natDigits n ≠ [] := Nat.toDigits_ne_nil

theorem ofDigits_natDigits (n : Nat) : ofDigits (natDigits n) = n := by
  have hcore : ofDigits (natDigits n) = Nat.ofDigitChars 10 (natDigits n) 0 :=
    Nat.ofDigitChars_eq_foldl.symm
  rw [hcore]
  exact Nat.ofDigitChars_ten_toDigits

/-- **A written number is read back.** -/
theorem readNat?_natDigits (n : Nat) : readNat? (natDigits n) = some n := by
  have hdigits : (natDigits n).all isDigit = true :=
    List.all_eq_true.2 fun c hc => isDigit_of_mem_natDigits hc
  have hne : natDigits n ≠ [] := natDigits_ne_nil n
  rw [readNat?, ofDigits_natDigits, hdigits]
  simp [hne]

theorem readInt?_natDigits (n : Nat) : readInt? (natDigits n) = some (n : Int) := by
  have hread := readNat?_natDigits n
  obtain ⟨c, cs, hcs⟩ := List.exists_cons_of_ne_nil (natDigits_ne_nil n)
  have hdigit : isDigit c = true :=
    isDigit_of_mem_natDigits (n := n) (by rw [hcs]; exact List.mem_cons_self)
  rw [hcs] at hread ⊢
  unfold readInt?
  split
  · next heq => cases heq; exact absurd hdigit (by decide)
  · next heq => cases heq; exact absurd hdigit (by decide)
  · rw [hread]
    rfl

/-- **A written integer is read back**, its sign included. -/
theorem readInt?_intDigits (n : Int) : readInt? (intDigits n) = some n := by
  cases n with
  | ofNat n => exact readInt?_natDigits n
  | negSucc n =>
      have hminus : readInt? (intDigits (.negSucc n)) =
          (readNat? (natDigits (n + 1))).map fun m => -(m : Int) := rfl
      rw [hminus, readNat?_natDigits]
      exact congrArg some (Int.negSucc_eq n).symm

theorem readIntIn?_intDigits {lo hi n : Int} (hlo : lo ≤ n) (hhi : n ≤ hi) :
    readIntIn? lo hi (intDigits n) = some n := by
  rw [readIntIn?, readInt?_intDigits]
  simp [hlo, hhi]

theorem readNatUpTo?_natDigits {hi n : Nat} (h : n ≤ hi) :
    readNatUpTo? hi (natDigits n) = some n := by
  have hread := readNat?_natDigits n
  obtain ⟨c, cs, hcs⟩ := List.exists_cons_of_ne_nil (natDigits_ne_nil n)
  have hdigit : isDigit c = true :=
    isDigit_of_mem_natDigits (n := n) (by rw [hcs]; exact List.mem_cons_self)
  rw [hcs] at hread ⊢
  unfold readNatUpTo?
  split
  · next heq => cases heq; exact absurd hdigit (by decide)
  · rw [hread]
    simp [h]

theorem readNat?_eq_some {cs : List Char} {n : Nat} (h : readNat? cs = some n) :
    cs ≠ [] ∧ (∀ c ∈ cs, isDigit c = true) ∧ ofDigits cs = n := by
  unfold readNat? at h
  split at h
  · cases h
  · next hdigits =>
    rw [Bool.or_eq_true, not_or, Bool.not_eq_true', Bool.not_eq_false] at hdigits
    exact ⟨fun hnil => hdigits.1 (List.isEmpty_iff.2 hnil), List.all_eq_true.1 hdigits.2,
      Option.some.inj h⟩

/-- **What is read as an unsigned number** consists of digits, perhaps after a plus sign. -/
theorem readNatUpTo?_eq_some {hi n : Nat} {cs : List Char} (h : readNatUpTo? hi cs = some n) :
    n ≤ hi ∧ cs ≠ [] ∧ ∀ c ∈ cs, c = '+' ∨ isDigit c = true := by
  have hfilter : ∀ ds, (readNat? ds).filter (fun n => decide (n ≤ hi)) = some n →
      n ≤ hi ∧ ds ≠ [] ∧ ∀ c ∈ ds, isDigit c = true := by
    intro ds hread
    obtain ⟨hnat, hle⟩ := Option.filter_eq_some_iff.1 hread
    obtain ⟨hne, hdigits, -⟩ := readNat?_eq_some hnat
    exact ⟨of_decide_eq_true hle, hne, hdigits⟩
  unfold readNatUpTo? at h
  split at h
  · next ds =>
    obtain ⟨hle, -, hdigits⟩ := hfilter ds h
    exact ⟨hle, List.cons_ne_nil _ _,
      List.forall_mem_cons.2 ⟨.inl rfl, fun c hc => .inr (hdigits c hc)⟩⟩
  · obtain ⟨hle, hne, hdigits⟩ := hfilter cs h
    exact ⟨hle, hne, fun c hc => .inr (hdigits c hc)⟩

theorem ofDigits_concat (digits : List Char) (c : Char) :
    ofDigits (digits ++ [c]) = 10 * ofDigits digits + digitValue c := by
  simp [ofDigits]

theorem digitValue_lt {c : Char} (h : isDigit c = true) : digitValue c < 10 := by
  have hnine : c ≤ '9' := of_decide_eq_true (Bool.and_eq_true_iff.1 h).2
  have hle : c.toNat ≤ '9'.toNat := hnine
  have hspan : '9'.toNat - '0'.toNat = 9 := by decide
  unfold digitValue
  omega

theorem ofDigits_lt {digits : List Char} (h : ∀ c ∈ digits, isDigit c = true) :
    ofDigits digits < 10 ^ digits.length := by
  induction digits using List.reverseRecOn with
  | nil => decide
  | append_singleton digits c ih =>
      obtain ⟨hdigits, hc⟩ := List.forall_mem_append.1 h
      have hvalue := digitValue_lt (hc c (List.mem_singleton_self c))
      have hlt := ih hdigits
      rw [ofDigits_concat, List.length_append, List.length_singleton, Nat.pow_succ]
      omega

/-- **No number is written with more digits** than it can be read from. -/
theorem length_natDigits_le {cs : List Char} {n : Nat} (h : readNat? cs = some n) :
    (natDigits n).length ≤ cs.length := by
  obtain ⟨hne, hdigits, rfl⟩ := readNat?_eq_some h
  exact (Nat.length_toDigits_le_iff (by decide) (List.length_pos_iff.2 hne)).2 (ofDigits_lt hdigits)

theorem length_intDigits_le {cs : List Char} {n : Int} (h : readInt? cs = some n) :
    (intDigits n).length ≤ cs.length := by
  have hsign : ∀ (ds : List Char) (f : Int → Int),
      (do let m ← readNat? ds; pure (m : Int)).map f = some n →
        ∃ m : Nat, readNat? ds = some m ∧ f m = n := by
    intro ds f hmap
    obtain ⟨_, hnat, hf⟩ := Option.map_eq_some_iff.1 hmap
    obtain ⟨m, hm, hcast⟩ := Option.bind_eq_some_iff.1 hnat
    obtain rfl := Option.some.inj hcast
    exact ⟨m, hm, hf⟩
  unfold readInt? at h
  split at h
  · next ds =>
    obtain ⟨m, hm, rfl⟩ := hsign ds _ h
    exact Nat.le_trans (length_natDigits_le hm) (Nat.le_succ _)
  · next ds =>
    obtain ⟨m, hm, rfl⟩ := hsign ds _ h
    have hle := length_natDigits_le hm
    cases m with
    | zero => exact Nat.le_trans hle (Nat.le_succ _)
    | succ m => exact Nat.succ_le_succ hle
  · obtain ⟨m, hm, rfl⟩ := hsign cs _ h
    exact length_natDigits_le hm

/-- **Only zero is written with a zero in front.** -/
theorem eq_zero_of_head?_natDigits {n : Nat} (h : (natDigits n).head? = some '0') : n = 0 := by
  induction n using Nat.strongRecOn with
  | ind n ih =>
      by_cases hn : n < 10
      · have hall : ∀ m < 10, (natDigits m).head? = some '0' → m = 0 := by decide
        exact hall n hn h
      · have hsplit : natDigits n = natDigits (n / 10) ++ [Nat.digitChar (n % 10)] :=
          Nat.toDigits_of_base_le (by decide) (Nat.not_lt.1 hn)
        rw [hsplit, List.head?_append_of_ne_nil _ (natDigits_ne_nil _)] at h
        have htenth := ih (n / 10) (by omega) h
        omega

/-- A number of more than one digit has no zero in front. -/
theorem natDigits_cases (n : Nat) :
    (natDigits n).head? ≠ some '0' ∨ natDigits n = ['0'] := by
  by_cases h : (natDigits n).head? = some '0'
  · rw [eq_zero_of_head?_natDigits h]
    exact .inr (by decide)
  · exact .inl h

/-- Digits up to what is no digit. -/
theorem takeWhile_dropWhile_digits {ds rest : List Char} (hds : ∀ c ∈ ds, isDigit c = true)
    (hrest : ∀ c ∈ rest.head?, isDigit c = false) :
    (ds ++ rest).takeWhile isDigit = ds ∧ (ds ++ rest).dropWhile isDigit = rest := by
  have hstop : rest.takeWhile isDigit = [] ∧ rest.dropWhile isDigit = rest := by
    cases rest with
    | nil => exact ⟨rfl, rfl⟩
    | cons c cs =>
        have hc : isDigit c = false := hrest c rfl
        simp [hc]
  rw [List.takeWhile_append_of_pos hds, List.dropWhile_append_of_pos hds, hstop.1, hstop.2,
    List.append_nil]
  exact ⟨rfl, rfl⟩

end Decimal

end StoreGate
