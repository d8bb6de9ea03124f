import Mathlib.Data.List.DropRight
import StoreGate.Decimal.Reading
import StoreGate.Text.Blank

/-!
# Ends of texts

What is taken off the end of a text is all that stands behind the last character that is kept, and
nothing else. Blanks go off both ends.

* `Text.rdropWhile_append_cons` — what stands before a character that is kept stays.
* `Text.rdropWhile_append_of_all` — what goes off the end makes no difference.
* `Text.trimChars_append` — a text with blanks around it.
-/

namespace StoreGate

namespace Text

section Ends

variable {p : Char → Bool}

/-- What stands before a character that is kept stays. -/
theorem rdropWhile_append_cons {d : Char} (hd : p d = false) (cs rest : List Char) :
    (cs ++ d :: rest).rdropWhile p = cs ++ d :: rest.rdropWhile p := by
  simp [List.rdropWhile, List.dropWhile_append, hd]

/-- What goes off the end makes no difference. -/
theorem rdropWhile_append_of_all {rest : List Char} (h : ∀ c ∈ rest, p c = true) (cs : List Char) :
    (cs ++ rest).rdropWhile p = cs.rdropWhile p := by
  have hreverse : ∀ c ∈ rest.reverse, p c = true := fun c hc => h c (List.mem_reverse.1 hc)
  rw [List.rdropWhile, List.reverse_append, List.dropWhile_append_of_pos hreverse]
  rfl

/-- Nothing goes off an end that is kept. -/
theorem rdropWhile_eq_self_iff {cs : List Char} :
    cs.rdropWhile p = cs ↔ ∀ c ∈ cs.getLast?, p c = false := by
  rw [List.rdropWhile_eq_self_iff]
  constructor
  · intro h c hc
    obtain ⟨hne, rfl⟩ := List.mem_getLast?_eq_getLast hc
    simpa using h hne
  · intro h hne
    simp [h _ (List.getLast_mem_getLast? hne)]

theorem rdropWhile_of_none {cs : List Char} (h : ∀ c ∈ cs, p c = false) : cs.rdropWhile p = cs :=
  rdropWhile_eq_self_iff.2 fun c hc => h c (List.mem_of_mem_getLast? hc)

end Ends

/-! ## Blanks -/

theorem trimEnd_eq (cs : List Char) : trimEnd cs = cs.rdropWhile isBlank := rfl

theorem isBlank_of_isDigit {c : Char} (h : Decimal.isDigit c = true) : isBlank c = false := by
  simp only [Decimal.isDigit, Bool.and_eq_true, decide_eq_true_eq] at h
  have hlow : '0'.toNat ≤ c.toNat := h.1
  have hhigh : c.toNat ≤ '9'.toNat := h.2
  have hzero : '0'.toNat = 48 := rfl
  have hnine : '9'.toNat = 57 := rfl
  unfold isBlank
  simp only [Bool.or_eq_false_iff, Bool.and_eq_false_iff, decide_eq_false_iff_not,
    beq_eq_false_iff_ne]
  omega

theorem trimStart_of_notBlank {c : Char} (h : isBlank c = false) (cs : List Char) :
    trimStart (c :: cs) = c :: cs := by
  rw [trimStart, List.dropWhile_cons, if_neg (by rw [h]; decide)]

/-- No blanks stand before digits. -/
theorem trimStart_digits {ds : List Char} (hds : ∀ c ∈ ds, Decimal.isDigit c = true)
    (hne : ds ≠ []) (rest : List Char) : trimStart (ds ++ rest) = ds ++ rest := by
  cases ds with
  | nil => exact absurd rfl hne
  | cons d ds =>
      exact trimStart_of_notBlank (isBlank_of_isDigit (hds d List.mem_cons_self)) (ds ++ rest)

/-- Blanks before what is no blank go. -/
theorem trimChars_append {before : List Char} (hbefore : ∀ c ∈ before, isBlank c = true) {c : Char}
    (hc : isBlank c = false) (cs : List Char) :
    trimChars (before ++ c :: cs) = c :: trimEnd cs := by
  have hstart : trimStart (before ++ c :: cs) = c :: cs := by
    rw [trimStart, List.dropWhile_append_of_pos hbefore]
    exact trimStart_of_notBlank hc cs
  rw [trimChars, hstart]
  exact rdropWhile_append_cons hc [] cs

/-- A blank is no capital letter. -/
theorem toLower_of_isBlank {c : Char} (h : isBlank c = true) : c.toLower = c := by
  unfold Char.toLower
  split
  · next hupper =>
    rw [ge_iff_le, UInt32.le_iff_toNat_le, UInt32.le_iff_toNat_le] at hupper
    change 65 ≤ c.toNat ∧ c.toNat ≤ 90 at hupper
    simp only [isBlank, Bool.or_eq_true, Bool.and_eq_true, decide_eq_true_eq, beq_iff_eq] at h
    omega
  · rfl

end Text

end StoreGate
