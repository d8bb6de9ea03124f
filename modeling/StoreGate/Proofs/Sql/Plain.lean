import StoreGate.Json.Printer
import StoreGate.Proofs.Text.Pattern
import StoreGate.Sql.Identifier
import StoreGate.Time.Instant

/-!
# Texts without quotes

Names, numbers and dates stand in statements as they are. None of them holds a quote or a backslash,
so that none of them opens a literal, ends one, or changes what one says. Nor does any of them hold
a question mark, which is free to stand for literals.

* `Sql.Plain` — no quote, no backslash, no question mark.
* `Sql.plain_of_isName`, `Sql.plain_writeNumber`, `Sql.plain_writtenDigits` — names, numbers, dates.
-/

namespace StoreGate

/-! ## Plain texts -/

namespace Sql

/-- What opens a literal, what changes its next character, and what stands for a literal in an
outline. -/
def special : List Char := ['\'', '\\', '?']

@[simp] theorem mem_special {c : Char} : c ∈ special ↔ c = '\'' ∨ c = '\\' ∨ c = '?' := by
  simp [special]

/-- No special character is in the text. -/
def Plain (cs : List Char) : Prop := ∀ c ∈ cs, c ∉ special

instance (cs : List Char) : Decidable (Plain cs) := List.decidableBAll _ cs

@[simp] theorem plain_nil : Plain [] := fun _ hc => by cases hc

@[simp] theorem plain_cons {c : Char} {cs : List Char} :
    Plain (c :: cs) ↔ c ∉ special ∧ Plain cs :=
  List.forall_mem_cons

@[simp] theorem plain_append {cs ds : List Char} : Plain (cs ++ ds) ↔ Plain cs ∧ Plain ds :=
  List.forall_mem_append

theorem Plain.subset {cs ds : List Char} (h : Plain ds) (hsub : cs ⊆ ds) : Plain cs :=
  fun c hc => h c (hsub hc)

theorem Plain.ofList {cs : List Char} (h : Plain cs) : Plain (String.ofList cs).toList := by
  rwa [String.toList_ofList]

theorem plain_replicate {c : Char} (h : c ∉ special) (n : Nat) : Plain (List.replicate n c) := by
  intro d hd
  rwa [List.eq_of_mem_replicate hd]

/-! ## Names -/

theorem plain_of_matches {p : Pattern} {s : String}
    (hspecial : special.any (fun c => p.allows c) = false) (h : p.matchesText s = true) :
    Plain s.toList :=
  fun c hc hmem => List.any_eq_false.1 hspecial c hmem (Pattern.allows_of_matches h c hc)

theorem plain_of_isName {s : String} (h : isName s = true) : Plain s.toList :=
  plain_of_matches (by decide) h

theorem plain_of_isTableName {s : String} (h : isTableName s = true) : Plain s.toList :=
  plain_of_matches (by decide) h

/-! ## Numbers -/

theorem plain_natDigits (n : Nat) : Plain (Decimal.natDigits n) := by
  have hspecial : special.any Char.isDigit = false := by decide
  intro c hc hmem
  have hdigit : c.isDigit = true := Nat.isDigit_of_mem_toDigits (by decide) (by decide) hc
  exact List.any_eq_false.1 hspecial c hmem hdigit

theorem plain_intDigits (n : Int) : Plain (Decimal.intDigits n) := by
  cases n with
  | ofNat n => exact plain_natDigits n
  | negSucc n => exact plain_cons.2 ⟨by decide, plain_natDigits (n + 1)⟩

theorem plain_padded (width n : Nat) : Plain (Decimal.padded width n) := by
  simp only [Decimal.padded, plain_append]
  exact ⟨plain_replicate (by decide) _, plain_natDigits n⟩

section Doubles

open DecimalStyle

variable {style : DecimalStyle} {digits : List Char}

theorem plain_positionalDigits (h : Plain digits) (exponent : Int) :
    Plain (style.positionalDigits digits exponent) := by
  have hpoint : Plain (if style.keepsPoint then ['.', '0'] else []) := by
    split <;> decide
  have htake : ∀ n, Plain (digits.take n) := fun n => h.subset (List.take_subset n digits)
  have hdrop : ∀ n, Plain (digits.drop n) := fun n => h.subset (List.drop_subset n digits)
  unfold positionalDigits
  split
  · exact plain_append.2 ⟨plain_append.2 ⟨h, plain_replicate (by decide) _⟩, hpoint⟩
  · dsimp only
    split
    · simp [h, plain_replicate]
    · simp [htake, hdrop]

theorem plain_exponentDigits (n : Int) : Plain (exponentDigits n) := by
  unfold exponentDigits
  split
  · simp [plain_intDigits]
  · simp [plain_intDigits]

theorem plain_scientificDigits (h : Plain digits) (leading : Int) :
    Plain (scientificDigits digits leading) := by
  unfold scientificDigits
  split
  · exact plain_nil
  · exact plain_cons.2 ⟨(plain_cons.1 h).1, plain_exponentDigits leading⟩
  · obtain ⟨hfirst, hrest⟩ := plain_cons.1 h
    have hpoint : '.' ∉ special := by decide
    exact plain_cons.2 ⟨hfirst, plain_append.2 ⟨plain_cons.2 ⟨hpoint, hrest⟩,
      plain_exponentDigits leading⟩⟩

theorem plain_magnitude (significand : Nat) (exponent : Int) :
    Plain (style.magnitude significand exponent) := by
  have hdigits := plain_natDigits (Double.shortest significand exponent).digits
  unfold magnitude
  dsimp only
  split
  · exact plain_positionalDigits hdigits _
  · split
    · exact plain_positionalDigits hdigits _
    · exact plain_scientificDigits hdigits _

theorem plain_write (x : Double) : Plain (style.write x) := by
  have hsign : ∀ negative : Bool, Plain (if negative then ['-'] else []) := by decide
  cases x with
  | finite negative m e => exact plain_append.2 ⟨hsign negative, plain_magnitude m e⟩
  | infinite negative => exact plain_append.2 ⟨hsign negative, by decide⟩
  | nan => exact (by decide : Plain ['N', 'a', 'N'])

end Doubles

/-- **Numbers** are plain. -/
theorem plain_writeNumber (n : Number) : Plain (Json.writeNumber n) := by
  cases n with
  | int n => exact plain_intDigits n
  | double x => exact plain_write x

/-! ## Dates -/

theorem plain_yearDigits (year : Int) : Plain (Date.yearDigits year) := by
  unfold Date.yearDigits
  split
  · exact plain_padded 4 _
  · refine plain_cons.2 ⟨?_, plain_padded 4 _⟩
    split <;> decide

/-- **Dates and times** are plain. -/
theorem plain_writtenDigits (i : Instant) : Plain i.writtenDigits := by
  simp [Instant.writtenDigits, Date.digits, Instant.clockDigits, plain_yearDigits, plain_padded]

end Sql

end StoreGate
