import StoreGate.Proofs.Text.Pattern
import StoreGate.Sql.Identifier

/-!
# What a name is made of

Names are recognised by a pattern in one place and character by character in another. Both accept
the same texts: a letter or an underscore, and then letters, digits and underscores. A table may go
by a name, or by two with a point between them.

* `Sql.Word`, `Sql.TableWord` — the texts that are names, and those that are names of tables.
* `Sql.isName_iff`, `Sql.isIdentifier_iff` — each of the two ways accepts the names and no others.
* `Sql.isTableName_iff` — the pattern of tables accepts the names of tables and no others.
-/

namespace StoreGate

namespace Sql

/-- A letter or an underscore, and then letters, digits and underscores. -/
def Word (s : String) : Prop :=
  ∃ c rest, s.toList = c :: rest ∧ isLetter c = true ∧ ∀ d ∈ rest, isLetterOrDigit d = true

theorem isLetterOrDigit_of_isLetter {c : Char} (h : isLetter c = true) :
    isLetterOrDigit c = true := by
  rw [isLetterOrDigit, h]
  rfl

/-- Letters, digits and underscores are characters of ASCII. -/
theorem toNat_lt_of_isLetterOrDigit {c : Char} (h : isLetterOrDigit c = true) :
    c.toNat < 0x80 := by
  simp only [isLetterOrDigit, isLetter, Bool.or_eq_true, Bool.and_eq_true, decide_eq_true_eq,
    beq_iff_eq, Char.le_def, UInt32.le_iff_toNat_le] at h
  change (((65 ≤ c.toNat ∧ c.toNat ≤ 90) ∨ (97 ≤ c.toNat ∧ c.toNat ≤ 122)) ∨ c = '_') ∨
    (48 ≤ c.toNat ∧ c.toNat ≤ 57) at h
  rcases h with ((h | h) | rfl) | h
  · omega
  · omega
  · decide
  · omega

/-- All characters of a name are letters, digits and underscores. -/
theorem Word.forall_mem {s : String} (h : Word s) :
    ∀ c ∈ s.toList, isLetterOrDigit c = true := by
  obtain ⟨c, rest, hs, hc, hrest⟩ := h
  rw [hs]
  exact List.forall_mem_cons.2 ⟨isLetterOrDigit_of_isLetter hc, hrest⟩

/-! ## By pattern -/

theorem isName_iff {s : String} : isName s = true ↔ Word s := by
  rw [isName, Pattern.matchesText, identifierPattern, Pattern.matches_both]
  constructor
  · rintro ⟨front, back, hsplit, hfront, hback⟩
    obtain ⟨c, rfl, hc⟩ := Pattern.matches_one.1 hfront
    exact ⟨c, back, hsplit, hc, Pattern.matches_many_one.1 hback⟩
  · rintro ⟨c, rest, hs, hc, hrest⟩
    exact ⟨[c], rest, hs, Pattern.matches_one.2 ⟨c, rfl, hc⟩, Pattern.matches_many_one.2 hrest⟩

/-- A name, or two with a point between them. -/
def TableWord (s : String) : Prop :=
  Word s ∨ ∃ database table, Word database ∧ Word table ∧ s = database ++ "." ++ table

theorem isTableName_iff {s : String} : isTableName s = true ↔ TableWord s := by
  have hword : ∀ cs, identifierPattern.matchesChars cs = true ↔ Word (String.ofList cs) := by
    intro cs
    rw [← isName_iff, isName, Pattern.matchesText, String.toList_ofList]
  have hpoint : ∀ cs, (Pattern.exactly '.').matchesChars cs = true ↔ cs = ['.'] := by
    intro cs
    rw [Pattern.exactly, Pattern.matches_one]
    constructor
    · rintro ⟨c, rfl, hc⟩
      rw [beq_iff_eq.1 hc]
    · rintro rfl
      exact ⟨'.', rfl, rfl⟩
  rw [isTableName, Pattern.matchesText, tablePattern, Pattern.matches_both]
  constructor
  · rintro ⟨front, back, hsplit, hfront, hback⟩
    rcases Pattern.matches_maybe.1 hback with rfl | hback
    · rw [List.append_nil] at hsplit
      rw [← hsplit, hword, String.ofList_toList] at hfront
      exact Or.inl hfront
    · obtain ⟨point, rest, rfl, hdot, hrest⟩ := Pattern.matches_both.1 hback
      obtain rfl := (hpoint point).1 hdot
      refine Or.inr ⟨_, _, (hword front).1 hfront, (hword rest).1 hrest, ?_⟩
      apply String.toList_inj.1
      rw [hsplit]
      simp
  · rintro (hs | ⟨database, table, hdatabase, htable, rfl⟩)
    · refine ⟨s.toList, [], (List.append_nil _).symm, ?_, Pattern.matches_maybe.2 (Or.inl rfl)⟩
      rwa [hword, String.ofList_toList]
    · refine ⟨database.toList, '.' :: table.toList, by simp, ?_, ?_⟩
      · rwa [hword, String.ofList_toList]
      · refine Pattern.matches_maybe.2 (Or.inr (Pattern.matches_both.2 ?_))
        refine ⟨['.'], table.toList, rfl, (hpoint _).2 rfl, ?_⟩
        rwa [hword, String.ofList_toList]

/-! ## By characters -/

theorem isAlpha_or_underscore (c : Char) : (c.isAlpha || c == '_') = isLetter c := by
  have hupper : c.isUpper = (decide ('A' ≤ c) && decide (c ≤ 'Z')) := Bool.decide_and _ _
  have hlower : c.isLower = (decide ('a' ≤ c) && decide (c ≤ 'z')) := rfl
  unfold Char.isAlpha
  rw [hupper, hlower]
  rfl

theorem isAlphanum_or_underscore (c : Char) :
    (c.isAlphanum || c == '_') = isLetterOrDigit c := by
  have hdigit : c.isDigit = (decide ('0' ≤ c) && decide (c ≤ '9')) := rfl
  unfold Char.isAlphanum
  rw [isLetterOrDigit, ← isAlpha_or_underscore, ← hdigit, Bool.or_right_comm]

theorem isIdentifier_iff {s : String} : isIdentifier s = true ↔ Word s := by
  unfold isIdentifier Word
  cases s.toList with
  | nil => exact iff_of_false (fun h => by cases h) fun ⟨c, rest, h, _⟩ => by cases h
  | cons c cs =>
      rw [isIdentifierChars, Bool.and_eq_true, List.all_eq_true, isAlpha_or_underscore]
      simp only [isAlphanum_or_underscore]
      constructor
      · exact fun h => ⟨c, cs, rfl, h.1, h.2⟩
      · rintro ⟨c', cs', heq, hc, hcs⟩
        obtain ⟨rfl, rfl⟩ := List.cons.inj heq
        exact ⟨hc, hcs⟩

end Sql

end StoreGate
