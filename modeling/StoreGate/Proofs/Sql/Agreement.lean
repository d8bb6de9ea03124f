import StoreGate.Proofs.Search.Plan
import StoreGate.Proofs.Sql.Name

/-!
# One kind of name for all statements

Searches and ingested events have their names checked by a pattern, descriptions of tables by a walk
over the characters. Both say the same of every text; and the pattern of tables takes what they
take, or two such names with a point between them. So no way into a statement is wider than another.

* `Sql.IsNarrow`, `Sql.TableWord.isNarrow` — what characters a name of a table has, and how many
  points.
* `Sql.IsStray`, `Sql.IsNarrow.not_isStray` — texts that a careless recogniser may take for names.
* `recognisers_agree` — the three recognisers, on every text.
-/

namespace StoreGate

namespace Sql

/-! ## What names have in common -/

theorem Word.ne_empty {s : String} (h : Word s) : s ≠ "" := by
  rintro rfl
  obtain ⟨c, rest, hs, -, -⟩ := h
  cases hs

/-- A name has no points. -/
theorem Word.count_point {s : String} (h : Word s) : s.toList.count '.' = 0 := by
  refine List.count_eq_zero_of_not_mem fun hpoint => ?_
  have hnot : isLetterOrDigit '.' = false := by decide
  rw [h.forall_mem '.' hpoint] at hnot
  cases hnot

/-- The text is not empty, all its characters are letters, digits and underscores of ASCII and
points, and it has one point at most. -/
structure IsNarrow (s : String) : Prop where
  ne_empty : s ≠ ""
  chars : ∀ c ∈ s.toList, isLetterOrDigit c = true ∨ c = '.'
  points : s.toList.count '.' ≤ 1

theorem Word.isNarrow {s : String} (h : Word s) : IsNarrow s :=
  ⟨h.ne_empty, fun c hc => Or.inl (h.forall_mem c hc),
    Nat.le_trans (Nat.le_of_eq h.count_point) (Nat.zero_le 1)⟩

/-- **The name of a table is narrow.** -/
theorem TableWord.isNarrow {s : String} (h : TableWord s) : IsNarrow s := by
  rcases h with hword | ⟨database, table, hdatabase, htable, rfl⟩
  · exact hword.isNarrow
  · have hlist : (database ++ "." ++ table).toList = database.toList ++ '.' :: table.toList := by
      simp
    refine ⟨?_, ?_, ?_⟩
    · intro hempty
      rw [hempty] at hlist
      exact absurd hlist.symm (by simp)
    · rw [hlist]
      intro c hc
      rcases List.mem_append.1 hc with hc | hc
      · exact Or.inl (hdatabase.forall_mem c hc)
      · rcases List.mem_cons.1 hc with rfl | hc
        · exact Or.inr rfl
        · exact Or.inl (htable.forall_mem c hc)
    · have hcount : (database ++ "." ++ table).toList.count '.' = 0 + (0 + 1) := by
        rw [hlist, List.count_append, List.count_cons_self, hdatabase.count_point,
          htable.count_point]
      exact Nat.le_of_eq hcount

/-- The text is empty, ends with the end of a line, has a character beyond ASCII, or has more than
one point. -/
def IsStray (s : String) : Prop :=
  s = "" ∨ (∃ line, s = line ++ "\n") ∨ (∃ c ∈ s.toList, 0x80 ≤ c.toNat) ∨
    2 ≤ s.toList.count '.'

theorem IsNarrow.not_isStray {s : String} (h : IsNarrow s) : ¬ IsStray s := by
  rintro (hempty | ⟨line, hline⟩ | ⟨c, hc, hbeyond⟩ | hpoints)
  · exact h.ne_empty hempty
  · have hend : '\n' ∈ s.toList := by
      rw [hline]
      simp
    have hnot : isLetterOrDigit '\n' = false := by decide
    rcases h.chars '\n' hend with hletter | hpoint
    · rw [hnot] at hletter
      cases hletter
    · exact absurd hpoint (by decide)
  · rcases h.chars c hc with hletter | rfl
    · exact absurd (toNat_lt_of_isLetterOrDigit hletter) (Nat.not_lt.2 hbeyond)
    · exact absurd hbeyond (by decide)
  · exact absurd hpoints (Nat.not_le.2 (Nat.lt_succ_of_le h.points))

theorem isTableName_of_isStray {s : String} (h : IsStray s) : isTableName s = false :=
  Bool.eq_false_iff.2 fun htable => (isTableName_iff.1 htable).isNarrow.not_isStray h

theorem isName_of_isStray {s : String} (h : IsStray s) : isName s = false :=
  Bool.eq_false_iff.2 fun hname => (isName_iff.1 hname).isNarrow.not_isStray h

/-- **The two recognisers of names** are one. -/
theorem isName_eq_isIdentifier (s : String) : isName s = isIdentifier s :=
  Bool.eq_iff_iff.2 (isName_iff.trans isIdentifier_iff.symm)

end Sql

/-! ## The recognisers -/

theorem checkName_of_not_isName {what name : String} (h : Sql.isName name = false) :
    checkName what name = .error (.badName what name) := by
  rw [checkName, h]
  rfl

/-- **The recognisers agree.** Whatever a name is checked for, the pattern passes the texts that it
describes, and they are those that the walk over the characters passes. The pattern of tables passes
the texts that it describes, and they are those, and two of them with a point between them. None of
the three passes the empty text, the end of a line, a letter or a digit beyond ASCII, or a second
point. -/
theorem recognisers_agree (what s : String) :
    (checkName what s = .ok () ↔ Sql.isIdentifier s = true) ∧
      (checkName what s = .ok () ↔ Sql.identifierPattern.Describes s.toList) ∧
      (Sql.isTableName s = true ↔ Sql.isIdentifier s = true ∨
        ∃ database table, Sql.isIdentifier database = true ∧ Sql.isIdentifier table = true ∧
          s = database ++ "." ++ table) ∧
      (Sql.isTableName s = true ↔ Sql.tablePattern.Describes s.toList) ∧
      (Sql.IsStray s → checkName what s = .error (.badName what s) ∧
        Sql.isIdentifier s = false ∧ Sql.isTableName s = false) := by
  refine ⟨?_, ?_, ?_, Pattern.matches_iff_describes, ?_⟩
  · rw [checkName_eq_ok, Sql.isName_eq_isIdentifier]
  · exact checkName_eq_ok.trans Pattern.matches_iff_describes
  · simp only [Sql.isTableName_iff, Sql.TableWord, Sql.isIdentifier_iff]
  · intro hstray
    have hname := Sql.isName_of_isStray hstray
    refine ⟨checkName_of_not_isName hname, ?_, Sql.isTableName_of_isStray hstray⟩
    rwa [← Sql.isName_eq_isIdentifier]

/-- The name of a table with the end of a line behind it. -/
theorem recognisers_agree_of_lineEnd :
    Sql.IsStray "logs.app\n" ∧
      checkName "field" "logs.app\n" = .error (.badName "field" "logs.app\n") ∧
      Sql.isIdentifier "logs.app\n" = false ∧ Sql.isTableName "logs.app\n" = false :=
  have hstray : Sql.IsStray "logs.app\n" := .inr (.inl ⟨"logs.app", rfl⟩)
  ⟨hstray, (recognisers_agree "field" "logs.app\n").2.2.2.2 hstray⟩

end StoreGate
