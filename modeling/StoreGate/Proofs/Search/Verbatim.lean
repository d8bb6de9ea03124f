import StoreGate.Proofs.Search.Hit

/-!
# Words that stand in a text as they are

The words of a search are compared with a text after both have been put in lower case, each on its
own. A capital sigma is final in the words, and none in the text, or the other way round, if letters
stand next to the words there. So words that stand in a text as they were given may not be found.

* `SearchHit.FoundIn` — a text in which words are found, in whatever row it stands.
* `SearchHit.foundIn_iff` — the texts in which they are found.
* `verbatim_found_iff` — the words that are found wherever they stand as they are.
* `verbatim_not_always_found` — words that are not.
-/

namespace StoreGate

namespace SearchHit

/-- Every hit of a row that has the text in a searched field, and no two columns of one name, has a
snippet of the field. -/
def FoundIn (keywords text : String) : Prop :=
  ∀ (table : String) (columns : List String) (row : List Json) (fields : List String)
    (limit : Nat) (name : String), columns.Nodup → (name, .str text) ∈ columns.zip row →
      name ∈ fields → ((ofRow table columns row fields keywords limit).snippets.get? name).isSome

/-- **Words are found** in the texts whose lower case has theirs as a part. -/
theorem foundIn_iff {keywords text : String} (h : keywords ≠ "") :
    FoundIn keywords text ↔
      Text.lowerChars keywords.toList <:+: Text.lowerChars text.toList := by
  have hshows : ShowsWords keywords (.str text) ↔
      Text.lowerChars keywords.toList <:+: Text.lowerChars text.toList := by
    simp [ShowsWords, Text.lower, h]
  rw [← hshows]
  constructor
  · intro hfound
    have hsome := hfound "logs" ["message"] [.str text] ["message"] 0 "message"
      (by decide) List.mem_cons_self List.mem_cons_self
    obtain ⟨-, value, hmem, hwords⟩ := ((reflects_ofRow _ _ _ _ _ _).isSome_snippet _).1 hsome
    obtain ⟨-, rfl⟩ := Prod.mk.inj (List.mem_singleton.1 hmem)
    exact hwords
  · intro hwords table columns row fields limit name _ hmem hfield
    exact ((reflects_ofRow _ _ _ _ _ _).isSome_snippet _).2 ⟨hfield, .str text, hmem, hwords⟩

end SearchHit

/-- **Words that are found as they are.** Where words stand in a text, they are found if the letters
around them leave their capital sigmas final or not as in the words alone. The words that are found
in every text in which they stand are those whose sigmas are settled by the words alone, so all that
have none. -/
theorem verbatim_found_iff {keywords : String} (h : keywords ≠ "") :
    (∀ front rest : String,
      Text.SigmasAsAlone keywords.toList front.toList rest.toList →
        SearchHit.FoundIn keywords (front ++ keywords ++ rest)) ∧
    ((∀ text : String, keywords.toList <:+: text.toList → SearchHit.FoundIn keywords text) ↔
      Text.SigmasSettled keywords.toList) ∧
    (Text.capitalSigma ∉ keywords.toList → Text.SigmasSettled keywords.toList) := by
  have hne : keywords.toList ≠ [] := fun hnil => h (String.toList_inj.1 hnil)
  refine ⟨?_, ?_, ?_⟩
  · intro front rest halone
    rw [SearchHit.foundIn_iff h, String.toList_append, String.toList_append]
    exact Text.lowerChars_infix_of_asAlone halone
  · rw [← Text.lowerChars_infix_iff_settled hne]
    constructor
    · intro hfound front rest
      have hpart := hfound (.ofList (front ++ keywords.toList ++ rest))
        ⟨front, rest, String.toList_ofList.symm⟩
      rwa [SearchHit.foundIn_iff h, String.toList_ofList] at hpart
    · rintro hfound text ⟨front, rest, htext⟩
      rw [SearchHit.foundIn_iff h, ← htext]
      exact hfound front rest
  · intro hsigma front rest heq
    exact absurd (heq ▸ List.mem_append_right _ List.mem_cons_self) hsigma

/-- The sigma within these words is followed by a letter of theirs. -/
theorem verbatim_found_of_innerSigma :
    "ΜΕΣΑ" ≠ "" ∧ "ΜΕΣΑ".toList <:+: "ΚΑΙ ΜΕΣΑΙΩΝΑΣ".toList ∧
      SearchHit.FoundIn "ΜΕΣΑ" "ΚΑΙ ΜΕΣΑΙΩΝΑΣ" := by
  have hsettled : Text.SigmasSettled "ΜΕΣΑ".toList := by
    intro front rest heq
    have hlist : "ΜΕΣΑ".toList = ['Μ', 'Ε', 'Σ', 'Α'] := by decide +kernel
    rw [hlist] at heq
    obtain ⟨rfl, rfl⟩ : front = ['Μ', 'Ε'] ∧ rest = ['Α'] := by
      simpa [List.cons_eq_append_iff, Text.capitalSigma] using heq
    exact .inl (by decide +kernel)
  have hpart : "ΜΕΣΑ".toList <:+: "ΚΑΙ ΜΕΣΑΙΩΝΑΣ".toList := by decide +kernel
  exact ⟨by decide, hpart, (verbatim_found_iff (by decide)).2.1.2 hsettled _ hpart⟩

/-- **Words are not found as they are.** Alone, the words end in a final sigma; in the text a letter
follows it. -/
theorem verbatim_not_always_found :
    ¬ ∀ keywords text : String, keywords ≠ "" → keywords.toList <:+: text.toList →
      SearchHit.FoundIn keywords text := by
  intro hall
  have hpart : "ΟΔΟΣ".toList <:+: "ΟΔΟΣΗΜΑΝΣΗ".toList := by decide +kernel
  have hfound := hall "ΟΔΟΣ" "ΟΔΟΣΗΜΑΝΣΗ" (by decide) hpart "logs" ["message"]
    [.str "ΟΔΟΣΗΜΑΝΣΗ"] ["message"] 100 "message" (by decide) List.mem_cons_self (by decide)
  have hnone : ((SearchHit.ofRow "logs" ["message"] [.str "ΟΔΟΣΗΜΑΝΣΗ"] ["message"] "ΟΔΟΣ"
      100).snippets.get? "message").isSome = false := by decide +kernel
  rw [hnone] at hfound
  cases hfound

end StoreGate
